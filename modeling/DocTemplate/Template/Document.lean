import DocTemplate.Template.Codec
import DocTemplate.Json.Reader
import DocTemplate.Json.Printer

/-!
# Documents

A document is a template with its design tokens: named colours and typography that elements take as
defaults of presentation.
-/

namespace DocTemplate

/-! ## Design tokens -/

structure DesignTokens where
  colors : KeyMap String
  typography : KeyMap String
  deriving DecidableEq

namespace DesignTokens

def empty : DesignTokens := ⟨.empty, .empty⟩

instance : Inhabited DesignTokens := ⟨empty⟩

def color? (tokens : DesignTokens) (key : String) : Option String := tokens.colors.get? key

def typography? (tokens : DesignTokens) (key : String) : Option String :=
  tokens.typography.get? key

def withColor (tokens : DesignTokens) (key value : String) : DesignTokens :=
  { tokens with colors := tokens.colors.insert key value }

def withTypography (tokens : DesignTokens) (key value : String) : DesignTokens :=
  { tokens with typography := tokens.typography.insert key value }

def textMapToJson (map : KeyMap String) : Json :=
  .object (map.entries.map fun (key, value) => (key, .text value))

def toJson (tokens : DesignTokens) : Json :=
  .object [("colors", textMapToJson tokens.colors),
    ("typography", textMapToJson tokens.typography)]

def keys : List String := ["colors", "typography"]

def ofJson? (value : Json) : Option DesignTokens := do
  let fields ← value.asRecord? keys
  let colors ← Json.defaulted? Json.asTextMap? .empty fields "colors"
  let typography ← Json.defaulted? Json.asTextMap? .empty fields "typography"
  return ⟨colors, typography⟩

end DesignTokens

/-! ## Documents -/

structure Document where
  template : Element
  tokens : DesignTokens

namespace Document

def blank : Document := ⟨.blank, .empty⟩

instance : Inhabited Document := ⟨blank⟩

def toJson (document : Document) : Json :=
  .object [("template", document.template.toJson), ("tokens", document.tokens.toJson)]

def keys : List String := ["template", "tokens"]

def ofJson? (value : Json) : Option Document := do
  let fields ← value.asRecord? keys
  let template ← Json.required? Element.ofJson? fields "template"
  let tokens ← Json.defaulted? DesignTokens.ofJson? .empty fields "tokens"
  return ⟨template, tokens⟩

def read? (source : String) : Option Document := (Json.read? source).bind ofJson?

def write (document : Document) (pretty : Bool) : String :=
  if pretty then document.toJson.pretty else document.toJson.compact

end Document

end DocTemplate
