import DocTemplate.Edit.History
import DocTemplate.Render.Renderer

/-!
# Settings

What the commands can be told by a settings file; whatever it does not say has a default.
-/

namespace DocTemplate.CommandLine

structure Settings where
  historyLimit : Nat
  dateFormat : String
  pretty : Bool
  deriving DecidableEq, Repr

namespace Settings

def default : Settings := ⟨History.defaultLimit, Formatter.defaultPattern, true⟩

def defaultFile : String := "vellum.config.json"

def keys : List String := ["historyLimit", "dateFormat", "pretty"]

def ofJson? (value : Json) : Option Settings := do
  let fields ← value.asRecord? keys
  let historyLimit ←
    Json.defaulted? (Json.asNat? Text.indexBound) default.historyLimit fields "historyLimit"
  let dateFormat ← Json.defaulted? Json.asText? default.dateFormat fields "dateFormat"
  let pretty ← Json.defaulted? Json.asBool? default.pretty fields "pretty"
  return ⟨historyLimit, dateFormat, pretty⟩

def renderOptions (settings : Settings) : RenderOptions := ⟨settings.dateFormat, true⟩

def write (settings : Settings) (value : Json) : String :=
  if settings.pretty then value.pretty else value.compact

end Settings

end DocTemplate.CommandLine
