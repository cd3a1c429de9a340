import DocTemplate.Render.Node
import DocTemplate.Render.Resolve
import DocTemplate.Render.Diagnostic
import DocTemplate.Template.Document

/-!
# Rendering

A template is rendered against a view and design tokens.  An element whose condition does not hold
is left out with everything in it.  A repeater shows its children once for each item of its list,
and a table has one row for each; the item replaces the scope around it.
-/

namespace DocTemplate

structure RenderOptions where
  dateFormat : String
  collectDiagnostics : Bool
  deriving DecidableEq, Repr

namespace RenderOptions

def default : RenderOptions := ⟨Formatter.defaultPattern, true⟩

def keys : List String := ["dateFormat", "collectDiagnostics"]

def ofJson? (value : Json) : Option RenderOptions := do
  let fields ← value.asRecord? keys
  let dateFormat ← Json.defaulted? Json.asText? default.dateFormat fields "dateFormat"
  let collect ← Json.defaulted? Json.asBool? default.collectDiagnostics fields "collectDiagnostics"
  return ⟨dateFormat, collect⟩

end RenderOptions

structure RenderSetting where
  view : View
  tokens : DesignTokens
  options : RenderOptions

/-- Where in the template a render is, and what it leaves to the next one. -/
structure RenderMemory where
  path : ElementPath
  paths : PathMemory
  diagnostics : List Diagnostic

def RenderMemory.empty : RenderMemory := ⟨.root, ∅, []⟩

abbrev RenderM := StateM RenderMemory

namespace RenderSetting

/-! ## The way through the template -/

def enter (index : Nat) : RenderM Unit :=
  modify fun memory => { memory with path := memory.path.child index }

def leave : RenderM Unit := modify fun memory => { memory with path := memory.path.dropLast }

def inChild {α : Type} (index : Nat) (action : RenderM α) : RenderM α := do
  enter index
  let result ← action
  leave
  return result

/-! ## Diagnostics and data -/

def diagnose (setting : RenderSetting) (cause : DiagnosticCause) : RenderM Unit :=
  if setting.options.collectDiagnostics then
    modify fun memory =>
      { memory with diagnostics := memory.diagnostics ++ [⟨memory.path, cause⟩] }
  else pure ()

def withPaths {α : Type} (action : StateM PathMemory α) : RenderM α :=
  modifyGet fun memory =>
    let (result, paths) := action.run memory.paths
    (result, { memory with paths })

def isShown (setting : RenderSetting) (scope : Option Json) :
    Option Condition → RenderM Bool
  | none => pure true
  | some condition =>
      match Test.parse condition.expression with
      | .ok test => pure (test.holds setting.view scope != condition.invert)
      | .error error => do
          setting.diagnose (.malformedCondition error)
          pure (false != condition.invert)

def boundText (setting : RenderSetting) (scope : Option Json) (binding : DataBinding) :
    RenderM String := do
  match binding.unknownFormatter? with
  | some name => setting.diagnose (.unknownFormatter name)
  | none => pure ()
  withPaths (binding.resolve setting.options.dateFormat setting.view scope)

def boundItems (setting : RenderSetting) (scope : Option Json) (binding : DataBinding) :
    RenderM (List Json) := do
  match ← withPaths (PathMemory.lookup? binding.path setting.view scope) with
  | some (.list items) => return items
  | _ => return []

def boundOr (setting : RenderSetting) (scope : Option Json) (literal : Option String) :
    Option DataBinding → RenderM String
  | some binding => setting.boundText scope binding
  | none => pure (literal.getD "")

/-! ## Styles -/

def ownStyle (style : Option Object) : Object := style.getD .empty

/-- The defaults that have a value, under the properties of the element itself. -/
def styleOver (defaults : List (String × Option String)) (style : Option Object) : Object :=
  .overlay (defaults.filterMap fun (property, value) =>
    value.map fun text => (property, .text text)) (ownStyle style)

def textStyle (setting : RenderSetting) (style : Option Object) : Object :=
  styleOver [("color", setting.tokens.color? "text"),
    ("fontFamily", setting.tokens.typography? "fontFamily")] style

def tableStyle (setting : RenderSetting) (style : Option Object) : Object :=
  styleOver [("headerColor", setting.tokens.color? "primary"),
    ("fontFamily", setting.tokens.typography? "fontFamily")] style

/-! ## Leaves -/

def renderCell (setting : RenderSetting) (row : Json) (column : Column) : RenderM String :=
  setting.boundOr (some row) none column.binding

def renderRow (setting : RenderSetting) (columns : List Column) (row : Json) :
    RenderM (List String) :=
  columns.mapM (setting.renderCell row)

def header (column : Column) : TableHeader := ⟨column.label, column.width, column.align⟩

def renderLeaf (setting : RenderSetting) (scope : Option Json) :
    Leaf → RenderM (Option Rendered)
  | .text attributes content binding => do
      let content ← setting.boundOr scope content binding
      return some (.figure (.text attributes.id (setting.textStyle attributes.style) content))
  | .image attributes picture => do
      let src ← setting.boundOr scope picture.src picture.binding
      return some (.figure (.image attributes.id (ownStyle attributes.style)
        ⟨src, picture.alt.getD "", picture.objectFit, picture.aspectRatio⟩))
  | .table attributes columns binding => do
      let items ← setting.boundItems scope binding
      let rows ← items.mapM (setting.renderRow columns)
      return some (.figure (.table attributes.id (setting.tableStyle attributes.style)
        (columns.map header) rows))
  | .divider attributes rule =>
      return some (.figure (.divider attributes.id (ownStyle attributes.style)
        (rule.thickness.getD .one) (rule.color.or (setting.tokens.color? "border"))))
  | .unknown fields => do
      setting.diagnose (.unknownTag (unknownType fields))
      return none

/-! ## Containers -/

/-- A container takes the nodes of a fragment instead of the fragment. -/
def spliced : Option Rendered → List Rendered
  | none => []
  | some (.box .fragment children) => children
  | some node => [node]

/-- A style on a repeater puts each of its instances into a frame of that style. -/
def repeated (style : Option Object) (instances : List (List Rendered)) : List Rendered :=
  if (ownStyle style).isEmpty then instances.flatten
  else instances.map (.box (.frame none (ownStyle style) false))

def flowOf (flow : Flow) : RenderedFlow :=
  ⟨flow.direction, flow.gap, flow.align, flow.justify, flow.wrap.getD false⟩

mutual

def renderElement (setting : RenderSetting) (scope : Option Json) :
    Element → RenderM (Option Rendered)
  | .leaf kind => do
      if ← setting.isShown scope kind.attributes.condition then
        setting.renderLeaf scope kind
      else return none
  | .container kind children => do
      if ← setting.isShown scope kind.attributes.condition then
        match kind with
        | .frame attributes pageBreak => do
            let nodes ← renderChildren setting 0 scope children
            return some (.box (.frame attributes.id (ownStyle attributes.style)
              (pageBreak.getD false)) nodes)
        | .stack attributes flow => do
            let nodes ← renderChildren setting 0 scope children
            return some (.box (.stack attributes.id (ownStyle attributes.style) (flowOf flow)) nodes)
        | .grid attributes cells => do
            let nodes ← renderChildren setting 0 scope children
            return some (.box (.grid attributes.id (ownStyle attributes.style) cells) nodes)
        | .repeater style _ binding => do
            let items ← setting.boundItems scope binding
            let instances ← items.mapM fun item =>
              renderChildren setting 0 (some item) children
            return some (.box .fragment (repeated style instances))
      else return none

def renderChildren (setting : RenderSetting) (index : Nat) (scope : Option Json) :
    List Element → RenderM (List Rendered)
  | [] => return []
  | child :: rest => do
      let node ← inChild index (renderElement setting scope child)
      let nodes ← renderChildren setting (index + 1) scope rest
      return spliced node ++ nodes

end

end RenderSetting

/-! ## Renderers -/

structure Renderer where
  setting : RenderSetting
  memory : RenderMemory

namespace Renderer

def start (view : View) (tokens : DesignTokens) (options : RenderOptions) : Renderer :=
  ⟨⟨view, tokens, options⟩, .empty⟩

/-- A render starts at the root, and adds its diagnostics to those of earlier renders. -/
def render (renderer : Renderer) (element : Element) (scope : Option Json) :
    Option Rendered × Renderer :=
  let (node, memory) :=
    (renderer.setting.renderElement scope element).run { renderer.memory with path := .root }
  (node, { renderer with memory })

def takeDiagnostics (renderer : Renderer) : List Diagnostic × Renderer :=
  (renderer.memory.diagnostics,
    { renderer with memory := { renderer.memory with diagnostics := [] } })

end Renderer

structure RenderReport where
  rendered : Option Rendered
  diagnostics : List Diagnostic

namespace RenderReport

def ofTemplate (view : View) (tokens : DesignTokens) (options : RenderOptions)
    (template : Element) : RenderReport :=
  let (rendered, renderer) := (Renderer.start view tokens options).render template none
  ⟨rendered, renderer.takeDiagnostics.1⟩

def toJson (report : RenderReport) : Json :=
  .object [("rendered", (report.rendered.map Rendered.toJson).getD .null),
    ("diagnostics", .list (report.diagnostics.map Diagnostic.toJson))]

end RenderReport

end DocTemplate
