import DocTemplate.Template.Codec

/-!
# Rendered nodes

The output of rendering: data is resolved and styles are merged with the tokens, so nothing refers
back to a view.  A fragment is what a repeater produces; a container takes the nodes of a fragment
into its own children.
-/

namespace DocTemplate

/-! ## Nodes -/

structure TableHeader where
  label : String
  width : Option String
  align : Option ColumnAlign
  deriving DecidableEq, Repr

structure RenderedFlow where
  direction : Direction
  gap : Option Binary64
  align : Option Align
  justify : Option Justify
  wrap : Bool
  deriving DecidableEq

structure RenderedPicture where
  src : String
  alt : String
  objectFit : Option ObjectFit
  aspectRatio : Option Binary64
  deriving DecidableEq

inductive Box where
  | frame (id : Option String) (style : Object) (pageBreak : Bool)
  | stack (id : Option String) (style : Object) (flow : RenderedFlow)
  | grid (id : Option String) (style : Object) (cells : Cells)
  | fragment

inductive Figure where
  | text (id : Option String) (style : Object) (content : String)
  | image (id : Option String) (style : Object) (picture : RenderedPicture)
  | table (id : Option String) (style : Object) (headers : List TableHeader)
      (rows : List (List String))
  | divider (id : Option String) (style : Object) (thickness : Binary64) (color : Option String)

inductive Rendered where
  | box (kind : Box) (children : List Rendered)
  | figure (kind : Figure)

/-! ## Views of a node -/

def Box.name : Box → String
  | .frame _ _ _ => "Frame"
  | .stack _ _ _ => "Stack"
  | .grid _ _ _ => "Grid"
  | .fragment => "Fragment"

def Figure.name : Figure → String
  | .text _ _ _ => "Text"
  | .image _ _ _ => "Image"
  | .table _ _ _ _ => "Table"
  | .divider _ _ _ _ => "Divider"

def Box.style? : Box → Option Object
  | .frame _ style _ => some style
  | .stack _ style _ => some style
  | .grid _ style _ => some style
  | .fragment => none

def Figure.style : Figure → Object
  | .text _ style _ => style
  | .image _ style _ => style
  | .table _ style _ _ => style
  | .divider _ style _ _ => style

def Figure.texts : Figure → List String
  | .text _ _ content => [content]
  | _ => []

namespace Rendered

def name : Rendered → String
  | .box kind _ => kind.name
  | .figure kind => kind.name

def style? : Rendered → Option Object
  | .box kind _ => kind.style?
  | .figure kind => some kind.style

def children : Rendered → List Rendered
  | .box _ children => children
  | .figure _ => []

mutual

def texts : Rendered → List String
  | .box _ children => textsOf children
  | .figure kind => kind.texts

def textsOf : List Rendered → List String
  | [] => []
  | node :: rest => node.texts ++ textsOf rest

end

mutual

def nodeCount : Rendered → Nat
  | .box _ children => 1 + nodeCounts children
  | .figure _ => 1

def nodeCounts : List Rendered → Nat
  | [] => 0
  | node :: rest => node.nodeCount + nodeCounts rest

end

end Rendered

/-! ## Writing -/

open Json (required? optional? defaulted? positional? optionalField)

def TableHeader.toJson (header : TableHeader) : Json :=
  .object (("label", .text header.label) ::
    (optionalField .text "width" header.width ++
      optionalField (fun align => .text align.name) "align" header.align))

def rowsToJson (rows : List (List String)) : Json :=
  .list (rows.map fun row => .list (row.map Json.text))

def RenderedFlow.fields (flow : RenderedFlow) : List (String × Json) :=
  ("direction", .text flow.direction.name) ::
    (optionalField Json.ofFloat "gap" flow.gap ++
      optionalField (fun align => .text align.name) "align" flow.align ++
      optionalField (fun justify => .text justify.name) "justify" flow.justify ++
      [("wrap", .bool flow.wrap)])

def RenderedPicture.fields (picture : RenderedPicture) : List (String × Json) :=
  [("src", .text picture.src), ("alt", .text picture.alt)] ++
    optionalField (fun fit => .text fit.name) "objectFit" picture.objectFit ++
    optionalField Json.ofFloat "aspectRatio" picture.aspectRatio

def identified (name : String) (id : Option String) (style : Object) : List (String × Json) :=
  ("type", .text name) :: (optionalField .text "id" id ++ [("style", style.toJson)])

def Box.fields : Box → List (String × Json)
  | .frame id style pageBreak => identified "Frame" id style ++ [("pageBreak", .bool pageBreak)]
  | .stack id style flow => identified "Stack" id style ++ flow.fields
  | .grid id style cells => identified "Grid" id style ++ cells.fields
  | .fragment => [("type", .text "Fragment")]

def Figure.fields : Figure → List (String × Json)
  | .text id style content => identified "Text" id style ++ [("content", .text content)]
  | .image id style picture => identified "Image" id style ++ picture.fields
  | .table id style headers rows =>
      identified "Table" id style ++
        [("columns", .list (headers.map TableHeader.toJson)), ("rows", rowsToJson rows)]
  | .divider id style thickness color =>
      identified "Divider" id style ++
        (("thickness", Json.ofFloat thickness) :: optionalField .text "color" color)

namespace Rendered

mutual

def toJson : Rendered → Json
  | .box kind children => .object (kind.fields ++ [("children", .list (toJsons children))])
  | .figure kind => .object kind.fields

def toJsons : List Rendered → List Json
  | [] => []
  | node :: rest => node.toJson :: toJsons rest

end

end Rendered

/-! ## Reading -/

def TableHeader.keys : List String := ["label", "width", "align"]

def TableHeader.ofJson? (value : Json) : Option TableHeader := do
  let fields ← value.asRecord? keys
  let label ← required? Json.asText? fields "label"
  let width ← optional? Json.asText? fields "width"
  let align ← optional? ColumnAlign.ofJson? fields "align"
  return ⟨label, width, align⟩

def headersOfJson? (value : Json) : Option (List TableHeader) := do
  (← value.asList?).mapM TableHeader.ofJson?

def rowOfJson? (value : Json) : Option (List String) := do
  (← value.asList?).mapM Json.asText?

def rowsOfJson? (value : Json) : Option (List (List String)) := do
  (← value.asList?).mapM rowOfJson?

def RenderedFlow.ofFields? (fields : List (String × Json)) : Option RenderedFlow := do
  let direction ← required? Direction.ofJson? fields "direction"
  let gap ← optional? Json.asFloat? fields "gap"
  let align ← optional? Align.ofJson? fields "align"
  let justify ← optional? Justify.ofJson? fields "justify"
  let wrap ← defaulted? Json.asBool? false fields "wrap"
  return ⟨direction, gap, align, justify, wrap⟩

def RenderedPicture.ofFields? (fields : List (String × Json)) : Option RenderedPicture := do
  let src ← required? Json.asText? fields "src"
  let alt ← defaulted? Json.asText? "" fields "alt"
  let objectFit ← optional? ObjectFit.ofJson? fields "objectFit"
  let aspectRatio ← optional? Json.asFloat? fields "aspectRatio"
  return ⟨src, alt, objectFit, aspectRatio⟩

def identityOfFields? (fields : List (String × Json)) : Option (Option String × Object) := do
  let id ← optional? Json.asText? fields "id"
  let style ← defaulted? Json.asObject? .empty fields "style"
  return (id, style)

def Rendered.kindOfFields? (name : String) (fields : List (String × Json)) :
    Option (Box ⊕ Figure) :=
  match name with
  | "Frame" => do
      let (id, style) ← identityOfFields? fields
      let pageBreak ← defaulted? Json.asBool? false fields "pageBreak"
      return .inl (.frame id style pageBreak)
  | "Stack" => do
      let (id, style) ← identityOfFields? fields
      let flow ← RenderedFlow.ofFields? fields
      return .inl (.stack id style flow)
  | "Grid" => do
      let (id, style) ← identityOfFields? fields
      let cells ← Cells.ofFields? fields
      return .inl (.grid id style cells)
  | "Fragment" => some (.inl .fragment)
  | "Text" => do
      let (id, style) ← identityOfFields? fields
      let content ← required? Json.asText? fields "content"
      return .inr (.text id style content)
  | "Image" => do
      let (id, style) ← identityOfFields? fields
      let picture ← RenderedPicture.ofFields? fields
      return .inr (.image id style picture)
  | "Table" => do
      let (id, style) ← identityOfFields? fields
      let headers ← required? headersOfJson? fields "columns"
      let rows ← required? rowsOfJson? fields "rows"
      return .inr (.table id style headers rows)
  | "Divider" => do
      let (id, style) ← identityOfFields? fields
      let thickness ← required? Json.asFloat? fields "thickness"
      let color ← optional? Json.asText? fields "color"
      return .inr (.divider id style thickness color)
  | _ => none

namespace Rendered

def typeNames : List String :=
  ["Frame", "Stack", "Grid", "Text", "Image", "Table", "Divider", "Fragment"]

def keys : String → List String
  | "Frame" => ["id", "style", "pageBreak", "children"]
  | "Stack" => ["id", "style", "direction", "gap", "align", "justify", "wrap", "children"]
  | "Grid" => ["id", "style", "cols", "rows", "gap", "children"]
  | "Text" => ["id", "style", "content"]
  | "Image" => ["id", "style", "src", "alt", "objectFit", "aspectRatio"]
  | "Table" => ["id", "style", "columns", "rows"]
  | "Divider" => ["id", "style", "thickness", "color"]
  | "Fragment" => ["children"]
  | _ => []

/-- A type is named, or counted from the first one. -/
def typeName? : Json → Option String
  | .text name => some name
  | .number (.whole position) => if position < 0 then none else typeNames[position.toNat]?
  | _ => none

/-- Only a box looks for children. -/
def holding? (children : Unit → Option (List Rendered)) : Box ⊕ Figure → Option Rendered
  | .inl kind => (children ()).map (.box kind)
  | .inr kind => some (.figure kind)

mutual

def ofInnerJson? : Json → Option Rendered
  | .object fields => do
      let name ← required? typeName? fields "type"
      let kind ← kindOfFields? name fields
      holding? (fun _ => childrenOfFields? fields) kind
  | .list (type :: items) => do
      let name ← typeName? type
      let fields ← positional? (keys name) items
      let kind ← kindOfFields? name fields
      holding? (fun _ => childrenOfItems? (keys name) items) kind
  | _ => none

/-- The children of a box may not be missing. -/
def childrenOfFields? : List (String × Json) → Option (List Rendered)
  | [] => none
  | (key, value) :: rest =>
      if key = "children" then
        if rest.any (·.1 == "children") then none else childrenOfJson? value
      else childrenOfFields? rest

def childrenOfItems? (keys : List String) : List Json → Option (List Rendered)
  | [] => none
  | item :: rest =>
      match keys with
      | [] => none
      | key :: keys =>
          if key = "children" then childrenOfJson? item else childrenOfItems? keys rest

def childrenOfJson? : Json → Option (List Rendered)
  | .list items => ofJsons? items
  | _ => none

def ofJsons? : List Json → Option (List Rendered)
  | [] => some []
  | item :: rest =>
      match ofInnerJson? item with
      | none => none
      | some node => (ofJsons? rest).map (node :: ·)

end

def statesName : Json → Bool
  | .object fields => (required? Json.asText? fields "type").isSome
  | .list (.text _ :: _) => true
  | _ => false

/-- The outermost node has to state the name of its type. -/
def ofJson? (value : Json) : Option Rendered :=
  if statesName value then ofInnerJson? value else none

end Rendered

end DocTemplate
