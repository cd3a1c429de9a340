import DocTemplate.Template.Element

/-!
# Elements as JSON

Records are written in a fixed order of fields, `type` first, and a field without value is left out.
What is read with a known tag must fit that tag, be it an object or a list that starts with the
type.  An object with any other text as its `type` is an unknown element, which is written back as
it was read.
-/

namespace DocTemplate

/-! ## Choices -/

def Direction.name : Direction → String
  | .row => "row"
  | .column => "column"

def Align.name : Align → String
  | .start => "start"
  | .center => "center"
  | .end => "end"
  | .stretch => "stretch"

def Justify.name : Justify → String
  | .start => "start"
  | .center => "center"
  | .end => "end"
  | .spaceBetween => "space-between"
  | .spaceAround => "space-around"

def ObjectFit.name : ObjectFit → String
  | .cover => "cover"
  | .contain => "contain"
  | .fill => "fill"

def ColumnAlign.name : ColumnAlign → String
  | .left => "left"
  | .center => "center"
  | .right => "right"

/-- A choice is named by a text, or by the only field of an object with nothing in it. -/
def choiceName? : Json → Option String
  | .text name => some name
  | .object [(name, .null)] => some name
  | .object [(name, .object [])] => some name
  | _ => none

def choice? {α : Type} (choices : List α) (name : α → String) (value : Json) : Option α := do
  let given ← choiceName? value
  choices.find? fun choice => name choice == given

def Direction.ofJson? : Json → Option Direction := choice? [.row, .column] Direction.name

def Align.ofJson? : Json → Option Align := choice? [.start, .center, .end, .stretch] Align.name

def Justify.ofJson? : Json → Option Justify :=
  choice? [.start, .center, .end, .spaceBetween, .spaceAround] Justify.name

def ObjectFit.ofJson? : Json → Option ObjectFit := choice? [.cover, .contain, .fill] ObjectFit.name

def ColumnAlign.ofJson? : Json → Option ColumnAlign :=
  choice? [.left, .center, .right] ColumnAlign.name

open Json (required? optional? defaulted? single? positional? optionalField)

/-! ## Columns -/

def Column.toJson (column : Column) : Json :=
  .object (("label", .text column.label) ::
    (optionalField .text "width" column.width ++
      optionalField (fun align => .text align.name) "align" column.align ++
      optionalField DataBinding.toJson "binding" column.binding))

def Column.keys : List String := ["label", "width", "align", "binding"]

def Column.ofJson? (value : Json) : Option Column := do
  let fields ← value.asRecord? keys
  let label ← required? Json.asText? fields "label"
  let width ← optional? Json.asText? fields "width"
  let align ← optional? ColumnAlign.ofJson? fields "align"
  let binding ← optional? DataBinding.ofJson? fields "binding"
  return ⟨label, width, align, binding⟩

def columnsOfJson? (value : Json) : Option (List Column) := do
  let items ← value.asList?
  items.mapM Column.ofJson?

/-! ## Common attributes -/

def Attributes.fields (attributes : Attributes) : List (String × Json) :=
  optionalField .text "id" attributes.id ++
    optionalField Object.toJson "style" attributes.style ++
    optionalField Condition.toJson "condition" attributes.condition

def Attributes.ofFields? (fields : List (String × Json)) : Option Attributes := do
  let id ← optional? Json.asText? fields "id"
  let style ← optional? Json.asObject? fields "style"
  let condition ← optional? Condition.ofJson? fields "condition"
  return ⟨id, style, condition⟩

/-! ## Fields in their order -/

def typeField (tag : Tag) : String × Json := ("type", .text tag.name)

def Flow.fields (flow : Flow) : List (String × Json) :=
  ("direction", .text flow.direction.name) ::
    (optionalField Json.ofFloat "gap" flow.gap ++
      optionalField (fun align => .text align.name) "align" flow.align ++
      optionalField (fun justify => .text justify.name) "justify" flow.justify ++
      optionalField .bool "wrap" flow.wrap)

def Cells.fields (cells : Cells) : List (String × Json) :=
  ("cols", .ofNat cells.cols.toNat) ::
    (optionalField (fun rows => .ofNat rows.toNat) "rows" cells.rows ++
      optionalField Json.ofFloat "gap" cells.gap)

def Picture.fields (picture : Picture) : List (String × Json) :=
  optionalField .text "src" picture.src ++
    optionalField DataBinding.toJson "binding" picture.binding ++
    optionalField .text "alt" picture.alt ++
    optionalField (fun fit => .text fit.name) "objectFit" picture.objectFit ++
    optionalField Json.ofFloat "aspectRatio" picture.aspectRatio

def Rule.fields (rule : Rule) : List (String × Json) :=
  optionalField Json.ofFloat "thickness" rule.thickness ++
    optionalField .text "color" rule.color

def Container.fields (kind : Container) : List (String × Json) :=
  typeField kind.tag ::
    match kind with
    | .frame attributes pageBreak =>
        attributes.fields ++ optionalField .bool "pageBreak" pageBreak
    | .stack attributes flow => attributes.fields ++ flow.fields
    | .grid attributes cells => attributes.fields ++ cells.fields
    | .repeater style condition binding =>
        Attributes.fields ⟨none, style, condition⟩ ++ [("dataBinding", binding.toJson)]

def Leaf.fields : Leaf → List (String × Json)
  | .text attributes content binding =>
      typeField .text ::
        (attributes.fields ++ optionalField .text "content" content ++
          optionalField DataBinding.toJson "binding" binding)
  | .image attributes picture => typeField .image :: (attributes.fields ++ picture.fields)
  | .table attributes columns binding =>
      typeField .table ::
        (attributes.fields ++
          [("columns", .list (columns.map Column.toJson)), ("dataBinding", binding.toJson)])
  | .divider attributes rule => typeField .divider :: (attributes.fields ++ rule.fields)
  | .unknown fields => fields.fields

namespace Element

mutual

def toJson : Element → Json
  | .container kind children => .object (kind.fields ++ [("children", .list (toJsons children))])
  | .leaf kind => .object kind.fields

def toJsons : List Element → List Json
  | [] => []
  | child :: rest => child.toJson :: toJsons rest

end

end Element

/-! ## The fields of a tag -/

def Attributes.names : List String := ["id", "style", "condition"]

def Flow.names : List String := ["direction", "gap", "align", "justify", "wrap"]

def Cells.names : List String := ["cols", "rows", "gap"]

def Picture.names : List String := ["src", "binding", "alt", "objectFit", "aspectRatio"]

def Rule.names : List String := ["thickness", "color"]

/-- The fields of an element with this tag, but for its type and its children. -/
def Shape.names : Tag → List String
  | .frame => Attributes.names ++ ["pageBreak"]
  | .stack => Attributes.names ++ Flow.names
  | .grid => Attributes.names ++ Cells.names
  | .text => Attributes.names ++ ["content", "binding"]
  | .image => Attributes.names ++ Picture.names
  | .table => Attributes.names ++ ["columns", "dataBinding"]
  | .divider => Attributes.names ++ Rule.names
  | .repeater => ["style", "condition", "dataBinding"]

def Tag.keys (tag : Tag) : List String :=
  Shape.names tag ++ if tag.isContainer then ["children"] else []

def Flow.ofFields? (fields : List (String × Json)) : Option Flow := do
  let direction ← defaulted? Direction.ofJson? .column fields "direction"
  let gap ← optional? Json.asFloat? fields "gap"
  let align ← optional? Align.ofJson? fields "align"
  let justify ← optional? Justify.ofJson? fields "justify"
  let wrap ← optional? Json.asBool? fields "wrap"
  return ⟨direction, gap, align, justify, wrap⟩

def Cells.ofFields? (fields : List (String × Json)) : Option Cells := do
  let cols ← required? Json.asUInt32? fields "cols"
  let rows ← optional? Json.asUInt32? fields "rows"
  let gap ← optional? Json.asFloat? fields "gap"
  return ⟨cols, rows, gap⟩

def Picture.ofFields? (fields : List (String × Json)) : Option Picture := do
  let src ← optional? Json.asText? fields "src"
  let binding ← optional? DataBinding.ofJson? fields "binding"
  let alt ← optional? Json.asText? fields "alt"
  let objectFit ← optional? ObjectFit.ofJson? fields "objectFit"
  let aspectRatio ← optional? Json.asFloat? fields "aspectRatio"
  return ⟨src, binding, alt, objectFit, aspectRatio⟩

def Rule.ofFields? (fields : List (String × Json)) : Option Rule := do
  let thickness ← optional? Json.asFloat? fields "thickness"
  let color ← optional? Json.asText? fields "color"
  return ⟨thickness, color⟩

namespace Shape

/-- A repeater has no identifier to read, so a field `id` of one may hold anything. -/
def ofFields? (tag : Tag) (fields : List (String × Json)) : Option Shape :=
  match tag with
  | .frame => do
      let attributes ← Attributes.ofFields? fields
      let pageBreak ← optional? Json.asBool? fields "pageBreak"
      return .container (.frame attributes pageBreak)
  | .stack => do
      let attributes ← Attributes.ofFields? fields
      let flow ← Flow.ofFields? fields
      return .container (.stack attributes flow)
  | .grid => do
      let attributes ← Attributes.ofFields? fields
      let cells ← Cells.ofFields? fields
      return .container (.grid attributes cells)
  | .text => do
      let attributes ← Attributes.ofFields? fields
      let content ← optional? Json.asText? fields "content"
      let binding ← optional? DataBinding.ofJson? fields "binding"
      return .leaf (.text attributes content binding)
  | .image => do
      let attributes ← Attributes.ofFields? fields
      let picture ← Picture.ofFields? fields
      return .leaf (.image attributes picture)
  | .table => do
      let attributes ← Attributes.ofFields? fields
      let columns ← defaulted? columnsOfJson? [] fields "columns"
      let binding ← required? DataBinding.ofJson? fields "dataBinding"
      return .leaf (.table attributes columns binding)
  | .divider => do
      let attributes ← Attributes.ofFields? fields
      let rule ← Rule.ofFields? fields
      return .leaf (.divider attributes rule)
  | .repeater => do
      let style ← optional? Json.asObject? fields "style"
      let condition ← optional? Condition.ofJson? fields "condition"
      let binding ← required? DataBinding.ofJson? fields "dataBinding"
      return .container (.repeater style condition binding)

end Shape

/-! ## Reading elements -/

/-- A tag is named, or counted from the first one. -/
def Tag.ofJson? : Json → Option Tag
  | .text name => ofName? name
  | .number (.whole position) => if position < 0 then none else all[position.toNat]?
  | _ => none

/-- A type given twice names no tag. -/
def knownTag? (fields : List (String × Json)) : Option Tag := required? Tag.ofJson? fields "type"

/-- Any text that is not the name of a tag is the type of an unknown element. -/
def unknownOfFields? (fields : List (String × Json)) : Option Leaf := do
  let object := Object.ofFields fields
  let name ← (← object.get? "type").asText?
  if (Tag.ofName? name).isSome then none else some (.unknown object)

def Shape.holding? (shape : Shape) (children : Unit → Option (List Element)) : Option Element :=
  match shape with
  | .container kind => (children ()).map (.container kind)
  | .leaf kind => some (.leaf kind)

namespace Element

mutual

def ofJson? : Json → Option Element
  | .object fields =>
      match knownTag? fields with
      | none => (unknownOfFields? fields).map .leaf
      | some tag => do
          let shape ← Shape.ofFields? tag fields
          shape.holding? fun _ => childrenOfFields? fields
  | .list (type :: items) => do
      let tag ← Tag.ofJson? type
      let fields ← positional? tag.keys items
      let shape ← Shape.ofFields? tag fields
      shape.holding? fun _ => childrenOfItems? tag.keys items
  | _ => none

/-- A container without the field has no children. -/
def childrenOfFields? : List (String × Json) → Option (List Element)
  | [] => some []
  | (key, value) :: rest =>
      if key = "children" then
        if rest.any (·.1 == "children") then none else childrenOfJson? value
      else childrenOfFields? rest

def childrenOfItems? (keys : List String) : List Json → Option (List Element)
  | [] => some []
  | item :: rest =>
      match keys with
      | [] => some []
      | key :: keys =>
          if key = "children" then childrenOfJson? item else childrenOfItems? keys rest

def childrenOfJson? : Json → Option (List Element)
  | .list items => ofJsons? items
  | _ => none

def ofJsons? : List Json → Option (List Element)
  | [] => some []
  | item :: rest =>
      match ofJson? item with
      | none => none
      | some element => (ofJsons? rest).map (element :: ·)

end

end Element

end DocTemplate
