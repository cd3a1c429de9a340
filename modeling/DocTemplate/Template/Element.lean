import DocTemplate.Template.Binding

/-!
# Elements

A template is a tree of elements.  Containers hold children and leaves do not; an element whose type
is not one of the known tags is a leaf that keeps its fields as they are.
-/

namespace DocTemplate

/-! ## Tags -/

inductive Tag where
  | frame
  | stack
  | grid
  | text
  | image
  | table
  | divider
  | repeater
  deriving DecidableEq, Repr

namespace Tag

def all : List Tag := [.frame, .stack, .grid, .text, .image, .table, .divider, .repeater]

def name : Tag → String
  | .frame => "Frame"
  | .stack => "Stack"
  | .grid => "Grid"
  | .text => "Text"
  | .image => "Image"
  | .table => "Table"
  | .divider => "Divider"
  | .repeater => "Repeater"

def ofName? (name : String) : Option Tag := all.find? (·.name == name)

def isContainer : Tag → Bool
  | .frame | .stack | .grid | .repeater => true
  | .text | .image | .table | .divider => false

@[simp] theorem ofName?_name (tag : Tag) : ofName? tag.name = some tag := by cases tag <;> decide

end Tag

/-! ## Choices of a field -/

inductive Direction where
  | row
  | column
  deriving DecidableEq, Repr

inductive Align where
  | start
  | center
  | «end»
  | stretch
  deriving DecidableEq, Repr

inductive Justify where
  | start
  | center
  | «end»
  | spaceBetween
  | spaceAround
  deriving DecidableEq, Repr

inductive ObjectFit where
  | cover
  | contain
  | fill
  deriving DecidableEq, Repr

inductive ColumnAlign where
  | left
  | center
  | right
  deriving DecidableEq, Repr

/-! ## Parts of elements -/

structure Column where
  label : String
  width : Option String
  align : Option ColumnAlign
  binding : Option DataBinding
  deriving DecidableEq, Repr

def Column.ofPath (label path : String) : Column := ⟨label, none, none, some (.ofPath path)⟩

structure Attributes where
  id : Option String
  style : Option Object
  condition : Option Condition

def Attributes.none : Attributes := ⟨.none, .none, .none⟩

structure Flow where
  direction : Direction
  gap : Option Binary64
  align : Option Align
  justify : Option Justify
  wrap : Option Bool
  deriving DecidableEq

structure Cells where
  cols : UInt32
  rows : Option UInt32
  gap : Option Binary64
  deriving DecidableEq

structure Picture where
  src : Option String
  binding : Option DataBinding
  alt : Option String
  objectFit : Option ObjectFit
  aspectRatio : Option Binary64
  deriving DecidableEq

structure Rule where
  thickness : Option Binary64
  color : Option String
  deriving DecidableEq

/-! ## Elements -/

inductive Container where
  | frame (attributes : Attributes) (pageBreak : Option Bool)
  | stack (attributes : Attributes) (flow : Flow)
  | grid (attributes : Attributes) (cells : Cells)
  | repeater (style : Option Object) (condition : Option Condition) (binding : DataBinding)

inductive Leaf where
  | text (attributes : Attributes) (content : Option String) (binding : Option DataBinding)
  | image (attributes : Attributes) (picture : Picture)
  | table (attributes : Attributes) (columns : List Column) (binding : DataBinding)
  | divider (attributes : Attributes) (rule : Rule)
  | unknown (fields : Object)

inductive Element where
  | container (kind : Container) (children : List Element)
  | leaf (kind : Leaf)

/-- An element without its children. -/
inductive Shape where
  | container (kind : Container)
  | leaf (kind : Leaf)

/-! ## Common attributes -/

def Container.attributes : Container → Attributes
  | .frame attributes _ => attributes
  | .stack attributes _ => attributes
  | .grid attributes _ => attributes
  | .repeater style condition _ => ⟨none, style, condition⟩

def Leaf.attributes : Leaf → Attributes
  | .text attributes _ _ => attributes
  | .image attributes _ => attributes
  | .table attributes _ _ => attributes
  | .divider attributes _ => attributes
  | .unknown _ => .none

def Container.setCondition (condition : Option Condition) : Container → Container
  | .frame attributes pageBreak => .frame { attributes with condition } pageBreak
  | .stack attributes flow => .stack { attributes with condition } flow
  | .grid attributes cells => .grid { attributes with condition } cells
  | .repeater style _ binding => .repeater style condition binding

def Leaf.setCondition (condition : Option Condition) : Leaf → Leaf
  | .text attributes content binding => .text { attributes with condition } content binding
  | .image attributes picture => .image { attributes with condition } picture
  | .table attributes columns binding => .table { attributes with condition } columns binding
  | .divider attributes rule => .divider { attributes with condition } rule
  | .unknown fields => .unknown fields

def Container.tag : Container → Tag
  | .frame _ _ => .frame
  | .stack _ _ => .stack
  | .grid _ _ => .grid
  | .repeater _ _ _ => .repeater

def Leaf.tag? : Leaf → Option Tag
  | .text _ _ _ => some .text
  | .image _ _ => some .image
  | .table _ _ _ => some .table
  | .divider _ _ => some .divider
  | .unknown _ => none

def unknownType (fields : Object) : String :=
  match fields.get? "type" with
  | some (.text name) => name
  | _ => ""

/-! ## Shapes -/

namespace Shape

def isContainer : Shape → Bool
  | .container _ => true
  | .leaf _ => false

/-- Children given to a leaf are dropped. -/
def element (shape : Shape) (children : List Element) : Element :=
  match shape with
  | .container kind => .container kind children
  | .leaf kind => .leaf kind

end Shape

/-! ## Trees -/

namespace Element

def shape : Element → Shape
  | .container kind _ => .container kind
  | .leaf kind => .leaf kind

def children : Element → List Element
  | .container _ children => children
  | .leaf _ => []

@[simp] theorem element_shape_children (element : Element) :
    element.shape.element element.children = element := by
  cases element <;> rfl

def isContainer (element : Element) : Bool := element.shape.isContainer

def attributes : Element → Attributes
  | .container kind _ => kind.attributes
  | .leaf kind => kind.attributes

def id (element : Element) : Option String := element.attributes.id

def style (element : Element) : Option Object := element.attributes.style

def condition (element : Element) : Option Condition := element.attributes.condition

def tag? : Element → Option Tag
  | .container kind _ => some kind.tag
  | .leaf kind => kind.tag?

def setCondition (condition : Option Condition) : Element → Element
  | .container kind children => .container (kind.setCondition condition) children
  | .leaf kind => .leaf (kind.setCondition condition)

def withCondition (element : Element) (condition : Condition) : Element :=
  element.setCondition (some condition)

mutual

def nodeCount : Element → Nat
  | .container _ children => 1 + nodeCounts children
  | .leaf _ => 1

def nodeCounts : List Element → Nat
  | [] => 0
  | child :: rest => child.nodeCount + nodeCounts rest

end

/-! ## Plain elements -/

def frame (children : List Element) : Element := .container (.frame .none none) children

def stack (direction : Direction) (children : List Element) : Element :=
  .container (.stack .none ⟨direction, none, none, none, none⟩) children

def grid (cols : UInt32) (children : List Element) : Element :=
  .container (.grid .none ⟨cols, none, none⟩) children

def text (content : String) : Element := .leaf (.text .none (some content) none)

def boundText (binding : DataBinding) : Element := .leaf (.text .none none (some binding))

def image (src : String) : Element :=
  .leaf (.image .none ⟨some src, none, none, none, none⟩)

def table (binding : DataBinding) (columns : List Column) : Element :=
  .leaf (.table .none columns binding)

def divider : Element := .leaf (.divider .none ⟨none, none⟩)

def unknown (name : String) : Element :=
  .leaf (.unknown (.ofFields [("type", .text name)]))

def repeater (binding : DataBinding) (children : List Element) : Element :=
  .container (.repeater none none binding) children

def blank : Element := frame []

instance : Inhabited Element := ⟨blank⟩

end Element

end DocTemplate
