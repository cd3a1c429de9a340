import DocTemplate.Template.Path

/-!
# Visits

Everything in a template that a walk in document order comes across: each element, then its
condition, its bindings and columns, then its children.  A visitor is shown one visit after another
on a tour of the template.
-/

namespace DocTemplate

inductive Visit where
  | element (path : ElementPath) (element : Element)
  | condition (path : ElementPath) (condition : Condition)
  | binding (path : ElementPath) (binding : DataBinding)
  | column (path : ElementPath) (column : Column)
  | unknown (path : ElementPath) (fields : Object)

/-! ## A single element -/

def Column.visits (path : ElementPath) (column : Column) : List Visit :=
  .column path column :: (column.binding.toList.map fun binding => .binding path binding)

def Container.visits (path : ElementPath) : Container → List Visit
  | .repeater _ _ binding => [.binding path binding]
  | _ => []

def Leaf.visits (path : ElementPath) : Leaf → List Visit
  | .text _ _ binding => binding.toList.map fun binding => .binding path binding
  | .image _ picture => picture.binding.toList.map fun binding => .binding path binding
  | .table _ columns binding => .binding path binding :: columns.flatMap (·.visits path)
  | .divider _ _ => []
  | .unknown fields => [.unknown path fields]

def Shape.visits (path : ElementPath) : Shape → List Visit
  | .container kind => kind.visits path
  | .leaf kind => kind.visits path

/-- The visits at an element itself, without those of its children. -/
def Element.ownVisits (path : ElementPath) (element : Element) : List Visit :=
  .element path element ::
    ((element.condition.toList.map fun condition => .condition path condition) ++
      element.shape.visits path)

/-! ## A whole tree -/

namespace Element

mutual

def visitsAt (path : ElementPath) : Element → List Visit
  | .container kind children =>
      ownVisits path (.container kind children) ++ childVisits path 0 children
  | .leaf kind => ownVisits path (.leaf kind)

def childVisits (path : ElementPath) (index : Nat) : List Element → List Visit
  | [] => []
  | child :: rest => child.visitsAt (path.child index) ++ childVisits path (index + 1) rest

end

def visits (element : Element) : List Visit := element.visitsAt .root

end Element

/-! ## Tours -/

/-- Where in a template a tour is, and what the visitor has made of the visits up to there. -/
structure Tour (σ : Type) where
  path : ElementPath
  state : σ

namespace Tour

variable {σ : Type}

def enter (tour : Tour σ) (index : Nat) : Tour σ := { tour with path := tour.path.child index }

def leave (tour : Tour σ) : Tour σ := { tour with path := tour.path.dropLast }

def meet (visitor : σ → Visit → σ) (tour : Tour σ) (element : Element) : Tour σ :=
  { tour with state := (element.ownVisits tour.path).foldl visitor tour.state }

mutual

def through (visitor : σ → Visit → σ) (tour : Tour σ) : Element → Tour σ
  | .container kind children =>
      throughChildren visitor (tour.meet visitor (.container kind children)) 0 children
  | .leaf kind => tour.meet visitor (.leaf kind)

def throughChildren (visitor : σ → Visit → σ) (tour : Tour σ) (index : Nat) :
    List Element → Tour σ
  | [] => tour
  | child :: rest =>
      throughChildren visitor (through visitor (tour.enter index) child).leave (index + 1) rest

end

end Tour

end DocTemplate
