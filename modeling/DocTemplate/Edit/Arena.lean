import DocTemplate.Template.Path

/-!
# Arena

Elements of many versions of a template, stored once each.  A node holds an element without its
children and the positions of its children, and is never changed: a new version allocates the
changed node and its ancestors and shares everything else.  Children are allocated before their
parent, so their positions are smaller.
-/

namespace DocTemplate

abbrev NodeId := Nat

structure Node where
  shape : Shape
  children : List NodeId

structure Arena where
  nodes : Array Node

namespace Arena

def empty : Arena := ⟨#[]⟩

def size (arena : Arena) : Nat := arena.nodes.size

def node? (arena : Arena) (id : NodeId) : Option Node := arena.nodes[id]?

def childrenOf (arena : Arena) (id : NodeId) : List NodeId :=
  match arena.node? id with
  | some node => node.children
  | none => []

def shapeOf (arena : Arena) (id : NodeId) : Shape :=
  match arena.node? id with
  | some node => node.shape
  | none => Element.blank.shape

/-! ## Allocation -/

def push (arena : Arena) (node : Node) : Arena := ⟨arena.nodes.push node⟩

def alloc (shape : Shape) (children : List NodeId) : StateM Arena NodeId :=
  modifyGet fun arena => (arena.size, arena.push ⟨shape, children⟩)

mutual

def insertTree : Element → StateM Arena NodeId
  | .container kind children => do
      let ids ← insertTrees children
      alloc (.container kind) ids
  | .leaf kind => alloc (.leaf kind) []

def insertTrees : List Element → StateM Arena (List NodeId)
  | [] => return []
  | child :: rest => do
      let id ← insertTree child
      let ids ← insertTrees rest
      return id :: ids

end

def truncate (arena : Arena) (size : Nat) : Arena := ⟨arena.nodes.take size⟩

/-! ## Reading trees -/

def followed (arena : Arena) (id : NodeId) : List { child : NodeId // child < id } :=
  (arena.childrenOf id).filterMap fun child => if h : child < id then some ⟨child, h⟩ else none

/-- The tree that is stored at a position. -/
def build (arena : Arena) (id : NodeId) : Element :=
  (arena.shapeOf id).element ((arena.followed id).map fun ⟨child, _⟩ => arena.build child)
termination_by id

def subtreeSize (arena : Arena) (id : NodeId) : Nat :=
  1 + ((arena.followed id).map fun ⟨child, _⟩ => arena.subtreeSize child).foldr (· + ·) 0
termination_by id

/-! ## Paths -/

def resolve? (arena : Arena) (root : NodeId) : ElementPath → Option NodeId
  | [] => some root
  | index :: rest => ((arena.childrenOf root)[index]?).bind (arena.resolve? · rest)

/-- The nodes from the root to the end of a path, both included. -/
def ancestry? (arena : Arena) (root : NodeId) : ElementPath → Option (List NodeId)
  | [] => some [root]
  | index :: rest =>
      ((arena.childrenOf root)[index]?).bind fun child =>
        (arena.ancestry? child rest).map (root :: ·)

/-- A new root under which `replacement` stands at the path; only ancestors are allocated. -/
def relink? (root : NodeId) (replacement : NodeId) : ElementPath → StateM Arena (Option NodeId)
  | [] => return some replacement
  | index :: rest => do
      let arena ← get
      match (arena.childrenOf root)[index]? with
      | none => return none
      | some child =>
          match ← relink? child replacement rest with
          | none => return none
          | some relinked =>
              let id ← alloc (arena.shapeOf root) ((arena.childrenOf root).set index relinked)
              return some id

end Arena

end DocTemplate
