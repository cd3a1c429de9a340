import DocTemplate.Edit.Arena

/-!
# Compaction

Nodes that no root leads to are dropped and the others move together in their order, so children
still stand in front of their parents.
-/

namespace DocTemplate.Arena

/-! ## Nodes in use -/

abbrev Flags := Array Bool

def Flags.has (flags : Flags) (id : NodeId) : Bool := flags.getD id false

def Flags.mark (flags : Flags) (ids : List NodeId) : Flags :=
  ids.foldl (fun flags id => flags.setIfInBounds id true) flags

/-- From the last node down, since children stand in front of their parents. -/
def sweep (arena : Arena) : Nat → Flags → Flags
  | 0, flags => flags
  | id + 1, flags =>
      sweep arena id (if flags.has id then flags.mark (arena.childrenOf id) else flags)

def inUse (arena : Arena) (roots : List NodeId) : Flags :=
  arena.sweep arena.size (Flags.mark (Array.replicate arena.size false) roots)

/-! ## New positions -/

def positionsFrom (before : Nat) : List Bool → List Nat
  | [] => []
  | flag :: rest => before :: positionsFrom (if flag then before + 1 else before) rest

structure Compaction where
  arena : Arena
  renumber : NodeId → NodeId
  reclaimed : Nat

def compact (arena : Arena) (roots : List NodeId) : Compaction :=
  let flags := arena.inUse roots
  let positions := (positionsFrom 0 flags.toList).toArray
  let renumber (id : NodeId) : NodeId := if flags.has id then positions.getD id id else id
  let kept := (arena.nodes.toList.zip flags.toList).filterMap fun (node, flag) =>
    if flag then some { node with children := node.children.map renumber } else none
  ⟨⟨kept.toArray⟩, renumber, arena.size - kept.length⟩

end DocTemplate.Arena
