import DocTemplate.Proofs.Edit.Refinement

/-!
# What an edit comes to

Two statements about an edit of a tree that speak of neither arenas nor nodes: the edit leads to
another tree and names a place in it, or it is refused for a reason.  Each holds of the running edit
in every arena that holds the tree, and each is what the plain edit says.
-/

namespace DocTemplate.Edit

/-- In every arena that holds `tree` the edit ends with a node for `after` and names `reached`. -/
def Leads (edit : Edit) (tree after : Element) (reached : ElementPath) : Prop :=
  ∀ (arena : Arena) (root : NodeId), arena.Holds [root] [tree] →
    ∃ relinked grown, edit.applyTo arena root = (.ok relinked, grown) ∧
      grown.build relinked = after ∧ edit.resultPath grown relinked = reached

def Refused (edit : Edit) (tree : Element) (error : EditError) : Prop :=
  ∀ (arena : Arena) (root : NodeId), arena.Holds [root] [tree] →
    edit.applyTo arena root = (.error error, arena)

variable {edit : Edit} {tree after : Element} {reached : ElementPath} {error : EditError}

private theorem exists_holds (tree : Element) :
    ∃ (arena : Arena) (root : NodeId), arena.Holds [root] [tree] :=
  ⟨_, _, Arena.holds_insertTree tree Arena.wellFormed_empty⟩

private theorem leads_of_onTree (h : edit.onTree tree = .ok after) :
    edit.Leads tree after (edit.placeIn tree) := by
  intro arena root hholds
  rw [← hholds.build_single] at h ⊢
  obtain ⟨relinked, grown, hrun, -, hafter, hplace⟩ :=
    applyTo_of_ok hholds.wellFormed hholds.lt_size h
  exact ⟨relinked, grown, hrun, hafter.build_single, hplace⟩

theorem refused_of_onTree (h : edit.onTree tree = .error error) : edit.Refused tree error := by
  intro arena root hholds
  rw [← hholds.build_single] at h
  exact applyTo_of_error hholds.wellFormed hholds.lt_size h

theorem leads_iff :
    edit.Leads tree after reached ↔ edit.onTree tree = .ok after ∧ edit.placeIn tree = reached := by
  constructor
  · intro h
    obtain ⟨arena, root, hholds⟩ := exists_holds tree
    obtain ⟨relinked, grown, hrun, rfl, rfl⟩ := h arena root hholds
    cases htree : edit.onTree tree with
    | error error =>
        rw [refused_of_onTree htree arena root hholds] at hrun
        cases hrun
    | ok changed =>
        obtain ⟨relinked', grown', hrun', hafter, hplace⟩ :=
          leads_of_onTree htree arena root hholds
        cases hrun.symm.trans hrun'
        exact ⟨congrArg Except.ok hafter.symm, hplace.symm⟩
  · rintro ⟨h, rfl⟩
    exact leads_of_onTree h

end DocTemplate.Edit
