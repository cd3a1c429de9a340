import DocTemplate.Proofs.Arena.Unshared
import DocTemplate.Proofs.Edit.Refinement

/-!
# Edits leave trees unshared

An edit that is made ends with a root below which no node is met twice, if it started from one.
Only a move has two roots on the way: the detached tree and the moved one, which are apart.
-/

namespace DocTemplate

namespace Effect

variable {α β : Type} {arena : Arena} {root : NodeId}

/-! ## What an effect gives -/

/-- What is true of the value and the arena that an effect ends with, unless it is refused. -/
structure Gives (effect : Effect α) (arena : Arena) (goal : α → Arena → Prop) : Prop where
  ends : ∀ value after, effect.outcome arena = (.ok value, after) → goal value after

theorem Gives.bind {effect : Effect α} {next : α → Effect β} {between : α → Arena → Prop}
    {goal : β → Arena → Prop} (h : effect.Gives arena between)
    (hnext : ∀ value after, between value after → (next value).Gives after goal) :
    (effect >>= next).Gives arena goal := by
  constructor
  intro result final hrun
  rw [outcome_bind] at hrun
  cases hfirst : effect.outcome arena with
  | mk value after =>
      rw [hfirst] at hrun
      cases value with
      | error error => cases hrun
      | ok value => exact (hnext value after (h.ends value after hfirst)).ends result final hrun

theorem gives_pure {goal : α → Arena → Prop} {value : α} (h : goal value arena) :
    (pure value : Effect α).Gives arena goal := by
  constructor
  rintro _ _ ⟨⟩
  exact h

theorem gives_fail (error : EditError) (goal : α → Arena → Prop) :
    (fail error : Effect α).Gives arena goal :=
  ⟨nofun⟩

theorem gives_get :
    (get : Effect Arena).Gives arena fun value after => value = arena ∧ after = arena := by
  constructor
  rintro _ _ ⟨⟩
  exact ⟨rfl, rfl⟩

theorem gives_orFail (error : EditError) (value? : Option α) :
    (orFail error value?).Gives arena fun value after => value? = some value ∧ after = arena := by
  cases value? with
  | none => exact gives_fail error _
  | some value => exact gives_pure ⟨rfl, rfl⟩

theorem gives_alloc (shape : Shape) (children : List NodeId) :
    (liftM (Arena.alloc shape children) : Effect NodeId).Gives arena
      fun id after => id = arena.size ∧ after = arena.push ⟨shape, children⟩ := by
  constructor
  rintro _ _ ⟨⟩
  exact ⟨rfl, rfl⟩

theorem gives_resolve (path : ElementPath) (error : EditError) :
    (resolve root path error).Gives arena
      fun id after => arena.resolve? root path = some id ∧ after = arena := by
  refine gives_get.bind ?_
  rintro _ _ ⟨rfl, rfl⟩
  exact gives_orFail ..

theorem gives_containerAt (path : ElementPath) :
    (containerAt root path).Gives arena fun id after =>
      (arena.resolve? root path = some id ∧ (arena.shapeOf id).isContainer = true) ∧
        after = arena := by
  refine (gives_resolve ..).bind ?_
  rintro id _ ⟨hresolve, rfl⟩
  refine gives_get.bind ?_
  rintro _ _ ⟨rfl, rfl⟩
  split
  · next hcontainer => exact gives_pure ⟨⟨hresolve, hcontainer⟩, rfl⟩
  · exact gives_fail ..

/-! ## Changed nodes -/

theorem gives_changed {target : NodeId} {path : ElementPath} {shape : Shape}
    {children given taken : List NodeId} (error : EditError) (h : arena.Apart (root :: given))
    (hresolve : arena.resolve? root path = some target)
    (hchildren : (children ++ taken).Perm (arena.childrenOf target ++ given))
    (hleaf : shape.isContainer = false → children = []) :
    (relink root path arena.size error).Gives (arena.push ⟨shape, children⟩)
      fun copy after => after.Apart (copy :: taken) := by
  obtain ⟨copy, after, hrun, hafter⟩ := h.relink hresolve hchildren hleaf
  constructor
  intro value final hfinal
  simp only [relink, outcome_bind, outcome_lift, hrun, outcome_orFail_some] at hfinal
  cases hfinal
  exact hafter

private theorem gives_update (h : arena.Apart [root]) (path : ElementPath) (patch : Object) :
    (update root path patch).Gives arena fun copy after => after.Apart [copy] := by
  rw [update]
  cases hpatch : protectedField? patch with
  | some field => exact gives_fail ..
  | none =>
      refine (gives_resolve ..).bind ?_
      rintro target _ ⟨hresolve, rfl⟩
      refine gives_get.bind ?_
      rintro _ _ ⟨rfl, rfl⟩
      refine (gives_orFail ..).bind ?_
      rintro shape _ ⟨hshape, rfl⟩
      refine (gives_alloc ..).bind ?_
      rintro _ _ ⟨rfl, rfl⟩
      refine gives_changed _ h hresolve (.refl _) fun hnew => h.wellFormed.childrenOf_leaf ?_
      rw [Bool.eq_false_iff]
      intro hcontainer
      rw [isContainer_of_patchedShape? hpatch hcontainer hshape] at hnew
      contradiction

private theorem insertAt_perm (children : List NodeId) (index : Nat) (child : NodeId) :
    (insertAt children index child).Perm (children ++ [child]) := by
  rw [insertAt]
  refine List.perm_middle.trans ?_
  rw [List.take_append_drop]
  exact (List.perm_append_singleton child children).symm

theorem gives_link {child : NodeId} (h : arena.Apart [root, child]) (parent : ElementPath)
    (index : Nat) :
    (link root parent index child).Gives arena fun copy after => after.Apart [copy] := by
  refine (gives_containerAt ..).bind ?_
  rintro target _ ⟨⟨hresolve, hcontainer⟩, rfl⟩
  refine gives_get.bind ?_
  rintro _ _ ⟨rfl, rfl⟩
  refine (gives_alloc ..).bind ?_
  rintro _ _ ⟨rfl, rfl⟩
  refine gives_changed _ h hresolve ?_ (by simp [hcontainer])
  rw [List.append_nil]
  exact insertAt_perm ..

theorem gives_unlink (h : arena.Apart [root]) (parent : ElementPath) (index : Nat) :
    (unlink root parent index).Gives arena fun roots after => after.Apart [roots.1, roots.2] := by
  refine (gives_resolve ..).bind ?_
  rintro target _ ⟨hresolve, rfl⟩
  refine gives_get.bind ?_
  rintro _ _ ⟨rfl, rfl⟩
  refine (gives_orFail ..).bind ?_
  rintro removed arena ⟨hremoved, rfl⟩
  refine (gives_alloc ..).bind ?_
  rintro _ _ ⟨rfl, rfl⟩
  have hchildren : ((arena.childrenOf target).eraseIdx index ++ [removed]).Perm
      (arena.childrenOf target ++ []) := by
    rw [List.append_nil]
    exact (List.perm_append_singleton ..).trans (Arena.perm_cons_eraseIdx hremoved).symm
  refine (gives_changed _ h hresolve hchildren ?_).bind fun relinked after hafter =>
    gives_pure hafter
  simp [h.wellFormed.isContainer_of_child hremoved]

/-! ## Whole edits -/

theorem gives_insertTree {ids : List NodeId} (h : arena.Apart ids) (element : Element) :
    (liftM (Arena.insertTree element) : Effect NodeId).Gives arena
      fun id after => after.Apart (ids ++ [id]) := by
  constructor
  rintro _ _ ⟨⟩
  exact h.insertTree element

theorem gives_insert (h : arena.Apart [root]) (parent : ElementPath) (index : Nat)
    (element : Element) :
    (insert root parent index element).Gives arena fun copy after => after.Apart [copy] := by
  refine (gives_containerAt ..).bind ?_
  rintro _ _ ⟨-, rfl⟩
  exact (gives_insertTree h element).bind fun child after hafter => gives_link hafter parent index

private theorem gives_add (h : arena.Apart [root]) (parent : ElementPath) (element : Element) :
    (add root parent element).Gives arena fun copy after => after.Apart [copy] := by
  have hend : (endOf root parent).Gives arena fun _ after => after = arena := by
    refine gives_get.bind ?_
    rintro _ _ ⟨-, rfl⟩
    exact gives_pure rfl
  refine hend.bind ?_
  rintro index _ rfl
  exact gives_insert h parent index element

private theorem gives_remove (h : arena.Apart [root]) (path : ElementPath) :
    (remove root path).Gives arena fun copy after => after.Apart [copy] := by
  rw [remove]
  split
  · exact gives_insertTree (.nil h.wellFormed) .blank
  · exact (gives_unlink h _ _).bind fun roots after hafter => gives_pure hafter.of_cons

private theorem gives_move (h : arena.Apart [root]) (source target : ElementPath) (index : Nat) :
    (move root source target index).Gives arena fun copy after => after.Apart [copy] := by
  rw [move]
  split
  · exact gives_fail ..
  · split
    · exact gives_fail ..
    · refine (gives_containerAt ..).bind ?_
      rintro _ _ ⟨-, rfl⟩
      exact (gives_unlink h _ _).bind fun roots after hafter => gives_link hafter _ _

end Effect

namespace Edit

private theorem gives_effect {arena : Arena} {root : NodeId} (edit : Edit)
    (h : arena.Apart [root]) :
    (edit.effect root).Gives arena fun copy after => after.Apart [copy] := by
  cases edit with
  | updateElement path patch => exact Effect.gives_update h path patch
  | addElement parent element => exact Effect.gives_add h parent element
  | insertElement parent index element => exact Effect.gives_insert h parent index element
  | removeElement path => exact Effect.gives_remove h path
  | moveElement source target index => exact Effect.gives_move h source target index
  | updateTokens tokens => exact Effect.gives_pure h

theorem apart_applyTo {edit : Edit} {arena after : Arena} {root relinked : NodeId}
    (h : arena.Apart [root]) (happly : edit.applyTo arena root = (.ok relinked, after)) :
    after.Apart [relinked] := by
  rw [applyTo_eq] at happly
  split at happly
  · next hrun =>
      cases happly
      exact (gives_effect edit h).ends _ _ hrun
  · cases happly

end Edit

end DocTemplate
