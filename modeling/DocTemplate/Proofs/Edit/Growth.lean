import DocTemplate.Edit.Effect
import DocTemplate.Proofs.Arena.Growth

/-!
# Effects only add nodes

Whatever an effect does before it ends or fails, it adds nodes to the arena and changes none.  So a
refused edit, which is cut off at the old size, leaves the arena exactly as it was.
-/

namespace DocTemplate

namespace Effect

variable {α β : Type}

/-! ## Runs -/

def outcome (effect : Effect α) (arena : Arena) : Except EditError α × Arena :=
  effect.run.run arena

@[simp] theorem outcome_pure (value : α) (arena : Arena) :
    outcome (pure value) arena = (.ok value, arena) := rfl

@[simp] theorem outcome_get (arena : Arena) :
    outcome (get : Effect Arena) arena = (.ok arena, arena) := rfl

@[simp] theorem outcome_orFail_some (error : EditError) (value : α) (arena : Arena) :
    outcome (orFail error (some value)) arena = (.ok value, arena) := rfl

@[simp] theorem outcome_orFail_none (error : EditError) (arena : Arena) :
    outcome (orFail error none : Effect α) arena = (.error error, arena) := rfl

theorem outcome_lift (action : StateM Arena α) (arena : Arena) :
    outcome (liftM action : Effect α) arena = (.ok (action.run arena).1, (action.run arena).2) :=
  rfl

@[simp] theorem outcome_bind (effect : Effect α) (next : α → Effect β) (arena : Arena) :
    outcome (effect >>= next) arena =
      match effect.outcome arena with
      | (.ok value, after) => (next value).outcome after
      | (.error error, after) => (.error error, after) := by
  rw [outcome, ExceptT.run_bind, StateT.run_bind, outcome]
  cases effect.run.run arena with
  | mk result after => cases result <;> rfl

/-! ## Growth -/

structure Grows (effect : Effect α) : Prop where
  outcome_extends : ∀ arena, (effect.outcome arena).2.Extends arena

theorem grows_pure (value : α) : (pure value : Effect α).Grows := ⟨.refl⟩

theorem grows_fail (error : EditError) : (fail error : Effect α).Grows := ⟨.refl⟩

theorem grows_get : (get : Effect Arena).Grows := ⟨.refl⟩

theorem grows_orFail (error : EditError) (value? : Option α) : (orFail error value?).Grows := by
  cases value? with
  | none => exact grows_fail error
  | some value => exact grows_pure value

theorem grows_alloc (shape : Shape) (children : List NodeId) :
    (liftM (Arena.alloc shape children) : Effect NodeId).Grows :=
  ⟨fun arena => .push arena ⟨shape, children⟩⟩

theorem grows_insertTree (element : Element) :
    (liftM (Arena.insertTree element) : Effect NodeId).Grows :=
  ⟨Arena.extends_insertTree element⟩

theorem Grows.bind {effect : Effect α} {next : α → Effect β} (h : effect.Grows)
    (hnext : ∀ value, (next value).Grows) : (effect >>= next).Grows := by
  constructor
  intro arena
  have hfirst := h.outcome_extends arena
  rw [outcome_bind]
  cases hrun : effect.outcome arena with
  | mk result after =>
      rw [hrun] at hfirst
      cases result with
      | error error => exact hfirst
      | ok value => exact ((hnext value).outcome_extends after).trans hfirst

theorem grows_resolve (root : NodeId) (path : ElementPath) (error : EditError) :
    (resolve root path error).Grows :=
  grows_get.bind fun _ => grows_orFail ..

theorem grows_relink (root : NodeId) (path : ElementPath) (replacement : NodeId)
    (error : EditError) : (relink root path replacement error).Grows :=
  Grows.bind ⟨Arena.extends_relink? root replacement path⟩ fun _ => grows_orFail ..

theorem grows_containerAt (root : NodeId) (path : ElementPath) : (containerAt root path).Grows := by
  refine (grows_resolve ..).bind fun id => grows_get.bind fun arena => ?_
  split
  · exact grows_pure id
  · exact grows_fail _

private theorem grows_update (root : NodeId) (path : ElementPath) (patch : Object) :
    (update root path patch).Grows := by
  rw [update]
  split
  · exact grows_fail _
  · exact (grows_resolve ..).bind fun _ => grows_get.bind fun _ => (grows_orFail ..).bind fun _ =>
      (grows_alloc ..).bind fun _ => grows_relink ..

theorem grows_link (root : NodeId) (parent : ElementPath) (index : Nat) (child : NodeId) :
    (link root parent index child).Grows :=
  (grows_containerAt ..).bind fun _ => grows_get.bind fun _ => (grows_alloc ..).bind fun _ =>
    grows_relink ..

theorem grows_unlink (root : NodeId) (parent : ElementPath) (index : Nat) :
    (unlink root parent index).Grows :=
  (grows_resolve ..).bind fun _ => grows_get.bind fun _ => (grows_orFail ..).bind fun _ =>
    (grows_alloc ..).bind fun _ => (grows_relink ..).bind fun _ => grows_pure _

theorem grows_insert (root : NodeId) (parent : ElementPath) (index : Nat) (element : Element) :
    (insert root parent index element).Grows :=
  (grows_containerAt ..).bind fun _ => (grows_insertTree element).bind fun _ => grows_link ..

private theorem grows_add (root : NodeId) (parent : ElementPath) (element : Element) :
    (add root parent element).Grows :=
  (grows_get.bind fun _ => grows_pure _ : (endOf root parent).Grows).bind fun _ => grows_insert ..

private theorem grows_remove (root : NodeId) (path : ElementPath) : (remove root path).Grows := by
  rw [remove]
  split
  · exact grows_insertTree .blank
  · exact (grows_unlink ..).bind fun _ => grows_pure _

private theorem grows_move (root : NodeId) (source target : ElementPath) (index : Nat) :
    (move root source target index).Grows := by
  rw [move]
  split
  · exact grows_fail _
  · split
    · exact grows_fail _
    · exact (grows_containerAt ..).bind fun _ => (grows_unlink ..).bind fun _ => grows_link ..

end Effect

namespace Edit

theorem grows_effect (edit : Edit) (root : NodeId) : (edit.effect root).Grows := by
  cases edit with
  | updateElement path patch => exact Effect.grows_update ..
  | addElement parent element => exact Effect.grows_add ..
  | insertElement parent index element => exact Effect.grows_insert ..
  | removeElement path => exact Effect.grows_remove ..
  | moveElement source target index => exact Effect.grows_move ..
  | updateTokens tokens => exact Effect.grows_pure root

theorem applyTo_eq (edit : Edit) (arena : Arena) (root : NodeId) :
    edit.applyTo arena root =
      match (edit.effect root).outcome arena with
      | (.ok relinked, after) => (.ok relinked, after)
      | (.error error, _) => (.error error, arena) := by
  have hgrowth := (grows_effect edit root).outcome_extends arena
  rw [applyTo]
  cases hrun : (edit.effect root).outcome arena with
  | mk result after =>
      rw [hrun] at hgrowth
      rw [Effect.outcome] at hrun
      cases result with
      | ok relinked => simp only [hrun]
      | error error => simp only [hrun, hgrowth.truncate]

theorem eq_of_applyTo_error {edit : Edit} {arena after : Arena} {root : NodeId} {error : EditError}
    (h : edit.applyTo arena root = (.error error, after)) : after = arena := by
  rw [applyTo_eq] at h
  split at h
  · cases h
  · cases h
    rfl

theorem applyTo_extends {edit : Edit} {arena after : Arena} {root relinked : NodeId}
    (h : edit.applyTo arena root = (.ok relinked, after)) : after.Extends arena := by
  have hgrowth := (grows_effect edit root).outcome_extends arena
  rw [applyTo_eq] at h
  split at h
  · next heq =>
      cases h
      simpa [heq] using hgrowth
  · cases h

end Edit

end DocTemplate
