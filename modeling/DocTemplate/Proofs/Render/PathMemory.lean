import DocTemplate.Render.Resolve

/-!
# The memory of paths does not matter

What a binding shows, said without a memory of paths.  As long as every path in the memory is the
one that its text stands for, reading with the memory gives just that and keeps the memory so.
-/

namespace DocTemplate

/-! ## Reading without a memory -/

def View.valueAt? (view : View) (scope : Option Json) (source : String) : Option Json :=
  match DataPath.parse source with
  | .error _ => none
  | .ok path => path.lookup? view scope

namespace DataBinding

def outcome (binding : DataBinding) (pattern : String) (view : View) (scope : Option Json) :
    Except ResolveError (Option String) :=
  match DataPath.parse binding.path with
  | .error error => .error (.path error)
  | .ok path =>
      match path.lookup? view scope with
      | none => .ok none
      | some value => ((binding.shown pattern value).map some).mapError .format

def textIn (binding : DataBinding) (pattern : String) (view : View) (scope : Option Json) :
    String :=
  match binding.outcome pattern view scope with
  | .ok (some text) => text
  | _ => binding.fallbackText

def itemsIn (binding : DataBinding) (view : View) (scope : Option Json) : List Json :=
  match view.valueAt? scope binding.path with
  | some (.list items) => items
  | _ => []

end DataBinding

namespace PathMemory

/-! ## Faithful memories -/

/-- Every path that is remembered is the one that its text stands for. -/
def Faithful (memory : PathMemory) : Prop :=
  ∀ source path, memory.get? source = some path → DataPath.parse source = .ok path

theorem faithful_empty : Faithful ∅ := by
  intro source path h
  simp at h

private theorem Faithful.insert {memory : PathMemory} (h : memory.Faithful) {source : String}
    {path : DataPath} (hparse : DataPath.parse source = .ok path) :
    Faithful (memory.insert source path) := by
  intro other found hfound
  rw [Std.HashMap.get?_eq_getElem?, Std.HashMap.getElem?_insert] at hfound
  split at hfound
  · next heq =>
      cases hfound
      rwa [← eq_of_beq heq]
  · exact h other found (by rwa [Std.HashMap.get?_eq_getElem?])

variable {α β : Type}

structure Answers (action : StateM PathMemory α) (value : α) : Prop where
  result : ∀ memory : PathMemory, memory.Faithful → (action.run memory).1 = value
  faithful : ∀ memory : PathMemory, memory.Faithful → (action.run memory).2.Faithful

theorem answers_pure (value : α) : Answers (pure value) value :=
  ⟨fun _ _ => rfl, fun _ h => h⟩

theorem Answers.bind {action : StateM PathMemory α} {next : α → StateM PathMemory β} {value : α}
    {result : β} (h : Answers action value) (hnext : Answers (next value) result) :
    Answers (action >>= next) result := by
  constructor
  · intro memory hmemory
    rw [StateT.run_bind]
    change ((next (action.run memory).1).run (action.run memory).2).1 = result
    rw [h.result memory hmemory]
    exact hnext.result _ (h.faithful memory hmemory)
  · intro memory hmemory
    rw [StateT.run_bind]
    change ((next (action.run memory).1).run (action.run memory).2).2.Faithful
    rw [h.result memory hmemory]
    exact hnext.faithful _ (h.faithful memory hmemory)

private theorem run_path (source : String) (memory : PathMemory) :
    (path source).run memory =
      match memory.get? source with
      | some path => (.ok path, memory)
      | none =>
          match DataPath.parse source with
          | .error error => (.error error, memory)
          | .ok path => (.ok path, memory.insert source path) := by
  simp only [path, StateT.run_bind, StateT.run_get, pure_bind]
  cases memory.get? source with
  | some path => rfl
  | none => cases DataPath.parse source <;> rfl

theorem answers_path (source : String) : Answers (path source) (DataPath.parse source) := by
  constructor
  · intro memory hmemory
    rw [run_path]
    cases hknown : memory.get? source with
    | some path => exact (hmemory source path hknown).symm
    | none => cases DataPath.parse source <;> rfl
  · intro memory hmemory
    rw [run_path]
    cases hknown : memory.get? source with
    | some path => exact hmemory
    | none =>
        cases hparse : DataPath.parse source with
        | error error => exact hmemory
        | ok path => exact hmemory.insert hparse

theorem answers_lookup? (source : String) (view : View) (scope : Option Json) :
    Answers (lookup? source view scope) (view.valueAt? scope source) := by
  refine (answers_path source).bind ?_
  rw [View.valueAt?]
  cases DataPath.parse source <;> exact answers_pure _

end PathMemory

namespace DataBinding

theorem answers_tryResolve (binding : DataBinding) (pattern : String) (view : View)
    (scope : Option Json) :
    PathMemory.Answers (binding.tryResolve pattern view scope)
      (binding.outcome pattern view scope) := by
  refine (PathMemory.answers_path binding.path).bind ?_
  rw [outcome]
  cases DataPath.parse binding.path with
  | error error => exact PathMemory.answers_pure _
  | ok path =>
      simp only
      cases path.lookup? view scope with
      | none => exact PathMemory.answers_pure _
      | some value =>
          simp only
          cases binding.shown pattern value <;> exact PathMemory.answers_pure _

theorem answers_resolve (binding : DataBinding) (pattern : String) (view : View)
    (scope : Option Json) :
    PathMemory.Answers (binding.resolve pattern view scope)
      (binding.textIn pattern view scope) := by
  refine (binding.answers_tryResolve pattern view scope).bind ?_
  rw [textIn]
  match binding.outcome pattern view scope with
  | .ok (some text) => exact PathMemory.answers_pure _
  | .ok none => exact PathMemory.answers_pure _
  | .error error => exact PathMemory.answers_pure _

end DataBinding

end DocTemplate
