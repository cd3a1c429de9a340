import DocTemplate.Proofs.Arena.Relink
import DocTemplate.Proofs.Edit.Growth
import DocTemplate.Proofs.Edit.OnTree
import DocTemplate.Proofs.Edit.Patch
import Mathlib.Data.List.InsertIdx

/-!
# Effects are edits of trees

From a well-formed arena an effect ends with a node that holds the tree which the plain edit gives,
or is refused for the reason for which the plain edit is refused.
-/

namespace DocTemplate

namespace Effect

/-- The run ends with a node for the expected tree or with the expected error. -/
def Yields (effect : Effect NodeId) (arena : Arena) (expected : Except EditError Element) : Prop :=
  match effect.outcome arena, expected with
  | (.ok id, after), .ok tree => after.Holds [id] [tree]
  | (.error error, _), .error reason => error = reason
  | _, _ => False

variable {arena : Arena} {root : NodeId}

/-! ## Reading -/

theorem outcome_resolve (path : ElementPath) (error : EditError) :
    (resolve root path error).outcome arena =
      match arena.resolve? root path with
      | none => (.error error, arena)
      | some id => (.ok id, arena) := by
  simp only [resolve, outcome_bind, outcome_get]
  cases arena.resolve? root path <;> rfl

private theorem outcome_endOf (hwell : arena.WellFormed) (parent : ElementPath) :
    (endOf root parent).outcome arena =
      (.ok ((arena.build root).childCountAt parent), arena) := by
  rw [← Arena.childCountAt_build hwell]
  rfl

theorem outcome_containerAt (hwell : arena.WellFormed) (path : ElementPath) :
    (containerAt root path).outcome arena =
      match Edit.containerIn path (arena.build root), arena.resolve? root path with
      | .ok _, some id => (.ok id, arena)
      | .ok _, none => (.error (.notFound path), arena)
      | .error error, _ => (.error error, arena) := by
  simp only [containerAt, outcome_bind, outcome_resolve, Edit.containerIn,
    Arena.find?_build hwell]
  cases arena.resolve? root path with
  | none => rfl
  | some id =>
      simp only [Option.map_some, outcome_get, Arena.isContainer_build hwell]
      cases (arena.shapeOf id).isContainer <;> rfl

theorem resolve?_of_containerIn (hwell : arena.WellFormed) {path : ElementPath}
    {element : Element} (h : Edit.containerIn path (arena.build root) = .ok element) :
    ∃ id, arena.resolve? root path = some id ∧ arena.build id = element ∧
      (arena.shapeOf id).isContainer = true := by
  obtain ⟨hfound, hcontainer⟩ := Edit.containerIn_eq_ok h
  rw [Arena.find?_build hwell] at hfound
  obtain ⟨id, hresolve, rfl⟩ := Option.map_eq_some_iff.mp hfound
  rw [Arena.isContainer_build hwell] at hcontainer
  exact ⟨id, hresolve, rfl, hcontainer⟩

/-! ## A changed node -/

theorem outcome_relink_push {target : NodeId} {path : ElementPath} {shape : Shape}
    {children : List NodeId} {elements : List Element} (error : EditError)
    (hroot : root < arena.size) (hchildren : arena.Holds children elements)
    (hleaf : shape.isContainer = false → children = [])
    (hresolve : arena.resolve? root path = some target) :
    ∃ id after, (relink root path arena.size error).outcome (arena.push ⟨shape, children⟩) =
        (.ok id, after) ∧ after.Extends arena ∧
      after.Holds [id] [(arena.build root).modifyAt (fun _ => shape.element elements) path] := by
  have hwell := hchildren.wellFormed
  have hnode := hchildren.push shape hleaf
  have hgrowth := Arena.Extends.push arena ⟨shape, children⟩
  rw [← hgrowth.resolve? hwell hroot] at hresolve
  obtain ⟨id, after, hrun, hholds⟩ := Arena.holds_relink?
    (Nat.lt_of_lt_of_le hroot hgrowth.size_le) hnode hresolve
  rw [hgrowth.build hwell hnode.wellFormed hroot] at hholds
  have hafter := Arena.extends_relink? root arena.size path (arena.push ⟨shape, children⟩)
  rw [hrun] at hafter
  refine ⟨id, after, ?_, hafter.trans hgrowth, hholds⟩
  simp only [relink, outcome_bind, outcome_lift, hrun, outcome_orFail_some]

theorem outcome_alloc (shape : Shape) (children : List NodeId) :
    outcome (liftM (Arena.alloc shape children) : Effect NodeId) arena =
      (.ok arena.size, arena.push ⟨shape, children⟩) := rfl

private theorem yields_update (hwell : arena.WellFormed) (hroot : root < arena.size)
    (path : ElementPath) (patch : Object) :
    (update root path patch).Yields arena (Edit.updateIn path patch (arena.build root)) := by
  rw [update, Edit.updateIn]
  cases hpatch : protectedField? patch with
  | some field => exact rfl
  | none =>
      have hfind := Arena.find?_build hwell root path
      cases hresolve : arena.resolve? root path with
      | none => simp [Yields, outcome_resolve, hresolve, hfind]
      | some target =>
          have hsize := Arena.resolve?_lt hwell hroot hresolve
          rw [hresolve, Option.map_some] at hfind
          cases hshape : patchedShape? (arena.shapeOf target) patch with
          | none =>
              simp [Yields, outcome_resolve, hresolve, hfind, Arena.shape_build hwell, hshape]
          | some shape =>
              have hleaf : shape.isContainer = false → arena.childrenOf target = [] := by
                intro hnew
                apply hwell.childrenOf_leaf
                rw [Bool.eq_false_iff]
                intro hcontainer
                rw [isContainer_of_patchedShape? hpatch hcontainer hshape] at hnew
                contradiction
              obtain ⟨id, after, hrun, -, hholds⟩ := outcome_relink_push (.notFound path) hroot
                (.childrenOf hwell hsize) hleaf hresolve
              have hchange : (arena.build root).modifyAt
                    (fun _ => shape.element (arena.build target).children) path =
                  (arena.build root).modifyAt
                    (fun element => shape.element element.children) path :=
                Element.modifyAt_congr hfind rfl
              rw [hchange] at hholds
              simpa [Yields, outcome_resolve, outcome_alloc, hresolve, hfind,
                Arena.shape_build hwell, hshape, hrun] using hholds

/-! ## Children -/

private theorem map_insertAt {α : Type} (read : NodeId → α) (children : List NodeId) (index : Nat)
    (child : NodeId) :
    (insertAt children index child).map read =
      (children.map read).take index ++ read child :: (children.map read).drop index := by
  simp [insertAt]

private theorem holds_insertAt {ids : List NodeId} {elements : List Element} {child : NodeId}
    {element : Element} (h : arena.Holds ids elements) (hchild : arena.Holds [child] [element])
    (index : Nat) :
    arena.Holds (insertAt ids index child)
      (elements.take index ++ element :: elements.drop index) := by
  apply (hchild.append h).of_subset
  · intro id hid
    simp only [insertAt, List.mem_append, List.mem_cons] at hid
    simp only [List.cons_append, List.nil_append, List.mem_cons]
    rcases hid with hid | rfl | hid
    · exact .inr (List.mem_of_mem_take hid)
    · exact .inl rfl
    · exact .inr (List.mem_of_mem_drop hid)
  · rw [map_insertAt, h.build, hchild.build_single]

private theorem holds_eraseIdx {ids : List NodeId} {elements : List Element}
    (h : arena.Holds ids elements)
    (index : Nat) : arena.Holds (ids.eraseIdx index) (elements.eraseIdx index) := by
  apply h.of_subset (List.eraseIdx_subset ..)
  rw [← List.eraseIdx_map, h.build]

theorem yields_link (hroot : root < arena.size) (parent : ElementPath) (index : Nat)
    {child : NodeId} {element : Element} (hchild : arena.Holds [child] [element]) :
    (link root parent index child).Yields arena
      (Edit.insertIn parent index element (arena.build root)) := by
  have hwell := hchild.wellFormed
  cases hcontainer : Edit.containerIn parent (arena.build root) with
  | error error =>
      simp [Yields, link, outcome_containerAt hwell, Edit.insertIn, hcontainer]
  | ok found =>
      obtain ⟨target, hresolve, rfl, hshape⟩ := resolve?_of_containerIn hwell hcontainer
      have hsize := Arena.resolve?_lt hwell hroot hresolve
      have hchildren := holds_insertAt (.childrenOf hwell hsize) hchild index
      have hleaf : (arena.shapeOf target).isContainer = false →
          insertAt (arena.childrenOf target) index child = [] := by simp [hshape]
      obtain ⟨id, after, hrun, -, hholds⟩ := outcome_relink_push (.notFound parent) hroot hchildren
        hleaf hresolve
      have hfind := Arena.find?_build hwell root parent
      rw [hresolve, Option.map_some] at hfind
      have hchange : (arena.build root).modifyAt (fun _ => (arena.shapeOf target).element
            ((arena.build target).children.take index ++ element ::
              (arena.build target).children.drop index)) parent =
          (arena.build root).modifyAt (·.insertChild index element) parent := by
        apply Element.modifyAt_congr hfind
        rw [Element.insertChild, Element.withChildren, Arena.shape_build hwell]
      rw [hchange] at hholds
      simpa [Yields, link, outcome_containerAt hwell, outcome_alloc, Edit.insertIn, hcontainer,
        hresolve, hrun] using hholds

theorem outcome_unlink_of_none (hwell : arena.WellFormed) {parent : ElementPath} {index : Nat}
    (h : (arena.build root).find? (parent.child index) = none) :
    (unlink root parent index).outcome arena =
      (.error (.notFound (parent.child index)), arena) := by
  rw [Element.find?_child, Arena.find?_build hwell] at h
  cases hresolve : arena.resolve? root parent with
  | none => simp [unlink, outcome_resolve, hresolve]
  | some target =>
      have hchild : (arena.childrenOf target)[index]? = none := by
        simpa [hresolve, Arena.children_build hwell] using h
      rw [unlink]
      simp only [outcome_bind, outcome_resolve, hresolve, outcome_get, hchild,
        outcome_orFail_none]

theorem outcome_unlink_of_some (hwell : arena.WellFormed) (hroot : root < arena.size)
    {parent : ElementPath} {index : Nat} {element : Element}
    (h : (arena.build root).find? (parent.child index) = some element) :
    ∃ relinked removed after,
      (unlink root parent index).outcome arena = (.ok (relinked, removed), after) ∧
      after.Holds [relinked] [(arena.build root).modifyAt (·.eraseChild index) parent] ∧
      after.Holds [removed] [element] := by
  rw [Element.find?_child, Arena.find?_build hwell] at h
  cases hresolve : arena.resolve? root parent with
  | none => simp [hresolve] at h
  | some target =>
      simp only [hresolve, Option.map_some, Option.bind_some, Arena.children_build hwell,
        List.getElem?_map, Option.map_eq_some_iff] at h
      obtain ⟨removed, hchild, rfl⟩ := h
      have hsize := Arena.resolve?_lt hwell hroot hresolve
      have hremoved : arena.Holds [removed] [arena.build removed] :=
        .single hwell (Nat.lt_trans (hwell.childrenOf_lt (List.mem_of_getElem? hchild)) hsize)
      have hchildren := holds_eraseIdx (.childrenOf hwell hsize) index
      have hleaf : (arena.shapeOf target).isContainer = false →
          (arena.childrenOf target).eraseIdx index = [] := by
        simp [hwell.isContainer_of_child hchild]
      obtain ⟨relinked, after, hrun, hgrowth, hholds⟩ := outcome_relink_push
        (.notFound (parent.child index)) hroot hchildren hleaf hresolve
      have hfind := Arena.find?_build hwell root parent
      rw [hresolve, Option.map_some] at hfind
      have hchange : (arena.build root).modifyAt (fun _ => (arena.shapeOf target).element
            ((arena.build target).children.eraseIdx index)) parent =
          (arena.build root).modifyAt (·.eraseChild index) parent := by
        apply Element.modifyAt_congr hfind
        rw [Element.eraseChild, Element.withChildren, Arena.shape_build hwell]
      rw [hchange] at hholds
      refine ⟨relinked, removed, after, ?_, hholds, hremoved.grow hgrowth hholds.wellFormed⟩
      rw [unlink]
      simp only [outcome_bind, outcome_resolve, hresolve, outcome_get, hchild,
        outcome_orFail_some, outcome_alloc, hrun, outcome_pure]

/-! ## Whole edits -/

theorem yields_insert (hwell : arena.WellFormed) (hroot : root < arena.size)
    (parent : ElementPath) (index : Nat) (element : Element) :
    (insert root parent index element).Yields arena
      (Edit.insertIn parent index element (arena.build root)) := by
  cases hcontainer : Edit.containerIn parent (arena.build root) with
  | error error =>
      simp [Yields, insert, outcome_containerAt hwell, Edit.insertIn, hcontainer]
  | ok found =>
      obtain ⟨target, hresolve, -, -⟩ := resolve?_of_containerIn hwell hcontainer
      have hchild := Arena.holds_insertTree element hwell
      have hgrowth := Arena.extends_insertTree element arena
      have hlink := yields_link (Nat.lt_of_lt_of_le hroot hgrowth.size_le) parent index hchild
      rw [hgrowth.build hwell hchild.wellFormed hroot] at hlink
      simpa only [Yields, insert, outcome_bind, outcome_containerAt hwell, hcontainer, hresolve,
        outcome_lift] using hlink

private theorem yields_add (hwell : arena.WellFormed) (hroot : root < arena.size)
    (parent : ElementPath) (element : Element) :
    (add root parent element).Yields arena
      (Edit.insertIn parent ((arena.build root).childCountAt parent) element
        (arena.build root)) := by
  have hinsert := yields_insert hwell hroot parent ((arena.build root).childCountAt parent) element
  simpa only [Yields, add, outcome_bind, outcome_endOf hwell] using hinsert

private theorem yields_remove (hwell : arena.WellFormed) (hroot : root < arena.size)
    (path : ElementPath) :
    (remove root path).Yields arena (Edit.removeIn path (arena.build root)) := by
  rw [remove, Edit.removeIn]
  cases hsplit : path.splitLast? with
  | none =>
      rw [ElementPath.splitLast?_eq_none_iff.mp hsplit]
      exact Arena.holds_insertTree .blank hwell
  | some last =>
      obtain ⟨parent, index⟩ := last
      have hpath := ElementPath.eq_child_of_splitLast? hsplit
      have hisRoot : path.isRoot = false := by simp [hpath, ElementPath.child, ElementPath.isRoot]
      rw [if_neg (by simp [hisRoot]), Element.eraseAt, hsplit]
      cases hfound : (arena.build root).find? path with
      | none =>
          rw [hpath] at hfound ⊢
          simp only [Yields, outcome_bind, outcome_unlink_of_none hwell hfound]
      | some element =>
          rw [hpath] at hfound
          obtain ⟨relinked, removed, after, hrun, hholds, -⟩ :=
            outcome_unlink_of_some hwell hroot hfound
          simpa only [Yields, outcome_bind, hrun, outcome_pure] using hholds

private theorem yields_move (hwell : arena.WellFormed) (hroot : root < arena.size)
    (source target : ElementPath) (index : Nat) :
    (move root source target index).Yields arena
      (Edit.moveIn source target index (arena.build root)) := by
  rw [move, Edit.moveIn]
  cases hsplit : source.splitLast? with
  | none =>
      rw [ElementPath.splitLast?_eq_none_iff.mp hsplit]
      exact rfl
  | some last =>
      obtain ⟨parent, position⟩ := last
      have hpath := ElementPath.eq_child_of_splitLast? hsplit
      have hisRoot : source.isRoot = false := by
        simp [hpath, ElementPath.child, ElementPath.isRoot]
      rw [if_neg (by simp [hisRoot])]
      dsimp only
      by_cases hcycle : target.startsWith source = true
      · rw [if_pos hcycle, if_pos hcycle]
        exact rfl
      · rw [if_neg hcycle, if_neg hcycle]
        cases hcontainer : Edit.containerIn target (arena.build root) with
        | error error =>
            simp [Yields, outcome_containerAt hwell, hcontainer]
        | ok found =>
            obtain ⟨id, hresolve, -, -⟩ := resolve?_of_containerIn hwell hcontainer
            cases hfound : (arena.build root).find? source with
            | none =>
                have hmissing : (arena.build root).find? (parent.child position) = none :=
                  hpath ▸ hfound
                simp [Yields, outcome_containerAt hwell, hcontainer, hresolve, hpath,
                  outcome_unlink_of_none hwell hmissing]
            | some element =>
                obtain ⟨detached, moved, after, hrun, hdetached, hmoved⟩ :=
                  outcome_unlink_of_some hwell hroot (hpath ▸ hfound)
                have hlink := yields_link hdetached.lt_size
                  (moveTarget source target index).1 (moveTarget source target index).2 hmoved
                rw [hdetached.build_single] at hlink
                have herase : (arena.build root).eraseAt source =
                    (arena.build root).modifyAt (·.eraseChild position) parent := by
                  rw [Element.eraseAt, hsplit]
                simpa only [Yields, outcome_bind, outcome_containerAt hwell, hcontainer, hresolve,
                  hrun, herase] using hlink

end Effect

namespace Edit

variable {arena : Arena} {root : NodeId}

theorem yields_effect (edit : Edit) (hwell : arena.WellFormed) (hroot : root < arena.size) :
    (edit.effect root).Yields arena (edit.onTree (arena.build root)) := by
  cases edit with
  | updateElement path patch => exact Effect.yields_update hwell hroot path patch
  | addElement parent element => exact Effect.yields_add hwell hroot parent element
  | insertElement parent index element =>
      exact Effect.yields_insert hwell hroot parent index element
  | removeElement path => exact Effect.yields_remove hwell hroot path
  | moveElement source target index => exact Effect.yields_move hwell hroot source target index
  | updateTokens tokens => exact Arena.Holds.single hwell hroot

/-! ## Places -/

private theorem landedAt_eq {parent : ElementPath} {index : Nat} {child tree after : Element}
    (h : arena.Holds [root] [after]) (hinsert : insertIn parent index child tree = .ok after) :
    landedAt arena root parent index = parent.child (min index (tree.childCountAt parent)) := by
  rw [landedAt, Arena.childCountAt_build h.wellFormed, h.build_single,
    childCountAt_of_insertIn hinsert, Nat.add_sub_cancel]

private theorem resultPath_eq_placeIn {edit : Edit} {tree after : Element}
    (h : arena.Holds [root] [after])
    (hedit : edit.onTree tree = .ok after) : edit.resultPath arena root = edit.placeIn tree := by
  cases edit with
  | updateElement path patch => rfl
  | addElement parent child =>
      rw [resultPath, placeIn, Arena.childCountAt_build h.wellFormed, h.build_single,
        childCountAt_of_insertIn hedit, Nat.add_sub_cancel]
  | insertElement parent index child => exact landedAt_eq h hedit
  | removeElement path => rfl
  | moveElement source target index =>
      obtain ⟨moved, -, hinsert⟩ := moveIn_eq_ok hedit
      exact landedAt_eq h hinsert
  | updateTokens tokens => rfl

/-! ## Edits of arenas -/

theorem applyTo_of_error {edit : Edit} {error : EditError} (hwell : arena.WellFormed)
    (hroot : root < arena.size) (h : edit.onTree (arena.build root) = .error error) :
    edit.applyTo arena root = (.error error, arena) := by
  have hyields := yields_effect edit hwell hroot
  rw [h] at hyields
  rw [applyTo_eq]
  cases hrun : (edit.effect root).outcome arena with
  | mk result after =>
      simp only [Effect.Yields, hrun] at hyields
      cases result with
      | ok id => exact hyields.elim
      | error reason =>
          have heq : reason = error := hyields
          rw [heq]

theorem applyTo_of_ok {edit : Edit} {tree : Element} (hwell : arena.WellFormed)
    (hroot : root < arena.size) (h : edit.onTree (arena.build root) = .ok tree) :
    ∃ relinked after, edit.applyTo arena root = (.ok relinked, after) ∧ after.Extends arena ∧
      after.Holds [relinked] [tree] ∧
      edit.resultPath after relinked = edit.placeIn (arena.build root) := by
  have hyields := yields_effect edit hwell hroot
  rw [h] at hyields
  cases hrun : (edit.effect root).outcome arena with
  | mk result after =>
      simp only [Effect.Yields, hrun] at hyields
      cases result with
      | error reason => exact hyields.elim
      | ok relinked =>
          have happly : edit.applyTo arena root = (.ok relinked, after) := by
            simp only [applyTo_eq, hrun]
          exact ⟨relinked, after, happly, applyTo_extends happly, hyields,
            resultPath_eq_placeIn hyields h⟩

end Edit

end DocTemplate
