import DocTemplate.Proofs.Edit.Outcome
import DocTemplate.Proofs.Edit.Removal

/-!
# Moves are relocations

A move is refused for the first reason in a fixed order, or it takes one element with all that is in
it from its place to another one: at the new place the same element stands, without it the tree is
the old tree without it, its parent is the element that was meant, and before it stand the children
that stood before the given index.
-/

namespace DocTemplate

namespace Element

/-! ## The other children -/

/-- The children of the element at `target` at the positions to keep, but for the element at
`source`, which is taken out of them too. -/
def others (target source : ElementPath) (keep : Nat → Bool) (children : List Element) :
    List Element :=
  (children.zipIdx.filter fun (_, position) =>
    keep position && decide (target.child position ≠ source)).map
    fun (child, position) => child.clearedOf (target.child position) source

open Effect (shiftIndex moveIndex)

variable {target source : ElementPath} {children : List Element}

private theorem filter_append_filter_of_pairwise {α : Type} {key : α → Nat} {items : List α}
    (h : items.Pairwise fun first second => key first < key second) (index : Nat) :
    items.filter (key · < index) ++ items.filter (index ≤ key ·) = items := by
  induction h with
  | nil => rfl
  | @cons item items hitem _ ih =>
      by_cases hkey : key item < index
      · simp [hkey, Nat.not_le.mpr hkey, ih]
      · have hlate : items.filter (key · < index) = [] := by
          rw [List.filter_eq_nil_iff]
          intro later hlater
          have := hitem later hlater
          rw [decide_eq_true_eq]
          omega
        rw [hlate, List.nil_append] at ih
        simp [hkey, Nat.not_lt.mp hkey, hlate, ih]

private theorem pairwise_zipIdx {α : Type} (items : List α) :
    items.zipIdx.Pairwise fun first second => first.2 < second.2 := by
  rw [← List.pairwise_map (f := Prod.snd) (R := (· < ·)), List.zipIdx_map_snd]
  exact List.pairwise_lt_range'

private theorem others_append_others (target source : ElementPath) (index : Nat)
    (children : List Element) :
    others target source (· < index) children ++ others target source (index ≤ ·) children =
      others target source (fun _ => true) children := by
  have hsplit := filter_append_filter_of_pairwise
    ((pairwise_zipIdx children).filter fun (_, position) => target.child position ≠ source) index
  rw [others, others, others, ← List.map_append]
  congr 1
  simpa only [List.filter_filter, Bool.true_and] using hsplit

private theorem length_others (keep : Nat → Bool) {position : Nat}
    (h : ∀ index < children.length, target.child index = source ↔ index = position) :
    (others target source keep children).length =
      ((List.range children.length).filter fun index => keep index && index ≠ position).length := by
  have hpositions : children.zipIdx.map Prod.snd = List.range children.length := by
    rw [List.zipIdx_map_snd, List.range_eq_range']
  rw [others, List.length_map, ← hpositions, List.filter_map, List.length_map]
  congr 1
  apply List.filter_congr
  rintro ⟨child, index⟩ hindex
  simp [h index (List.snd_lt_of_mem_zipIdx hindex)]

private theorem length_filter_range (index position count : Nat) :
    ((List.range count).filter fun i => decide (i < index) && i ≠ position).length =
      min index count - if position < min index count then 1 else 0 := by
  induction count with
  | zero => simp
  | succ count ih =>
      rw [List.range_succ, List.filter_append, List.length_append, ih, List.filter_singleton]
      grind

private theorem filter_zipIdx_ne {α : Type} (items : List α) (start position : Nat) :
    ((items.zipIdx start).filter fun item => item.2 ≠ start + position).map Prod.fst =
      items.eraseIdx position := by
  induction items generalizing start position with
  | nil => rfl
  | cons item items ih =>
      cases position with
      | zero =>
          have hlater : (items.zipIdx (start + 1)).filter (fun later => later.2 ≠ start) =
              items.zipIdx (start + 1) := by
            rw [List.filter_eq_self]
            intro later hmem
            have := List.le_snd_of_mem_zipIdx hmem
            rw [decide_eq_true_eq]
            omega
          simpa using congrArg (List.map Prod.fst) hlater
      | succ position =>
          have htail := ih (start + 1) position
          rw [Nat.add_right_comm, Nat.add_assoc] at htail
          simpa using htail

theorem children_clearedOf (element : Element) (h : ¬ source <+: target) :
    (element.clearedOf target source).children =
      others target source (fun _ => true) element.children := by
  -- Where the paths part nothing is taken out; at the end of `target` either one of the children
  -- is the source or one of them holds it.
  induction target generalizing source with
  | nil =>
      have hsource : source ≠ [] := fun hroot => h (hroot ▸ List.nil_prefix)
      obtain ⟨parent, position, rfl⟩ := ElementPath.exists_eq_child hsource
      cases parent with
      | nil =>
          simp [others, ← filter_zipIdx_ne element.children 0 position]
      | cons first parent =>
          apply List.ext_getElem?
          intro i
          simp [others, List.getElem?_modify, List.getElem?_zipIdx, Option.map_map,
            Function.comp_def, eq_comm (a := first)]
  | cons head target ih =>
      cases source with
      | nil => simp at h
      | cons first rest =>
          by_cases heq : head = first
          · subst heq
            have hrest : ¬ rest <+: target := by simpa [List.cons_prefix_cons] using h
            simpa [others] using ih hrest
          · simp [others, heq]

/-- The index at which a moved element is put in stands for its position among the other
children. -/
theorem min_moveIndex {parent : ElementPath} {position index : Nat}
    (h : target = parent → position < children.length) :
    min (moveIndex parent target position index)
        (others target (parent.child position) (fun _ => true) children).length =
      (others target (parent.child position) (· < index) children).length := by
  have htotal (gap : Nat) :
      ((List.range children.length).filter fun i => true && i ≠ gap).length =
        children.length - if gap < children.length then 1 else 0 := by
    rw [← Nat.min_self children.length, ← length_filter_range, Nat.min_self]
    congr 1
    apply List.filter_congr
    intro i hi
    simp [List.mem_range.mp hi]
  -- The positions of the others have one gap: where the source stood, or behind the last child.
  by_cases hparent : target = parent
  · have hgap : ∀ i < children.length,
        target.child i = parent.child position ↔ i = position := by
      intro i _
      simp [ElementPath.child_inj, hparent]
    rw [length_others _ hgap, length_others _ hgap, htotal, length_filter_range, moveIndex,
      if_pos hparent, shiftIndex]
    have := h hparent
    grind
  · have hgap : ∀ i < children.length,
        target.child i = parent.child position ↔ i = children.length := by
      intro i hi
      have hne : i ≠ children.length := Nat.ne_of_lt hi
      simp [ElementPath.child_inj, hparent, hne]
    rw [length_others _ hgap, length_others _ hgap, htotal, length_filter_range, moveIndex,
      if_neg hparent]
    grind

private theorem insertChild_clearedOf {element : Element} (moved : Element) {index place : Nat}
    (h : ¬ source <+: target)
    (hplace : min place (others target source (fun _ => true) element.children).length =
      (others target source (· < index) element.children).length) :
    (element.clearedOf target source).insertChild place moved =
      element.withChildren (others target source (· < index) element.children ++
        moved :: others target source (index ≤ ·) element.children) := by
  have hall := others_append_others target source index element.children
  rw [insertChild, withChildren, shape_clearedOf, children_clearedOf element h,
    List.take_eq_take_min, List.drop_eq_drop_min, hplace, ← hall, List.take_left, List.drop_left,
    withChildren]

end Element

namespace Edit

open Effect (moveIndex shiftPath moveTarget_child)
open Element (min_moveIndex others relabel)

variable {source target : ElementPath} {index : Nat} {tree : Element}

/-! ## Refusals -/

def moveRefusal? (source target : ElementPath) (tree : Element) : Option EditError :=
  if source = [] then some .cannotMoveRoot
  else if source <+: target then some (.cycle source target)
  else
    match tree.find? target with
    | none => some (.notFound target)
    | some element =>
        if element.isContainer = false then some (.notAContainer target)
        else if tree.find? source = none then some (.notFound source)
        else none

theorem moveIn_of_refused {error : EditError} (h : moveRefusal? source target tree = some error) :
    moveIn source target index tree = .error error := by
  rw [moveRefusal?] at h
  rw [moveIn, ElementPath.isRoot, ElementPath.startsWith, containerIn]
  by_cases hroot : source = []
  · simpa [hroot] using h
  · by_cases hcycle : source <+: target
    · simpa [hroot, hcycle] using h
    · cases htarget : tree.find? target with
      | none => simpa [hroot, hcycle, htarget] using h
      | some element =>
          cases hshape : element.isContainer with
          | false => simpa [hroot, hcycle, htarget, hshape] using h
          | true =>
              cases hsource : tree.find? source with
              | none => simpa [hroot, hcycle, htarget, hshape, hsource] using h
              | some moved => simp [hroot, hcycle, htarget, hshape, hsource] at h

theorem exists_of_not_refused (h : moveRefusal? source target tree = none) :
    source ≠ [] ∧ ¬ source <+: target ∧ ∃ element moved,
      tree.find? target = some element ∧ element.isContainer = true ∧
      tree.find? source = some moved := by
  rw [moveRefusal?] at h
  cases htarget : tree.find? target with
  | none => grind
  | some element => cases hsource : tree.find? source <;> grind

/-! ## Relocations -/

/-- What a move has done once it has taken the element at `source` to position `rank` below
`place`. -/
structure Relocation (source target : ElementPath) (index : Nat) (tree after : Element)
    (place : ElementPath) (rank : Nat) : Prop where
  /-- The element is found again, with all that is in it. -/
  found : ∃ moved, tree.find? source = some moved ∧ after.find? (place.child rank) = some moved
  /-- Nothing but the element itself has been lost, added or moved. -/
  rest : ∃ rest, (removeElement source).Leads tree rest source ∧
    (removeElement (place.child rank)).Leads after rest (place.child rank)
  /-- The parent is the target: made another kind of container, it is the parent that has that
  kind. -/
  parent : ∀ kind, (moveElement source target index).Leads (tree.modifyAt (relabel kind) target)
    (after.modifyAt (relabel kind) place) (place.child rank)
  /-- The element stands between the other children in front of the index and those behind it. -/
  siblings : ∃ element moved, tree.find? target = some element ∧ tree.find? source = some moved ∧
    after.find? place = some (element.withChildren
      (others target source (· < index) element.children ++
        moved :: others target source (index ≤ ·) element.children)) ∧
    rank = (others target source (· < index) element.children).length

private theorem removeElement_leads {path : ElementPath} {removed : Element} (hpath : path ≠ [])
    (h : tree.find? path = some removed) :
    (removeElement path).Leads tree (tree.eraseAt path) path :=
  leads_iff.mpr ⟨removeIn_of_found hpath h, rfl⟩

variable {parent : ElementPath} {position : Nat} {element moved : Element}

theorem moveElement_leads (index : Nat) (hcycle : ¬ parent.child position <+: target)
    (htarget : tree.find? target = some element) (hcontainer : element.isContainer = true)
    (hsource : tree.find? (parent.child position) = some moved) :
    (moveElement (parent.child position) target index).Leads tree
      ((tree.eraseAt (parent.child position)).modifyAt
        (·.insertChild (moveIndex parent target position index) moved)
        (shiftPath parent position target))
      ((shiftPath parent position target).child
        (min (moveIndex parent target position index)
          (element.clearedOf target (parent.child position)).children.length)) := by
  have hplace := Element.find?_eraseAt tree hcycle
  rw [htarget, Option.map_some] at hplace
  refine leads_iff.mpr ⟨?_, ?_⟩
  · simp [onTree, moveIn, insertIn, containerIn, ElementPath.isRoot, ElementPath.startsWith,
      hcycle, htarget, hcontainer, hsource, moveTarget_child, hplace]
  · simp [placeIn, moveTarget_child, Element.childCountAt, hplace]

theorem relocation_of_found (hcycle : ¬ parent.child position <+: target)
    (htarget : tree.find? target = some element) (hcontainer : element.isContainer = true)
    (hsource : tree.find? (parent.child position) = some moved) :
    Relocation (parent.child position) target index tree
      ((tree.eraseAt (parent.child position)).modifyAt
        (·.insertChild (moveIndex parent target position index) moved)
        (shiftPath parent position target))
      (shiftPath parent position target)
      (min (moveIndex parent target position index)
        (element.clearedOf target (parent.child position)).children.length) := by
  have hplace := Element.find?_eraseAt tree hcycle
  rw [htarget, Option.map_some] at hplace
  have hcleared : (element.clearedOf target (parent.child position)).isContainer = true := by
    rw [Element.isContainer_clearedOf, hcontainer]
  have hfound := Element.find?_modifyAt_insertChild moved
    (moveIndex parent target position index) hplace hcleared
  have hrank : min (moveIndex parent target position index)
        (others target (parent.child position) (fun _ => true) element.children).length =
      (others target (parent.child position) (· < index) element.children).length :=
    min_moveIndex fun heq => Element.lt_length_of_find?_child htarget (heq ▸ hsource)
  constructor
  · exact ⟨moved, hsource, hfound⟩
  · refine ⟨_, removeElement_leads (by simp) hsource, ?_⟩
    have hback := removeElement_leads (by simp) hfound
    rwa [Element.eraseAt_modifyAt_insertChild moved _ hplace hcleared] at hback
  · intro kind
    have hmoved : (tree.modifyAt (relabel kind) target).find? (parent.child position) =
        some moved := by
      rw [Element.find?_modifyAt_relabel kind tree hcycle, hsource]
    have hleads := moveElement_leads index hcycle
      (Element.find?_modifyAt (relabel kind) htarget) rfl hmoved
    rw [Element.modifyAt_relabel_eraseAt kind tree hcycle,
      Element.modifyAt_relabel_insertChild kind moved _ hplace hcleared] at hleads
    simpa [Element.children_clearedOf _ hcycle] using hleads
  · refine ⟨element, moved, htarget, hsource, ?_, ?_⟩
    · rw [Element.find?_modifyAt _ hplace, Element.insertChild_clearedOf moved hcycle hrank]
    · rw [Element.children_clearedOf element hcycle, hrank]

/-- A move is refused for the first reason in order, and else it is a relocation. -/
theorem move_is_relocation (source target : ElementPath) (index : Nat) (tree : Element) :
    match moveRefusal? source target tree with
    | some error => (moveElement source target index).Refused tree error
    | none => ∃ after place rank,
        (moveElement source target index).Leads tree after (place.child rank) ∧
        Relocation source target index tree after place rank := by
  cases hrefusal : moveRefusal? source target tree with
  | some error => exact refused_of_onTree (moveIn_of_refused hrefusal)
  | none =>
      obtain ⟨hroot, hcycle, element, moved, htarget, hcontainer, hsource⟩ :=
        exists_of_not_refused hrefusal
      obtain ⟨parent, position, rfl⟩ := ElementPath.exists_eq_child hroot
      exact ⟨_, _, _, moveElement_leads index hcycle htarget hcontainer hsource,
        relocation_of_found hcycle htarget hcontainer hsource⟩

end Edit

end DocTemplate
