import DocTemplate.Proofs.Template.Position
import DocTemplate.Template.Visit
import Mathlib.Data.List.Lex

/-!
# Visits in document order

A tour of a template comes across each of its elements exactly once, in the order of their paths,
and right behind an element across what stands at the element itself.  It ends where it began.
-/

namespace DocTemplate

/-! ## Visits at an element -/

namespace Visit

def path : Visit → ElementPath
  | .element path _ => path
  | .condition path _ => path
  | .binding path _ => path
  | .column path _ => path
  | .unknown path _ => path

def element? : Visit → Option (ElementPath × Element)
  | .element path visited => some (path, visited)
  | _ => none

theorem element?_eq_some_iff {visit : Visit} {path : ElementPath} {visited : Element} :
    visit.element? = some (path, visited) ↔ visit = .element path visited := by
  cases visit <;> simp [element?]

def IsPartAt (visit : Visit) (path : ElementPath) : Prop :=
  visit.path = path ∧ visit.element? = none

private theorem isPartAt_of_mem_column {path : ElementPath} {met : Column} {visit : Visit}
    (h : visit ∈ met.visits path) : visit.IsPartAt path := by
  rcases List.mem_cons.mp h with rfl | h
  · exact ⟨rfl, rfl⟩
  · obtain ⟨bound, -, rfl⟩ := List.mem_map.mp h
    exact ⟨rfl, rfl⟩

private theorem isPartAt_of_mem_leaf {path : ElementPath} {kind : Leaf} {visit : Visit}
    (h : visit ∈ kind.visits path) : visit.IsPartAt path := by
  cases kind with
  | text attributes content bound =>
      obtain ⟨bound, -, rfl⟩ := List.mem_map.mp h
      exact ⟨rfl, rfl⟩
  | image attributes picture =>
      obtain ⟨bound, -, rfl⟩ := List.mem_map.mp h
      exact ⟨rfl, rfl⟩
  | table attributes columns bound =>
      rcases List.mem_cons.mp h with rfl | h
      · exact ⟨rfl, rfl⟩
      · obtain ⟨met, -, h⟩ := List.mem_flatMap.mp h
        exact isPartAt_of_mem_column h
  | divider attributes rule => cases h
  | unknown fields =>
      obtain rfl := List.mem_singleton.mp h
      exact ⟨rfl, rfl⟩

private theorem isPartAt_of_mem_container {path : ElementPath} {kind : Container} {visit : Visit}
    (h : visit ∈ kind.visits path) : visit.IsPartAt path := by
  cases kind with
  | repeater style shown bound =>
      obtain rfl := List.mem_singleton.mp h
      exact ⟨rfl, rfl⟩
  | _ => cases h

end Visit

namespace Element

theorem mem_ownVisits {path : ElementPath} {element : Element} {visit : Visit} :
    visit ∈ element.ownVisits path ↔
      visit = .element path element ∨
        (∃ condition, element.condition = some condition ∧ visit = .condition path condition) ∨
          visit ∈ element.shape.visits path := by
  simp [ownVisits, eq_comm]

theorem exists_ownVisits_eq (path : ElementPath) (element : Element) :
    ∃ parts, element.ownVisits path = .element path element :: parts ∧
      ∀ part ∈ parts, part.IsPartAt path := by
  refine ⟨_, rfl, fun part hpart => ?_⟩
  rcases List.mem_append.mp hpart with hpart | hpart
  · obtain ⟨condition, -, rfl⟩ := List.mem_map.mp hpart
    exact ⟨rfl, rfl⟩
  · cases element with
    | container kind children => exact Visit.isPartAt_of_mem_container hpart
    | leaf kind => exact Visit.isPartAt_of_mem_leaf hpart

theorem path_of_mem_ownVisits {path : ElementPath} {element : Element} {visit : Visit}
    (h : visit ∈ element.ownVisits path) : visit.path = path := by
  obtain ⟨parts, hown, hparts⟩ := exists_ownVisits_eq path element
  rw [hown] at h
  rcases List.mem_cons.mp h with rfl | h
  · rfl
  · exact (hparts visit h).1

private theorem element_mem_ownVisits {path path' : ElementPath} {element visited : Element} :
    .element path' visited ∈ element.ownVisits path ↔ path' = path ∧ visited = element := by
  obtain ⟨parts, hown, hparts⟩ := exists_ownVisits_eq path element
  rw [hown, List.mem_cons]
  constructor
  · rintro (h | h)
    · cases h
      exact ⟨rfl, rfl⟩
    · cases (hparts _ h).2
  · rintro ⟨rfl, rfl⟩
    exact .inl rfl

theorem condition_of_mem_ownVisits {path : ElementPath} {element : Element} {condition : Condition}
    (h : .condition path condition ∈ element.ownVisits path) :
    element.condition = some condition := by
  rcases mem_ownVisits.mp h with h | ⟨condition', hcondition, h⟩ | h
  · cases h
  · cases h
    exact hcondition
  -- what stands at a shape is bindings, columns and unknown fields
  · cases element with
    | container kind children => cases kind <;> simp [shape, Shape.visits, Container.visits] at h
    | leaf kind => cases kind <;> simp [shape, Shape.visits, Leaf.visits, Column.visits] at h

theorem visitsAt_eq (path : ElementPath) (element : Element) :
    element.visitsAt path = element.ownVisits path ++ childVisits path 0 element.children := by
  cases element with
  | container kind children => rw [visitsAt]; rfl
  | leaf kind => rw [visitsAt]; exact (List.append_nil _).symm

theorem childVisits_eq (path : ElementPath) (index : Nat) (children : List Element) :
    childVisits path index children =
      (children.zipIdx index).flatMap fun (child, position) =>
        child.visitsAt (path.child position) := by
  induction children generalizing index with
  | nil => rfl
  | cons child rest ih => rw [childVisits, ih, List.zipIdx_cons, List.flatMap_cons]

theorem mem_childVisits {path : ElementPath} {children : List Element} {visit : Visit} :
    visit ∈ childVisits path 0 children ↔
      ∃ (index : Nat) (child : Element), children[index]? = some child ∧
        visit ∈ child.visitsAt (path.child index) := by
  simp only [childVisits_eq, List.mem_flatMap, Prod.exists, List.mem_zipIdx_iff_getElem?]
  exact exists_comm

theorem mem_visitsAt {base : ElementPath} {element : Element} {visit : Visit} :
    visit ∈ element.visitsAt base ↔
      ∃ rest found, element.find? rest = some found ∧ visit ∈ found.ownVisits (base ++ rest) := by
  induction element using inductionOnChildren generalizing base with
  | step element ih =>
      rw [visitsAt_eq, List.mem_append]
      constructor
      · rintro (hown | hmem)
        · exact ⟨[], element, rfl, by rwa [List.append_nil]⟩
        · obtain ⟨index, child, hchild, hmem⟩ := mem_childVisits.mp hmem
          obtain ⟨rest, found, hfind, hown⟩ := (ih child (List.mem_of_getElem? hchild)).mp hmem
          refine ⟨index :: rest, found, by simp [find?_cons, hchild, hfind], ?_⟩
          simpa [ElementPath.child] using hown
      · rintro ⟨_ | ⟨index, rest⟩, found, hfind, hown⟩
        · cases hfind
          exact .inl (by rwa [List.append_nil] at hown)
        · obtain ⟨child, hchild, hfound⟩ := Option.bind_eq_some_iff.mp (find?_cons .. ▸ hfind)
          refine .inr (mem_childVisits.mpr ⟨index, child, hchild, ?_⟩)
          refine (ih child (List.mem_of_getElem? hchild)).mpr ⟨rest, found, hfound, ?_⟩
          simpa [ElementPath.child] using hown

end Element

/-! ## Tours -/

namespace Tour

variable {σ : Type} (visitor : σ → Visit → σ)

mutual

/-- A tour shows its visitor the visits of the template one after another and goes back. -/
theorem through_eq (path : ElementPath) (state : σ) (element : Element) :
    through visitor ⟨path, state⟩ element =
      ⟨path, (element.visitsAt path).foldl visitor state⟩ := by
  cases element with
  | container kind children =>
      rw [through, meet, throughChildren_eq, Element.visitsAt, List.foldl_append]
  | leaf kind => rw [through, meet, Element.visitsAt]

private theorem throughChildren_eq (path : ElementPath) (state : σ) (index : Nat)
    (children : List Element) :
    throughChildren visitor ⟨path, state⟩ index children =
      ⟨path, (Element.childVisits path index children).foldl visitor state⟩ := by
  cases children with
  | nil => rw [throughChildren, Element.childVisits, List.foldl_nil]
  | cons child rest =>
      have hleave (state : σ) : leave ⟨path.child index, state⟩ = ⟨path, state⟩ := by
        rw [leave, ElementPath.child, List.dropLast_concat]
      rw [throughChildren, enter, through_eq, hleave, throughChildren_eq, Element.childVisits,
        List.foldl_append]

end

end Tour

/-! ## Document order -/

/-- The first visit is at an earlier element, or the second is to a part of the same element. -/
def Visit.Before (first second : Visit) : Prop :=
  first.path < second.path ∨ second.IsPartAt first.path

namespace Element

private theorem pairwise_ownVisits (path : ElementPath) (element : Element) :
    (element.ownVisits path).Pairwise Visit.Before := by
  obtain ⟨parts, hown, hparts⟩ := exists_ownVisits_eq path element
  rw [hown, List.pairwise_cons]
  refine ⟨fun part hpart => .inr (hparts part hpart), ?_⟩
  refine List.pairwise_of_forall_mem_list fun first hfirst second hsecond => .inr ?_
  rw [(hparts first hfirst).1]
  exact hparts second hsecond

private theorem exists_path_of_mem_visitsAt {base : ElementPath} {element : Element} {visit : Visit}
    (h : visit ∈ element.visitsAt base) : ∃ rest, visit.path = base ++ rest := by
  obtain ⟨rest, found, -, hown⟩ := mem_visitsAt.mp h
  exact ⟨rest, path_of_mem_ownVisits hown⟩

theorem pairwise_visitsAt (base : ElementPath) (element : Element) :
    (element.visitsAt base).Pairwise Visit.Before := by
  induction element using inductionOnChildren generalizing base with
  | step element ih =>
      rw [visitsAt_eq, List.pairwise_append]
      refine ⟨pairwise_ownVisits base element, ?_, fun own hown inner hinner => .inl ?_⟩
      · have hpositions : (element.children.zipIdx).Pairwise (·.2 < ·.2) := by
          rw [← List.pairwise_map (R := (· < ·)), List.zipIdx_map_snd]
          exact List.pairwise_lt_range'
        rw [childVisits_eq, List.pairwise_flatMap]
        refine ⟨fun placed hplaced => ?_, hpositions.imp fun hlt first hfirst second hsecond => ?_⟩
        · exact ih placed.1 (List.mem_of_getElem? (List.mem_zipIdx_iff_getElem?.mp hplaced)) _
        · obtain ⟨inFirst, hfirst⟩ := exists_path_of_mem_visitsAt hfirst
          obtain ⟨inSecond, hsecond⟩ := exists_path_of_mem_visitsAt hsecond
          left
          rw [hfirst, hsecond, ElementPath.child, ElementPath.child, List.append_assoc,
            List.append_assoc]
          exact List.append_left_lt (List.cons_lt_cons_iff.mpr (.inl hlt))
      · obtain ⟨index, child, -, hmem⟩ := mem_childVisits.mp hinner
        obtain ⟨rest, hinner⟩ := exists_path_of_mem_visitsAt hmem
        rw [path_of_mem_ownVisits hown, hinner, ElementPath.child, List.append_assoc]
        have hlt : base ++ [] < base ++ ([index] ++ rest) :=
          List.append_left_lt (List.nil_lt_cons index rest)
        rwa [List.append_nil] at hlt

/-! ## Elements met -/

def met (element : Element) : List (ElementPath × Element) :=
  element.visits.filterMap Visit.element?

theorem mem_met {template element : Element} {path : ElementPath} :
    (path, element) ∈ template.met ↔ template.find? path = some element := by
  simp only [met, visits, List.mem_filterMap, Visit.element?_eq_some_iff, exists_eq_right,
    mem_visitsAt, element_mem_ownVisits]
  constructor
  · rintro ⟨rest, found, hfind, rfl, rfl⟩
    exact hfind
  · intro hfind
    exact ⟨path, element, hfind, rfl, rfl⟩

theorem pairwise_met (template : Element) : (template.met.map Prod.fst).Pairwise (· < ·) := by
  rw [List.pairwise_map]
  refine (pairwise_visitsAt .root template).filterMap _ fun first second hbefore => ?_
  rintro ⟨path, visited⟩ hfirst ⟨path', visited'⟩ hsecond
  rcases hbefore with hlt | hpart
  · obtain rfl := Visit.element?_eq_some_iff.mp hfirst
    obtain rfl := Visit.element?_eq_some_iff.mp hsecond
    exact hlt
  · rw [hpart.2] at hsecond
    cases hsecond

private theorem elements_ownVisits (path : ElementPath) (element : Element) :
    (element.ownVisits path).filterMap Visit.element? = [(path, element)] := by
  obtain ⟨parts, hown, hparts⟩ := exists_ownVisits_eq path element
  have hnone : parts.filterMap Visit.element? = [] :=
    List.filterMap_eq_nil_iff.mpr fun part hpart => (hparts part hpart).2
  rw [hown, List.filterMap_cons, hnone]
  rfl

mutual

theorem length_elements_visitsAt (path : ElementPath) : (element : Element) →
    ((element.visitsAt path).filterMap Visit.element?).length = element.nodeCount
  | .container kind children => by
      rw [visitsAt, List.filterMap_append, List.length_append, elements_ownVisits,
        length_elements_childVisits, List.length_singleton, nodeCount]
  | .leaf kind => by
      rw [visitsAt, elements_ownVisits, List.length_singleton, nodeCount]

private theorem length_elements_childVisits (path : ElementPath) (index : Nat) :
    (children : List Element) →
      ((childVisits path index children).filterMap Visit.element?).length = nodeCounts children
  | [] => rfl
  | child :: rest => by
      rw [childVisits, List.filterMap_append, List.length_append, length_elements_visitsAt,
        length_elements_childVisits, nodeCounts]

end

/-- On a tour every visitor is shown the same visits, and the tour ends at the path it began with.
The elements among them are all elements of the template, each once and in the order of paths. -/
theorem tours_meet_every_element_once (template : Element) :
    (∀ {σ : Type} (visitor : σ → Visit → σ) (start : ElementPath) (state : σ),
      Tour.through visitor ⟨start, state⟩ template =
        ⟨start, (template.visitsAt start).foldl visitor state⟩) ∧
      let met := (template.visitsAt .root).filterMap Visit.element?
      (met.map Prod.fst).Pairwise (· < ·) ∧
        (∀ path element, (path, element) ∈ met ↔ template.find? path = some element) ∧
        met.length = template.nodeCount :=
  ⟨fun visitor start state => Tour.through_eq visitor start state template,
    pairwise_met template, fun _ _ => mem_met, length_elements_visitsAt .root template⟩

end Element

end DocTemplate
