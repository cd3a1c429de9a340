import DocTemplate.Proofs.Template.Order

/-!
# Objects by their fields

An object is what is found under its keys: its keys ascend, so two objects with the same value under
every key are the same object.  Under each key an overlaid object has the upper value, or the lower
one where there is no upper value.
-/

namespace DocTemplate

section Entries

variable {α : Type} {head : String × α} {first second rest : List (String × α)}

theorem lookup_head (head : String × α) (rest : List (String × α)) :
    (head :: rest).lookup head.1 = some head.2 :=
  List.lookup_cons_self

private theorem lookup_rest (h : Ascending (head :: rest)) (key : String) :
    rest.lookup key = if key = head.1 then none else (head :: rest).lookup key := by
  obtain ⟨hhead, -⟩ := List.pairwise_cons.mp h
  split
  · next heq =>
      subst heq
      exact lookup_eq_none_of_lt fun entry hentry => hhead entry.1 (List.mem_map_of_mem hentry)
  · next hne => rw [List.lookup_cons, beq_eq_false_iff_ne.mpr hne]

private theorem head_eq_of_lookup_eq {head' : String × α} {rest' : List (String × α)}
    (h : Ascending (head :: rest)) (h' : Ascending (head' :: rest'))
    (hlookup : ∀ key, (head :: rest).lookup key = (head' :: rest').lookup key) : head = head' := by
  have hkey : head.1 = head'.1 := by
    rcases Std.lt_trichotomy head.1 head'.1 with hlt | heq | hgt
    · have hnone := (hlookup head.1).trans (lookup_eq_none_of_lt_head h' hlt)
      simp [lookup_head] at hnone
    · exact heq
    · have hnone := (hlookup head'.1).symm.trans (lookup_eq_none_of_lt_head h hgt)
      simp [lookup_head] at hnone
  have hvalue := hlookup head.1
  rw [lookup_head, hkey, lookup_head] at hvalue
  exact Prod.ext hkey (Option.some.inj hvalue)

private theorem eq_of_lookup_eq (hfirst : Ascending first) (hsecond : Ascending second)
    (h : ∀ key, first.lookup key = second.lookup key) : first = second := by
  induction first generalizing second with
  | nil =>
      cases second with
      | nil => rfl
      | cons head rest => simpa [lookup_head] using h head.1
  | cons head rest ih =>
      cases second with
      | nil => simpa [lookup_head] using h head.1
      | cons head' rest' =>
          obtain rfl := head_eq_of_lookup_eq hfirst hsecond h
          congr 1
          refine ih (List.pairwise_cons.mp hfirst).2 (List.pairwise_cons.mp hsecond).2 ?_
          intro key
          rw [lookup_rest hfirst, lookup_rest hsecond, h]

end Entries

namespace Object

theorem ext_get? {first second : Object} (h : ∀ key, first.get? key = second.get? key) :
    first = second := by
  have hfirst : Ascending first.fields := by simpa [Json.Ordered] using first.ordered.1
  have hsecond : Ascending second.fields := by simpa [Json.Ordered] using second.ordered.1
  exact ext_fields (eq_of_lookup_eq hfirst hsecond h)

theorem sorted_of_get? {object : Object} {key : String} {value : Json}
    (h : object.get? key = some value) : value.sorted = value := by
  have hordered : Json.OrderedFields object.fields := by
    simpa [Json.Ordered] using object.ordered.2
  exact Json.sorted_of_ordered value (Json.orderedFields_iff.mp hordered _ (Json.mem_of_lookup h))

private theorem get?_ofFields (fields : List (String × Json)) (key : String) :
    (ofFields fields).get? key = ((fields.filter (·.1 == key)).getLast?).map (·.2.sorted) :=
  Json.lookup_sortedFields fields key

theorem get?_ofFields_of_single? {fields : List (String × Json)} {key : String}
    {given : Option Json} (h : Json.single? fields key = some given) :
    (ofFields fields).get? key = given.map Json.sorted :=
  Option.some.inj (((ofFields fields).single?_fields key).symm.trans (Json.single?_sortedFields h))

theorem get?_overlay (lower upper : Object) (key : String) :
    (overlay lower.fields upper).get? key = (upper.get? key).or (lower.get? key) := by
  rw [overlay, get?_ofFields, List.filter_append, filter_fields, filter_fields]
  cases hupper : upper.get? key with
  | some value => simp [sorted_of_get? hupper]
  | none =>
      cases hlower : lower.get? key with
      | some value => simp [sorted_of_get? hlower]
      | none => simp

theorem overlay_self (object : Object) : overlay object.fields object = object := by
  apply ext_get?
  intro key
  rw [get?_overlay, Option.or_self]

end Object

end DocTemplate
