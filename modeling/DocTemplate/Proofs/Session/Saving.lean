import DocTemplate.Proofs.Edit.Lossless
import DocTemplate.Proofs.Session.Timeline
import DocTemplate.Proofs.Template.Order

/-!
# Saving a document at any point of a session

What every edit keeps of a document holds of all snapshots of a session, wherever undo and redo
lead.  In a session that has been started with a document and fed with edits that have been read,
this is that the document can be saved and read again without loss.
-/

namespace DocTemplate

/-! ## What edits keep -/

def Edit.Keeps (p : Document → Prop) (edit : Edit) : Prop :=
  ∀ before after, p before → edit.onDocument before = .ok after → p after

def SessionOp.edit? : SessionOp → Option Edit
  | .edit given => some given
  | .editText text => text.edit?
  | .updateTokens tokens => some (.updateTokens tokens)
  | .undo => none
  | .redo => none
  | .beginBatch _ => none
  | .endBatch => none

private theorem mem_of_mem_latest {α : Type} {limit : Nat} {entries : List α} {entry : α}
    (h : entry ∈ latest limit entries) : entry ∈ entries := by
  rw [latest] at h
  split at h
  · exact h
  · exact List.mem_of_mem_drop h

namespace Timeline

variable {p : Document → Prop} {timeline : Timeline}

/-- All documents that undo and redo can come to have the property. -/
def Holds (p : Document → Prop) (timeline : Timeline) : Prop :=
  ∀ snapshot ∈ timeline.snapshots, p snapshot.document

theorem Holds.document (h : timeline.Holds p) : p timeline.document := h _ (List.get_mem _ _)

private theorem Holds.record {document : Document} (h : timeline.Holds p) (hdocument : p document)
    (label : String) : (timeline.record document label).Holds p := by
  rw [Timeline.record]
  split
  · intro snapshot hsnapshot
    rcases List.mem_or_eq_of_mem_set hsnapshot with hmem | rfl
    · exact h snapshot hmem
    · exact hdocument
  · intro snapshot hsnapshot
    rcases List.mem_append.mp (mem_of_mem_latest hsnapshot) with hmem | hmem
    · exact h snapshot (List.mem_of_mem_take hmem)
    · rw [List.mem_singleton.mp hmem]
      exact hdocument

theorem apply_of_ok {edit : Edit} {document : Document}
    (h : edit.onDocument timeline.document = .ok document) :
    (timeline.apply edit).2 = timeline.record document edit.label := by
  rw [Timeline.apply, h]

theorem Holds.apply {edit : Edit} (h : timeline.Holds p) (hedit : edit.Keeps p) :
    (timeline.apply edit).2.Holds p := by
  rw [Timeline.apply]
  split
  · exact h
  · next document hdocument => exact h.record (hedit _ document h.document hdocument) edit.label

private theorem Holds.tryApply {edit : Edit} (h : timeline.Holds p) (hedit : edit.Keeps p) :
    (timeline.tryApply edit).2.Holds p := by
  have hafter := h.apply hedit
  rw [Timeline.tryApply]
  split
  · next happly => rwa [happly] at hafter
  · next happly => rwa [happly] at hafter

private theorem Holds.step {op : SessionOp} (h : timeline.Holds p)
    (hop : ∀ edit, op.edit? = some edit → edit.Keeps p) : (timeline.step op).2.Holds p := by
  cases op with
  | edit edit => exact h.apply (hop edit rfl)
  | editText text =>
      rw [Timeline.step, applyText]
      split
      · exact h
      · next edit hedit => exact h.tryApply (hop edit hedit)
  | updateTokens tokens => exact h.tryApply (hop _ rfl)
  | undo => exact h
  | redo =>
      rw [Timeline.step, Timeline.redo]
      split <;> exact h
  | beginBatch label => exact h
  | endBatch => exact h

private theorem Holds.last {ops : List SessionOp} (h : timeline.Holds p)
    (hops : ∀ op ∈ ops, ∀ edit, op.edit? = some edit → edit.Keeps p) :
    (Run.last Timeline.step timeline ops).Holds p := by
  induction ops generalizing timeline with
  | nil => exact h
  | cons op ops ih =>
      obtain ⟨hop, hrest⟩ := List.forall_mem_cons.mp hops
      exact ih (h.step hop) hrest

end Timeline

namespace Session

private theorem timeline_after {session : Session} (h : session.history.WellFormed)
    (ops : List SessionOp) :
    (session.after ops).timeline = Run.last Timeline.step session.timeline ops := by
  induction ops generalizing session with
  | nil => rfl
  | cons op ops ih =>
      rw [Run.last, step_timeline h]
      exact ih (wellFormed_step h op)

theorem document_after (document : Document) (limit : Nat) (ops : List SessionOp) :
    ((start document limit).after ops).document =
      (Run.last Timeline.step (.start document limit) ops).document := by
  rw [← document_timeline, timeline_after (wellFormed_start document limit), timeline_start]

theorem document_after_of_keeps {p : Document → Prop} {document : Document} (hdocument : p document)
    (limit : Nat) {ops : List SessionOp}
    (hops : ∀ op ∈ ops, ∀ edit, op.edit? = some edit → edit.Keeps p) :
    p ((start document limit).after ops).document := by
  have hstart : (Timeline.start document limit).Holds p :=
    fun snapshot hsnapshot => List.mem_singleton.mp hsnapshot ▸ hdocument
  rw [document_after]
  exact (hstart.last hops).document

end Session

/-! ## Saving -/

theorem Document.read?_write {document : Document} {pretty : Bool} (h : document.Lossless)
    (hread : Json.read? (document.write pretty) = some document.toJson) :
    read? (document.write pretty) = some document := by
  rw [read?, hread]
  exact ofJson?_toJson h

namespace Session

/-- Elements and documents whose floats are finite and whose unknown elements have no known tag are
read back as they were, from the fields as written and from the fields in order.  Whatever has been
read from a value with numbers as a text can give is like this, with every element of unknown type
written as it was read; and so is the document of a session that has been started with and fed with
what has been read.  It is the same document when it has been saved as a text and loaded again,
provided that the text is read as the value that has been written. -/
theorem saves_without_loss :
    (∀ element : Element, element.Lossless →
      Element.ofJson? element.toJson = some element ∧
        Element.ofJson? element.toJson.sorted = some element) ∧
    (∀ document : Document, document.Lossless →
      Document.ofJson? document.toJson = some document ∧
        Document.ofJson? document.toJson.sorted = some document) ∧
    (∀ (source : String) (value : Json), Json.read? source = some value → value.Fits) ∧
    (∀ (value : Json) (element : Element), value.Fits → Element.ofJson? value = some element →
      element.Lossless ∧
        ∀ path item, value.elementAt? path = some item → item.HasUnknownType →
          ∃ sub, element.find? path = some sub ∧ sub.toJson = item.sorted ∧
            (value.Ordered → sub.toJson = item)) ∧
    ∀ (value : Json) (document : Document) (limit : Nat) (ops : List SessionOp), value.Fits →
      Document.ofJson? value = some document →
      (∀ op ∈ ops, ∀ edit, op.edit? = some edit →
        ∃ given : Json, given.Fits ∧ Edit.ofJson? given = some edit) →
      let reached := ((start document limit).after ops).document
      reached.Lossless ∧ Document.ofJson? reached.toJson = some reached ∧
        ∀ pretty, Json.read? (reached.write pretty) = some reached.toJson →
          Document.read? (reached.write pretty) = some reached := by
  refine ⟨fun element hlossless => ?_, fun document hlossless => ?_,
    fun source value => Json.fits_of_read?, ?_, ?_⟩
  · have hread := Element.ofJson?_toJson hlossless
    exact ⟨hread, Element.stable_ofJson? _ _ hread⟩
  · have hread := Document.ofJson?_toJson hlossless
    exact ⟨hread, Document.stable_ofJson? _ _ hread⟩
  · intro value element hfits hread
    refine ⟨Element.lossless_of_ofJson? hfits hread, fun path item hitem hunknown => ?_⟩
    obtain ⟨sub, hsub, hjson⟩ := Element.unknown_verbatim hread hitem hunknown
    refine ⟨sub, hsub, hjson, fun hordered => ?_⟩
    rw [hjson, Json.sorted_of_ordered item (hordered.elementAt? hitem)]
  · intro value document limit ops hfits hread hops reached
    have hlossless : reached.Lossless := by
      refine document_after_of_keeps (Document.lossless_of_ofJson? hfits hread) limit ?_
      intro op hop edit hedit before after hbefore hafter
      obtain ⟨given, hgiven, hdecoded⟩ := hops op hop edit hedit
      exact Edit.lossless_onDocument (Edit.lossless_of_ofJson? hgiven hdecoded) hbefore hafter
    exact ⟨hlossless, Document.ofJson?_toJson hlossless,
      fun pretty hwritten => Document.read?_write hlossless hwritten⟩

/-- A document without names is read; its chart is removed, is back after the undo, is saved as it
was read, and is loaded again. -/
theorem saves_without_loss_after_undo :
    let chart : List (String × Json) := [("data", .bool true), ("type", .text "Chart")]
    let template : Json := .list [.number (.whole 1), .null, .null, .null,
      .object [("column", .null)], .number (.whole 4), .null, .null, .null,
      .list [.object chart]]
    let value : Json := .list [template]
    let patch : List (String × Json) := [("gap", .number (.float .one))]
    let ops : List SessionOp := [.edit (.updateElement .root (.ofFields patch)),
      .editText (.remove "children[0]"), .undo]
    let stack (gap : Binary64) : Document := ⟨.container
      (.stack .none ⟨.column, some gap, none, none, none⟩) [.leaf (.unknown (.ofFields chart))],
      .empty⟩
    let reached := ((start (stack (.ofInt 4)) 10).after ops).document
    Document.ofJson? value = some (stack (.ofInt 4)) ∧ reached = stack .one ∧
      (∃ sub, (stack (.ofInt 4)).template.find? [0] = some sub ∧ sub.toJson = .object chart) ∧
      Document.read? (reached.write false) = some reached := by
  intro chart template value patch ops stack reached
  have htemplate : template.Fits := by simp [template, chart, Number.Fits, Json.wordBound]
  have hvalue : value.Fits := by simpa [value] using htemplate
  have hdocument : Document.ofJson? value = some (stack (.ofInt 4)) := by rfl
  have hops : ∀ op ∈ ops, ∀ edit, op.edit? = some edit →
      ∃ given : Json, given.Fits ∧ Edit.ofJson? given = some edit := by
    have hpatch : (Json.object patch).Fits := by simp [patch, Number.Fits]; rfl
    intro op hop edit hedit
    simp only [ops, List.mem_cons, List.not_mem_nil, or_false] at hop
    rcases hop with rfl | rfl | rfl
    · cases hedit
      exact ⟨.object [("UpdateElement", .object [("path", .text ""), ("patch", .object patch)])],
        by simpa using hpatch, rfl⟩
    · obtain rfl : Edit.removeElement [0] = edit := Option.some.inj hedit
      exact ⟨.object [("RemoveElement", .object [("path", .text "children[0]")])], by simp, rfl⟩
    · cases hedit
  have hpatched : (Edit.updateElement .root (.ofFields patch)).onDocument (stack (.ofInt 4)) =
      .ok (stack .one) := by rfl
  have hremoved : (Edit.removeElement [0]).onDocument (stack .one) =
      .ok ⟨.container (.stack .none ⟨.column, some .one, none, none, none⟩) [], .empty⟩ := by rfl
  have hreached : reached = stack .one := by
    let started := Timeline.start (stack (.ofInt 4)) 10
    let patched := started.record (stack .one) "Update element"
    have hfirst : (started.step (.edit (.updateElement .root (.ofFields patch)))).2 = patched :=
      Timeline.apply_of_ok hpatched
    have hrest : (Run.last Timeline.step patched
        [.editText (.remove "children[0]"), .undo]).document = stack .one := by
      have hedit : (TextEdit.remove "children[0]").edit? = some (.removeElement [0]) := by rfl
      have hcurrent : patched.document = stack .one := by rfl
      simp only [Run.last, Timeline.step, Timeline.applyText, hedit, Timeline.tryApply,
        Timeline.apply, hcurrent, hremoved]
      rfl
    calc reached = (Run.last Timeline.step started ops).document := document_after _ 10 ops
      _ = stack .one := by
        rw [Run.last, hfirst]
        exact hrest
  have htokens : Json.tokens? ((stack .one).write false).toList = some
      [.openObject, .text "template", .colon, .openObject, .text "type", .colon, .text "Stack",
        .comma, .text "direction", .colon, .text "column", .comma, .text "gap", .colon,
        .number (.float .one), .comma, .text "children", .colon, .openList, .openObject,
        .text "data", .colon, .bool true, .comma, .text "type", .colon, .text "Chart", .closeObject,
        .closeList, .closeObject, .comma, .text "tokens", .colon, .openObject, .text "colors",
        .colon, .openObject, .closeObject, .comma, .text "typography", .colon, .openObject,
        .closeObject, .closeObject, .closeObject] := by
    decide +kernel
  obtain ⟨-, -, -, hverbatim, hsession⟩ := saves_without_loss
  obtain ⟨-, -, htext⟩ := hsession value _ 10 ops hvalue hdocument hops
  refine ⟨hdocument, hreached, ?_, htext false ?_⟩
  · obtain ⟨sub, hfind, -, hjson⟩ :=
      (hverbatim template (stack (.ofInt 4)).template htemplate rfl).2 [0] (.object chart) rfl
        ⟨"Chart", rfl, rfl⟩
    refine ⟨sub, hfind, hjson ?_⟩
    simp only [template, chart, Json.Ordered, Json.OrderedFields, Json.OrderedItems, Ascending,
      and_true]
    decide
  · change Json.read? (reached.write false) = some reached.toJson
    rw [hreached, Json.read?, htokens]
    rfl

end Session

end DocTemplate
