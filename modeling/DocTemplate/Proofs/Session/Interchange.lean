import DocTemplate.Json.Reader
import DocTemplate.Edit.Replay
import DocTemplate.Proofs.Edit.Codec
import DocTemplate.Proofs.Render.Codec

/-!
# Interchange

Edits come from outside and rendered nodes go there, both as JSON.  Nothing is lost on the way, so
edits that have been sent do in a session what they would have done without being sent.
-/

namespace DocTemplate

/-- A value is read from what has been written of it, with the fields in either order, and from any
text that stands for this. -/
structure Json.Survives {α : Type} (read : Json → Option α) (written : Json) (given : α) :
    Prop where
  value : read written = some given
  sorted : read written.sorted = some given
  text : ∀ source value, Json.read? source = some value →
    value = written ∨ value = written.sorted → (Json.read? source).bind read = some given

theorem Json.Stable.survives {α : Type} {read : Json → Option α} {written : Json} {given : α}
    (hstable : Stable read) (h : read written = some given) : Survives read written given where
  value := h
  sorted := hstable written given h
  text source value hvalue heq := by
    rw [hvalue, Option.bind_some]
    rcases heq with rfl | rfl
    · exact h
    · exact hstable written given h

/-- Edits are read back as they were if their paths and their index fit the bound of indices and the
elements they bring have finite floats and no unknown element of a known type; patches and tokens
may be any.  Rendered nodes are read back if their floats are finite.  So a list of edits that has
been written and read is the same list, and its replay in any session ends in the same way. -/
theorem Session.survives_interchange :
    (∀ edit : Edit, edit.Writable → Json.Survives Edit.ofJson? edit.toJson edit) ∧
      (∀ node : Rendered, node.Finite → Json.Survives Rendered.ofJson? node.toJson node) ∧
      ∀ edits : List Edit, (∀ edit ∈ edits, edit.Writable) →
        let written := Json.list (edits.map Edit.toJson)
        Json.Survives Edit.listOfJson? written edits ∧
          ∀ value ∈ [written, written.sorted], ∀ (session : Session) (index : Nat),
            (Edit.listOfJson? value).map (session.replayFrom index) =
              some (session.replayFrom index edits) := by
  refine ⟨fun edit h => Edit.stable_ofJson?.survives (Edit.ofJson?_toJson h),
    fun node h => Rendered.stable_ofJson?.survives (Rendered.ofJson?_toJson h), fun edits h => ?_⟩
  have hlist := Edit.stable_listOfJson?.survives (Edit.listOfJson?_toJson h)
  refine ⟨hlist, fun value hvalue session index => ?_⟩
  have hread : Edit.listOfJson? value = some edits := by
    simp only [List.mem_cons, List.not_mem_nil, or_false] at hvalue
    rcases hvalue with rfl | rfl
    · exact hlist.value
    · exact hlist.sorted
  rw [hread, Option.map_some]

/-- A patch with a null, a chart of unknown type, a fragment in a stack with a gap, and the text of
a line of a given thickness. -/
theorem Session.survives_interchange_of_each_kind :
    let patch : Object := .ofFields [("style", .object []), ("gap", .null)]
    let edits : List Edit := [.updateElement [0, 7] patch, .addElement .root (.unknown "Chart"),
      .insertElement [1] 2 (.text "x"), .removeElement [0], .moveElement [2] .root 1,
      .updateTokens .empty]
    let flow : RenderedFlow := ⟨.row, some .one, none, some .center, true⟩
    let line : Rendered := .figure (.divider none .empty .one none)
    let node : Rendered := .box (.stack (some "s") patch flow) [line, .box .fragment []]
    (∀ edit ∈ edits, edit.Writable) ∧ line.Finite ∧ node.Finite ∧
      (∀ session : Session,
        (Edit.listOfJson? (.list (edits.map Edit.toJson))).map (session.replayFrom 0) =
          some (session.replayFrom 0 edits)) ∧
      Rendered.ofJson? node.toJson = some node ∧
      Rendered.ofJson? node.toJson.sorted = some node ∧
      (Json.read? line.toJson.compact).bind Rendered.ofJson? = some line := by
  intro patch edits flow line node
  have hlossless : (Element.unknown "Chart").Lossless ∧ (Element.text "x").Lossless :=
    ⟨.intro ⟨nofun, fun _ h => by cases h; exact ⟨"Chart", rfl, rfl⟩⟩ nofun,
      .intro ⟨nofun, nofun⟩ nofun⟩
  have hwritable : ∀ edit ∈ edits, edit.Writable := by
    have hpaths : ∀ edit ∈ edits, ∀ path ∈ edit.paths, ∀ index ∈ path, index < Text.indexBound := by
      simp [edits, Edit.paths, ElementPath.root, Text.indexBound]
    have hindex : ∀ edit ∈ edits, ∀ index ∈ edit.index?, index < Text.indexBound := by
      simp [edits, Edit.index?, Text.indexBound]
    have helement : ∀ edit ∈ edits, ∀ element ∈ edit.element?, element.Lossless := by
      simp [edits, Edit.element?, hlossless]
    exact fun edit hedit => ⟨hpaths edit hedit, hindex edit hedit, helement edit hedit⟩
  have hone : Binary64.one.isFinite = true := rfl
  have hline : line.Finite := by
    simp [Rendered.Finite, line, Rendered.nodes, Rendered.floats, Figure.floats, hone]
  have hnode : node.Finite := by
    simp [Rendered.Finite, node, line, flow, Rendered.nodes, Rendered.nodesOf, Rendered.floats,
      Box.floats, Figure.floats, hone]
  obtain ⟨-, hrendered, hlist⟩ := Session.survives_interchange
  have hread : Json.read? line.toJson.compact = some line.toJson := by
    have htokens : Json.tokens? line.toJson.compact.toList =
        some [.openObject, .text "type", .colon, .text "Divider", .comma, .text "style", .colon,
          .openObject, .closeObject, .comma, .text "thickness", .colon, .number (.float .one),
          .closeObject] := by
      decide +kernel
    rw [Json.read?, htokens]
    rfl
  refine ⟨hwritable, hline, hnode, fun session => ?_, (hrendered node hnode).value,
    (hrendered node hnode).sorted, (hrendered line hline).text _ line.toJson hread (.inl rfl)⟩
  exact (hlist edits hwritable).2 _ (by simp) session 0

end DocTemplate
