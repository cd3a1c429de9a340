import DocTemplate.Proofs.Template.Codec

/-!
# Records that come to the same

A record is changed twice in a row, and in between it is read and written again; or it is changed
once.  Under each name the two end results then hold the same, or one holds what had been read there
and the other what has been written.  As long as reading and writing agree, the readers of elements
see no difference.
-/

namespace DocTemplate

namespace Json

/-- Under every name `once` and `twice` hold the same, or `once` what `given` holds there and
`twice` what `written` holds. -/
def Composed (given written once twice : List (String × Json)) : Prop :=
  ∀ name, single? once name = single? twice name ∨
    single? once name = single? given name ∧ single? twice name = single? written name

namespace Composed

variable {α : Type} {read : Json → Option α} {missing value : α} {key : String}
  {given written once twice : List (String × Json)}

theorem required? (h : Composed given written once twice)
    (hgiven : Json.required? read given key = some value)
    (hwritten : Json.required? read written key = some value) :
    Json.required? read once key = Json.required? read twice key := by
  rcases h key with heq | ⟨honce, htwice⟩
  · exact required?_congr heq
  · rw [required?_congr honce, hgiven, required?_congr htwice, hwritten]

theorem optional? {value : Option α} (h : Composed given written once twice)
    (hgiven : Json.optional? read given key = some value)
    (hwritten : Json.optional? read written key = some value) :
    Json.optional? read once key = Json.optional? read twice key := by
  rcases h key with heq | ⟨honce, htwice⟩
  · exact optional?_congr heq
  · rw [optional?_congr honce, hgiven, optional?_congr htwice, hwritten]

theorem defaulted? (h : Composed given written once twice)
    (hgiven : Json.defaulted? read missing given key = some value)
    (hwritten : Json.defaulted? read missing written key = some value) :
    Json.defaulted? read missing once key = Json.defaulted? read missing twice key := by
  rcases h key with heq | ⟨honce, htwice⟩
  · exact defaulted?_congr heq
  · rw [defaulted?_congr honce, hgiven, defaulted?_congr htwice, hwritten]

end Composed

end Json

/-! ## Parts and shapes -/

section Readers

variable {given written once twice : List (String × Json)}

private theorem Attributes.ofFields?_composed {attributes : Attributes}
    (h : Json.Composed given written once twice) (hgiven : ofFields? given = some attributes)
    (hwritten : ofFields? written = some attributes) : ofFields? once = ofFields? twice := by
  simp only [ofFields?, Option.bind_eq_bind, Option.bind_eq_some_iff] at hgiven hwritten
  obtain ⟨id, hid, style, hstyle, condition, hcondition, heq⟩ := hgiven
  obtain ⟨_, hid', _, hstyle', _, hcondition', heq'⟩ := hwritten
  cases heq
  cases heq'
  rw [ofFields?, ofFields?, h.optional? hid hid', h.optional? hstyle hstyle',
    h.optional? hcondition hcondition']

private theorem Flow.ofFields?_composed {flow : Flow} (h : Json.Composed given written once twice)
    (hgiven : ofFields? given = some flow) (hwritten : ofFields? written = some flow) :
    ofFields? once = ofFields? twice := by
  simp only [ofFields?, Option.bind_eq_bind, Option.bind_eq_some_iff] at hgiven hwritten
  obtain ⟨direction, hdirection, gap, hgap, align, halign, justify, hjustify, wrap, hwrap, heq⟩ :=
    hgiven
  obtain ⟨_, hdirection', _, hgap', _, halign', _, hjustify', _, hwrap', heq'⟩ := hwritten
  cases heq
  cases heq'
  rw [ofFields?, ofFields?, h.defaulted? hdirection hdirection', h.optional? hgap hgap',
    h.optional? halign halign', h.optional? hjustify hjustify', h.optional? hwrap hwrap']

private theorem Cells.ofFields?_composed {cells : Cells}
    (h : Json.Composed given written once twice)
    (hgiven : ofFields? given = some cells) (hwritten : ofFields? written = some cells) :
    ofFields? once = ofFields? twice := by
  simp only [ofFields?, Option.bind_eq_bind, Option.bind_eq_some_iff] at hgiven hwritten
  obtain ⟨cols, hcols, rows, hrows, gap, hgap, heq⟩ := hgiven
  obtain ⟨_, hcols', _, hrows', _, hgap', heq'⟩ := hwritten
  cases heq
  cases heq'
  rw [ofFields?, ofFields?, h.required? hcols hcols', h.optional? hrows hrows',
    h.optional? hgap hgap']

private theorem Picture.ofFields?_composed {picture : Picture}
    (h : Json.Composed given written once twice)
    (hgiven : ofFields? given = some picture) (hwritten : ofFields? written = some picture) :
    ofFields? once = ofFields? twice := by
  simp only [ofFields?, Option.bind_eq_bind, Option.bind_eq_some_iff] at hgiven hwritten
  obtain ⟨src, hsrc, binding, hbinding, alt, halt, fit, hfit, ratio, hratio, heq⟩ := hgiven
  obtain ⟨_, hsrc', _, hbinding', _, halt', _, hfit', _, hratio', heq'⟩ := hwritten
  cases heq
  cases heq'
  rw [ofFields?, ofFields?, h.optional? hsrc hsrc', h.optional? hbinding hbinding',
    h.optional? halt halt', h.optional? hfit hfit', h.optional? hratio hratio']

private theorem Rule.ofFields?_composed {rule : Rule} (h : Json.Composed given written once twice)
    (hgiven : ofFields? given = some rule) (hwritten : ofFields? written = some rule) :
    ofFields? once = ofFields? twice := by
  simp only [ofFields?, Option.bind_eq_bind, Option.bind_eq_some_iff] at hgiven hwritten
  obtain ⟨thickness, hthickness, color, hcolor, heq⟩ := hgiven
  obtain ⟨_, hthickness', _, hcolor', heq'⟩ := hwritten
  cases heq
  cases heq'
  rw [ofFields?, ofFields?, h.optional? hthickness hthickness', h.optional? hcolor hcolor']

theorem Shape.ofFields?_composed {tag : Tag} {shape : Shape}
    (h : Json.Composed given written once twice) (hgiven : ofFields? tag given = some shape)
    (hwritten : ofFields? tag written = some shape) : ofFields? tag once = ofFields? tag twice := by
  cases tag <;>
    simp only [ofFields?, Option.bind_eq_bind, Option.bind_eq_some_iff] at hgiven hwritten
  case frame =>
    obtain ⟨attributes, hattributes, pageBreak, hpageBreak, heq⟩ := hgiven
    obtain ⟨_, hattributes', _, hpageBreak', heq'⟩ := hwritten
    cases heq
    cases heq'
    rw [ofFields?, ofFields?, Attributes.ofFields?_composed h hattributes hattributes',
      h.optional? hpageBreak hpageBreak']
  case stack =>
    obtain ⟨attributes, hattributes, flow, hflow, heq⟩ := hgiven
    obtain ⟨_, hattributes', _, hflow', heq'⟩ := hwritten
    cases heq
    cases heq'
    rw [ofFields?, ofFields?, Attributes.ofFields?_composed h hattributes hattributes',
      Flow.ofFields?_composed h hflow hflow']
  case grid =>
    obtain ⟨attributes, hattributes, cells, hcells, heq⟩ := hgiven
    obtain ⟨_, hattributes', _, hcells', heq'⟩ := hwritten
    cases heq
    cases heq'
    rw [ofFields?, ofFields?, Attributes.ofFields?_composed h hattributes hattributes',
      Cells.ofFields?_composed h hcells hcells']
  case text =>
    obtain ⟨attributes, hattributes, content, hcontent, binding, hbinding, heq⟩ := hgiven
    obtain ⟨_, hattributes', _, hcontent', _, hbinding', heq'⟩ := hwritten
    cases heq
    cases heq'
    rw [ofFields?, ofFields?, Attributes.ofFields?_composed h hattributes hattributes',
      h.optional? hcontent hcontent', h.optional? hbinding hbinding']
  case image =>
    obtain ⟨attributes, hattributes, picture, hpicture, heq⟩ := hgiven
    obtain ⟨_, hattributes', _, hpicture', heq'⟩ := hwritten
    cases heq
    cases heq'
    rw [ofFields?, ofFields?, Attributes.ofFields?_composed h hattributes hattributes',
      Picture.ofFields?_composed h hpicture hpicture']
  case table =>
    obtain ⟨attributes, hattributes, columns, hcolumns, binding, hbinding, heq⟩ := hgiven
    obtain ⟨_, hattributes', _, hcolumns', _, hbinding', heq'⟩ := hwritten
    cases heq
    cases heq'
    rw [ofFields?, ofFields?, Attributes.ofFields?_composed h hattributes hattributes',
      h.defaulted? hcolumns hcolumns', h.required? hbinding hbinding']
  case divider =>
    obtain ⟨attributes, hattributes, rule, hrule, heq⟩ := hgiven
    obtain ⟨_, hattributes', _, hrule', heq'⟩ := hwritten
    cases heq
    cases heq'
    rw [ofFields?, ofFields?, Attributes.ofFields?_composed h hattributes hattributes',
      Rule.ofFields?_composed h hrule hrule']
  case repeater =>
    obtain ⟨style, hstyle, condition, hcondition, binding, hbinding, heq⟩ := hgiven
    obtain ⟨_, hstyle', _, hcondition', _, hbinding', heq'⟩ := hwritten
    cases heq
    cases heq'
    rw [ofFields?, ofFields?, h.optional? hstyle hstyle', h.optional? hcondition hcondition',
      h.required? hbinding hbinding']

end Readers

end DocTemplate
