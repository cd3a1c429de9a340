import DocTemplate.Proofs.Render.Picture
import DocTemplate.Proofs.Session.Timeline
import DocTemplate.Proofs.Template.PathText

/-!
# Diagnostics of a render

A render that collects diagnostics reports exactly what the instances of its template give cause
for, in the order in which they are met, and each at the path that leads back to its element.
-/

namespace DocTemplate

/-! ## Elements of a session -/

theorem Session.elementAt?_text {session : Session} {path : ElementPath}
    (hwell : session.history.WellFormed) (hindices : ∀ index ∈ path, index < Text.indexBound) :
    session.elementAt? path.text = session.template.find? path := by
  rw [elementAt?, ElementPath.parse_text hindices]
  exact (Arena.find?_build hwell.arena _ path).symm

theorem Instance.path_of_mem_diagnostics {met : Instance} {view : View} {diagnostic : Diagnostic}
    (h : diagnostic ∈ met.diagnostics view) : diagnostic.path = met.path := by
  obtain ⟨cause, -, rfl⟩ := List.mem_map.mp h
  rfl

/-! ## Collection -/

private theorem RenderSetting.pictures_congr {first second : RenderSetting} {scope : Option Json}
    {children : List Element}
    (h : ∀ child ∈ children, first.picture scope child = second.picture scope child) :
    first.pictures scope children = second.pictures scope children := by
  induction children with
  | nil => rfl
  | cons child rest ih =>
      obtain ⟨hchild, hrest⟩ := List.forall_mem_cons.mp h
      rw [pictures, pictures, hchild, ih hrest]

theorem RenderSetting.picture_collect (view : View) (tokens : DesignTokens) (dateFormat : String)
    (first second : Bool) (scope : Option Json) (element : Element) :
    picture ⟨view, tokens, ⟨dateFormat, first⟩⟩ scope element =
      picture ⟨view, tokens, ⟨dateFormat, second⟩⟩ scope element := by
  induction element using Element.inductionOnChildren generalizing scope with
  | step element ih =>
      cases element with
      | leaf kind =>
          have hnode : leafNode ⟨view, tokens, ⟨dateFormat, first⟩⟩ scope kind =
              leafNode ⟨view, tokens, ⟨dateFormat, second⟩⟩ scope kind := by cases kind <;> rfl
          rw [picture, picture, hnode]
      | container kind children =>
          have hchildren (inner : Option Json) :
              pictures ⟨view, tokens, ⟨dateFormat, first⟩⟩ inner children =
                pictures ⟨view, tokens, ⟨dateFormat, second⟩⟩ inner children :=
            pictures_congr fun child hchild => ih child hchild inner
          simp only [picture, hchildren]

namespace Renderer

/-- The diagnostics of a render are those of the instances, one after another; the path of each
leads to its element, in the template and, as a text, in a session that holds the template.  What
is met below the root is met inside of something shown.  Without collection nothing but the
diagnostics is missing. -/
theorem diagnostics_are_exact (view : View) (tokens : DesignTokens) (dateFormat : String)
    (scope : Option Json) (template : Element) :
    let renders (collect : Bool) :=
      (start view tokens ⟨dateFormat, collect⟩).render template scope
    let instances := template.instances view scope
    (renders true).2.takeDiagnostics.1 = instances.flatMap (·.diagnostics view) ∧
      (∀ met ∈ instances, ∀ diagnostic ∈ met.diagnostics view,
        template.find? diagnostic.path = some met.element ∧
        ∀ session : Session, session.Reachable → session.template = template →
          (∀ index ∈ diagnostic.path, index < Text.indexBound) →
            session.elementAt? diagnostic.path.text = some met.element) ∧
      (∀ met ∈ instances, ∀ parent index, met.path = ElementPath.child parent index →
        ∃ around ∈ instances, around.path = parent ∧ around.isShown view = true ∧
          met.scope ∈ around.element.innerScopes view around.scope) ∧
      (renders false).2.takeDiagnostics.1 = [] ∧ (renders false).1 = (renders true).1 := by
  intro renders instances
  refine ⟨diagnostics_render_start .., ?_, ?_, diagnostics_render_start .., ?_⟩
  · intro met hmet diagnostic hdiagnostic
    have hfind : template.find? diagnostic.path = some met.element := by
      rw [met.path_of_mem_diagnostics hdiagnostic]
      exact Element.find?_of_mem_instances hmet
    refine ⟨hfind, fun session hreachable htemplate hindices => ?_⟩
    rw [Session.elementAt?_text hreachable.wellFormed hindices, htemplate, hfind]
  · intro met hmet parent index hpath
    exact Element.enclosing_of_mem_instances hmet hpath
  · rw [fst_render_start, fst_render_start]
    exact RenderSetting.picture_collect view tokens dateFormat false true scope template

/-- The frame of the second item is hidden, and so nothing is reported from inside of it. -/
theorem diagnostics_are_exact_in_repeater :
    let broken : Element := .leaf (.text ⟨none, none, some ⟨"a ~ b", false⟩⟩ (some "x") none)
    let framed : Element :=
      .container (.frame ⟨none, none, some ⟨"on", false⟩⟩ none) [.unknown "Chart"]
    let template := Element.frame [.repeater (.ofPath "items") [framed, broken]]
    let items : Json := .list [.object [("on", .bool true)], .object [("on", .bool false)]]
    let view : View := ⟨fun _ => items, []⟩
    let session := Session.start ⟨template, .empty⟩ 0
    let renders := (start view .empty ⟨"", true⟩).render template none
    let malformed : Diagnostic := ⟨[0, 1], .malformedCondition ⟨"a ~ b", .noOperator⟩⟩
    renders.2.takeDiagnostics.1 = [⟨[0, 0, 0], .unknownTag "Chart"⟩, malformed, malformed] ∧
      session.elementAt? malformed.path.text = some broken := by
  intro broken framed template items view session renders malformed
  obtain ⟨hreported, hpaths, -⟩ := diagnostics_are_exact view .empty "" none template
  refine ⟨hreported.trans (by decide +kernel), ?_⟩
  have hscopes : template.scopesAt view none [0, 1] =
      [some (.object [("on", .bool true)]), some (.object [("on", .bool false)])] := by rfl
  have hmet : ⟨[0, 1], some (.object [("on", .bool false)]), broken⟩ ∈
      template.instances view none :=
    Element.mem_instancesAt.mpr ⟨[0, 1], rfl, rfl, hscopes ▸ by simp⟩
  have hmalformed : malformed ∈ Instance.diagnostics
      ⟨[0, 1], some (.object [("on", .bool false)]), broken⟩ view := by decide +kernel
  refine (hpaths _ hmet malformed hmalformed).2 session ⟨⟨template, .empty⟩, 0, [], rfl⟩ ?_ ?_
  · exact (Arena.holds_insertTree template Arena.wellFormed_empty).build_single
  · decide

end Renderer

end DocTemplate
