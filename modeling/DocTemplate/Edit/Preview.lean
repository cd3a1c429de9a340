import DocTemplate.Edit.Session
import DocTemplate.Render.Renderer

/-!
# Previews

An editing session that is rendered again after every change, with the last render at hand.
-/

namespace DocTemplate

structure PreviewRender where
  version : Nat
  report : RenderReport

structure Preview where
  session : Session
  view : View
  options : RenderOptions
  lastRender : Option PreviewRender

namespace Preview

def start (session : Session) (view : View) (options : RenderOptions) : Preview :=
  ⟨session, view, options, none⟩

def currentRender (preview : Preview) : PreviewRender where
  version := preview.session.version
  report := .ofTemplate preview.view preview.session.tokens preview.options
    preview.session.template

def fullRender (preview : Preview) : PreviewRender × Preview :=
  let render := preview.currentRender
  (render, { preview with lastRender := some render })

/-- A refused edit leaves the last render as it is. -/
def apply (preview : Preview) (edit : Edit) : Except EditError PreviewRender × Preview :=
  match preview.session.apply edit with
  | (.error error, session) => (.error error, { preview with session })
  | (.ok _, session) =>
      let (render, after) := fullRender { preview with session }
      (.ok render, after)

def afterStep (preview : Preview) (step : Bool × Session) : Option PreviewRender × Preview :=
  let moved := { preview with session := step.2 }
  if step.1 then
    let (render, after) := moved.fullRender
    (some render, after)
  else (none, moved)

def undo (preview : Preview) : Option PreviewRender × Preview :=
  preview.afterStep preview.session.undo

def redo (preview : Preview) : Option PreviewRender × Preview :=
  preview.afterStep preview.session.redo

def setView (preview : Preview) (view : View) : PreviewRender × Preview :=
  fullRender { preview with view }

def clear (preview : Preview) : Preview := { preview with lastRender := none }

end Preview

end DocTemplate
