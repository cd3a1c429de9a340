import DocTemplate.Edit.Session

/-!
# Replay

A list of edits made one after another on a document, up to the first one that is refused.
-/

namespace DocTemplate

structure ReplayError where
  index : Nat
  label : String
  error : EditError
  deriving DecidableEq, Repr

namespace Session

def replayFrom (session : Session) (index : Nat) : List Edit → Except ReplayError Session
  | [] => .ok session
  | edit :: rest =>
      match session.apply edit with
      | (.error error, _) => .error ⟨index, edit.label, error⟩
      | (.ok _, after) => after.replayFrom (index + 1) rest

/-- With a label for a batch, all edits are a single step. -/
def replay (document : Document) (edits : List Edit) (batch : Option String) (limit : Nat) :
    Except ReplayError Session :=
  let session := start document limit
  let opened := match batch with
    | some label => session.beginBatch label
    | none => session
  (opened.replayFrom 0 edits).map fun after => after.endBatch.2

end Session

end DocTemplate
