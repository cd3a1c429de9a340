import DocTemplate.Edit.History
import DocTemplate.Edit.Effect

/-!
# Sessions

Editing of one document.  Every edit that is made is recorded as a snapshot and counted by the
version; an edit that is refused changes nothing.
-/

namespace DocTemplate

structure Session where
  history : History
  version : Nat

structure EditResult where
  version : Nat
  path : ElementPath
  deriving DecidableEq, Repr

namespace Session

def start (document : Document) (limit : Nat) : Session :=
  let (root, arena) := (Arena.insertTree document.template).run .empty
  ⟨.start arena root document.tokens limit, 0⟩

/-! ## Views -/

def template (session : Session) : Element :=
  session.history.arena.build session.history.current.root

def tokens (session : Session) : DesignTokens := session.history.current.tokens

def document (session : Session) : Document := ⟨session.template, session.tokens⟩

def elementAt? (session : Session) (path : String) : Option Element :=
  match ElementPath.parse path with
  | .error _ => none
  | .ok path =>
      (session.history.arena.resolve? session.history.current.root path).map
        session.history.arena.build

/-! ## Edits -/

def tokensAfter (session : Session) : Edit → DesignTokens
  | .updateTokens tokens => tokens
  | _ => session.tokens

def apply (session : Session) (edit : Edit) : Except EditError EditResult × Session :=
  match edit.applyTo session.history.arena session.history.current.root with
  | (.error error, arena) =>
      (.error error, { session with history := { session.history with arena } })
  | (.ok root, arena) =>
      let path := edit.resultPath arena root
      let edited : History := { session.history with arena }
      let version := session.version + 1
      (.ok ⟨version, path⟩,
        ⟨edited.record root (session.tokensAfter edit) edit.label, version⟩)

def tryApply (session : Session) (edit : Edit) : Bool × Session :=
  match session.apply edit with
  | (.ok _, after) => (true, after)
  | (.error _, after) => (false, after)

/-! ## Edits at paths given as text -/

def applyAt (session : Session) (path : String) (edit : ElementPath → Edit) : Bool × Session :=
  match ElementPath.parse path with
  | .error _ => (false, session)
  | .ok path => session.tryApply (edit path)

def updateAt (session : Session) (path : String) (patch : Object) : Bool × Session :=
  session.applyAt path fun path => .updateElement path patch

def addAt (session : Session) (parent : String) (element : Element) : Bool × Session :=
  session.applyAt parent fun parent => .addElement parent element

def insertAt (session : Session) (parent : String) (index : Nat) (element : Element) :
    Bool × Session :=
  session.applyAt parent fun parent => .insertElement parent index element

def removeAt (session : Session) (path : String) : Bool × Session :=
  session.applyAt path .removeElement

def moveAt (session : Session) (source target : String) (index : Nat) : Bool × Session :=
  match ElementPath.parse target with
  | .error _ => (false, session)
  | .ok target => session.applyAt source fun source => .moveElement source target index

def updateTokens (session : Session) (tokens : DesignTokens) : Bool × Session :=
  session.tryApply (.updateTokens tokens)

/-! ## Steps -/

def undo (session : Session) : Bool × Session :=
  let (moved, history) := session.history.undo
  (moved, { session with history })

def redo (session : Session) : Bool × Session :=
  let (moved, history) := session.history.redo
  (moved, { session with history })

def beginBatch (session : Session) (label : String) : Session :=
  { session with history := session.history.beginBatch label }

def endBatch (session : Session) : Bool × Session :=
  let (recorded, history) := session.history.endBatch
  (recorded, { session with history })

end Session

end DocTemplate
