import DocTemplate.Check.Validator
import DocTemplate.CommandLine.Arguments
import DocTemplate.CommandLine.Files
import DocTemplate.CommandLine.Settings
import DocTemplate.Edit.Replay
import DocTemplate.Template.Palette

/-!
# Running commands

`render` shows a document with a view, `check` validates it, `apply` replays a list of edits on it,
and `new` prints the element a tag stands for.  Results go to a file or to the standard output,
remarks and failures to the standard error.
-/

namespace DocTemplate.CommandLine

/-! ## Failures -/

inductive Failure where
  | usage
  | unreadableSettings (path : String) (fault : FileFault)
  | invalidSettings (path : String)
  | unreadable (path : String) (fault : FileFault)
  | invalidJson (path : String)
  | unwritable (path : String) (fault : FileFault)
  | errorsFound (path : String) (count : Nat)
  | refused (error : ReplayError)
  | unknownTag (error : UnknownTag)
  deriving DecidableEq, Repr

namespace Failure

def chain : Failure → List String
  | .usage => ["invalid arguments"]
  | .unreadableSettings path fault => ["Cannot read config " ++ path, fault.message]
  | .invalidSettings path => ["Invalid config " ++ path]
  | .unreadable path fault => ["Cannot read " ++ path, fault.message]
  | .invalidJson path => ["Invalid JSON in " ++ path]
  | .unwritable path fault => ["Cannot write " ++ path, fault.message]
  | .errorsFound path count => [path ++ " found " ++ Text.numeral count ++ " error(s)"]
  | .refused error =>
      ("Mutation #" ++ Text.numeral error.index ++ " (" ++ error.label ++ ") failed") ::
        error.error.chain
  | .unknownTag error =>
      ["Expected one of: " ++ Text.joinWith ", " (Tag.all.map Tag.name), error.message]

def message (failure : Failure) : String := Text.joinWith ": " failure.chain

def exitCode : Failure → Nat
  | .usage => 2
  | _ => 1

end Failure

/-! ## Transcripts -/

structure Transcript where
  stdout : String
  stderr : String
  deriving DecidableEq, Repr

def Transcript.empty : Transcript := ⟨"", ""⟩

structure Outcome where
  transcript : Transcript
  failure : Option Failure
  deriving DecidableEq, Repr

def Outcome.exitCode (outcome : Outcome) : Nat := (outcome.failure.map Failure.exitCode).getD 0

/-- The standard error with the failure, if there is one, set off by blank lines. -/
def Outcome.stderr (outcome : Outcome) : String :=
  match outcome.failure with
  | none => outcome.transcript.stderr
  | some failure => outcome.transcript.stderr ++ "\nError: " ++ failure.message ++ "\n\n"

abbrev CommandM (m : Type → Type) := ExceptT Failure (StateT Transcript m)

section Commands

variable {m : Type → Type} [Monad m]

def say (line : String) : CommandM m Unit :=
  modify fun transcript => { transcript with stdout := transcript.stdout ++ line ++ "\n" }

def remark (line : String) : CommandM m Unit :=
  modify fun transcript => { transcript with stderr := transcript.stderr ++ line ++ "\n" }

/-! ## Files -/

def perform {α : Type} (action : m α) : CommandM m α := ExceptT.lift (StateT.lift action)

def orFail {ε α : Type} (failure : ε → Failure) : Except ε α → CommandM m α
  | .ok value => pure value
  | .error error => throw (failure error)

def readRecord {α : Type} (access : FileAccess m) (path : String) (unreadable : FileFault → Failure)
    (invalid : Failure) (decode : Json → Option α) : CommandM m α := do
  let source ← orFail unreadable (← perform (access.read path))
  match (Json.read? source).bind decode with
  | some value => return value
  | none => throw invalid

def readJson {α : Type} (access : FileAccess m) (path : String) (decode : Json → Option α) :
    CommandM m α :=
  readRecord access path (.unreadable path) (.invalidJson path) decode

/-- A settings file that is named must be there, the default one need not. -/
def readSettings (access : FileAccess m) (directory : String) (named : Option String) :
    CommandM m Settings := do
  let path := named.getD (directory ++ Settings.defaultFile)
  if named.isNone && !(← perform (access.present path)) then return .default
  else
    readRecord access path (.unreadableSettings path) (.invalidSettings path) Settings.ofJson?

def emit (access : FileAccess m) (text : String) : Option String → CommandM m Unit
  | none => say text
  | some path => do
      orFail (.unwritable path) (← perform (access.write path text))
      remark ("  ✓ Wrote " ++ path)

/-! ## Commands -/

def render (access : FileAccess m) (settings : Settings) (documentPath viewPath : String)
    (output : Option String) : CommandM m Unit := do
  let document ← readJson access documentPath Document.ofJson?
  let view ← readJson access viewPath View.ofJson?
  let report := RenderReport.ofTemplate view document.tokens settings.renderOptions document.template
  for diagnostic in report.diagnostics do
    remark ("  warning " ++ diagnostic.text)
  if report.rendered.isNone then
    remark "  ⚠️ Root element is hidden; nothing rendered"
  emit access (settings.write report.toJson) output

def findingLine (finding : Finding) : String :=
  "  " ++ finding.level.name ++ " [" ++ finding.path.reportText ++ "] " ++ finding.message

/-- Kinds of findings that do not occur are not counted. -/
def countLines (errors warnings : Nat) : List String :=
  (if 0 < errors then ["  Errors: " ++ Text.numeral errors] else []) ++
    (if 0 < warnings then ["  Warnings: " ++ Text.numeral warnings] else [])

def checkLines (path : String) (findings : List Finding) : List String :=
  let errors := (findings.filter Finding.isError).length
  ("🔍 Checking " ++ path) ::
    (findings.map findingLine ++
      (if findings.isEmpty then ["  ✓ No issues found!"]
        else "" :: countLines errors (findings.length - errors)))

def check (access : FileAccess m) (settings : Settings) (documentPath format : String) :
    CommandM m Unit := do
  let document ← readJson access documentPath Document.ofJson?
  let findings := document.template.findings
  if format = "json" then
    say (settings.write (.list (findings.map Finding.toJson)))
  else
    for line in checkLines documentPath findings do
      say line
  let errors := (findings.filter Finding.isError).length
  if 0 < errors then throw (.errorsFound documentPath errors)

def apply (access : FileAccess m) (settings : Settings) (documentPath editsPath : String)
    (output batch : Option String) : CommandM m Unit := do
  let document ← readJson access documentPath Document.ofJson?
  let edits ← readJson access editsPath Edit.listOfJson?
  let session ← orFail .refused (Session.replay document edits batch settings.historyLimit)
  remark ("  ✓ Applied " ++ Text.numeral session.version ++ " mutation(s), " ++
    Text.numeral session.history.cursor ++ " undo step(s)")
  emit access (settings.write session.document.toJson) output

def new (settings : Settings) (tag : String) : CommandM m Unit := do
  let tag ← orFail .unknownTag (Tag.pick tag)
  say (settings.write tag.element.toJson)

def runCommand (access : FileAccess m) (settings : Settings) : Command → CommandM m Unit
  | .render document view output => render access settings document view output
  | .check document format => check access settings document format
  | .apply document edits output batch => apply access settings document edits output batch
  | .new tag => new settings tag

/-- Paths in messages about the default settings file begin with `directory`. -/
def run (access : FileAccess m) (directory : String) (arguments : List String) : m Outcome := do
  match Invocation.ofArguments? arguments with
  | none => return ⟨.empty, some .usage⟩
  | some invocation =>
      let action : CommandM m Unit := do
        let settings ← readSettings access directory invocation.settings
        runCommand access settings invocation.command
      let (result, transcript) ← action.run.run .empty
      match result with
      | .ok () => return ⟨transcript, none⟩
      | .error failure => return ⟨transcript, some failure⟩

end Commands

end DocTemplate.CommandLine
