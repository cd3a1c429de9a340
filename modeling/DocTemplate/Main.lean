import DocTemplate.CommandLine.Run

/-!
# The program

Runs a command on the files of the machine.
-/

namespace DocTemplate

open CommandLine

def faultOf : IO.Error → FileFault
  | .noFileOrDirectory _ _ _ => .notFound
  | .inappropriateType _ code _ => if code = 20 then .notADirectory else .isDirectory
  | error => .other (toString error)

def attempt {α : Type} (action : IO α) : IO (Except FileFault α) := do
  match ← action.toBaseIO with
  | .ok value => return .ok value
  | .error error => return .error (faultOf error)

/-- A file that is there may still be unreadable. -/
def presentAfter {α : Type} : Except FileFault α → Bool
  | .error .notFound => false
  | .error .notADirectory => false
  | _ => true

def machineFiles : FileAccess IO where
  present path := do return presentAfter (← attempt (IO.FS.readFile path))
  read path := attempt (IO.FS.readFile path)
  write path text := attempt (IO.FS.writeFile path text)

end DocTemplate

open DocTemplate CommandLine

def main (arguments : List String) : IO UInt32 := do
  let directory := (← IO.currentDir).toString ++ "/"
  let outcome ← run machineFiles directory arguments
  IO.print outcome.transcript.stdout
  IO.eprint outcome.stderr
  return UInt32.ofNat outcome.exitCode
