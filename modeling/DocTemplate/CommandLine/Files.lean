import DocTemplate.Text.Scan

/-!
# Files

The files a command works on, as operations that may fail, and a workspace in memory that offers
them: files by their paths, and the directories that these paths imply.
-/

namespace DocTemplate.CommandLine

open DocTemplate.Text

inductive FileFault where
  | notFound
  | isDirectory
  | notADirectory
  | other (description : String)
  deriving DecidableEq, Repr

def FileFault.message : FileFault → String
  | .notFound => "No such file or directory (os error 2)"
  | .isDirectory => "Is a directory (os error 21)"
  | .notADirectory => "Not a directory (os error 20)"
  | .other description => description

structure FileAccess (m : Type → Type) where
  present : String → m Bool
  read : String → m (Except FileFault String)
  write : String → String → m (Except FileFault Unit)

/-! ## A workspace in memory -/

/-- The parts of a path in front of which slashes stand; a dot names the directory itself. -/
abbrev PathParts := List String

structure Workspace where
  files : List (PathParts × String)

namespace Workspace

def partsOf (path : String) : PathParts :=
  ((splitAt '/' path.toList).filter fun part => !part.isEmpty && part != ['.']).map String.ofList

def empty : Workspace := ⟨[]⟩

def put (workspace : Workspace) (parts : PathParts) (text : String) : Workspace :=
  ⟨workspace.files.filter (·.1 != parts) ++ [(parts, text)]⟩

def ofList (files : List (String × String)) : Workspace :=
  files.foldl (fun workspace (path, text) => workspace.put (partsOf path) text) empty

def isFile (workspace : Workspace) (parts : PathParts) : Bool :=
  workspace.files.any (·.1 == parts)

def isDirectory (workspace : Workspace) (parts : PathParts) : Bool :=
  parts.isEmpty || workspace.files.any fun (other, _) => parts != other && parts.isPrefixOf other

def passesFile (workspace : Workspace) (parts : PathParts) : Bool :=
  workspace.files.any fun (other, _) => parts != other && other.isPrefixOf parts

def read (workspace : Workspace) (path : String) : Except FileFault String :=
  let parts := partsOf path
  match workspace.files.lookup parts with
  | some text => .ok text
  | none =>
      if workspace.isDirectory parts then .error .isDirectory
      else if workspace.passesFile parts then .error .notADirectory
      else .error .notFound

def write (workspace : Workspace) (path text : String) : Except FileFault Unit × Workspace :=
  let parts := partsOf path
  if workspace.isDirectory parts then (.error .isDirectory, workspace)
  else if workspace.passesFile parts then (.error .notADirectory, workspace)
  else if workspace.isDirectory parts.dropLast then (.ok (), workspace.put parts text)
  else (.error .notFound, workspace)

def present (workspace : Workspace) (path : String) : Bool :=
  workspace.isFile (partsOf path) || workspace.isDirectory (partsOf path)

def access : FileAccess (StateM Workspace) where
  present path := do return (← get).present path
  read path := do return (← get).read path
  write path text := modifyGet fun workspace => workspace.write path text

end Workspace

end DocTemplate.CommandLine
