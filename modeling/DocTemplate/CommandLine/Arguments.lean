import DocTemplate.Text.Scan

/-!
# Command line arguments

Options of the whole program may stand in front of the name of a command or behind it.  A value
follows its option as the next argument or behind an equals sign; after `--` everything is a plain
argument.
-/

namespace DocTemplate.CommandLine

/-! ## Commands -/

inductive Command where
  | render (document view : String) (output : Option String)
  | check (document format : String)
  | apply (document edits : String) (output batch : Option String)
  | new (tag : String)
  deriving DecidableEq, Repr

structure Invocation where
  settings : Option String
  verbose : Bool
  command : Command
  deriving DecidableEq, Repr

/-! ## Options -/

inductive OptionKey where
  | settings
  | verbose
  | output
  | format
  | batch
  deriving DecidableEq, Repr

structure OptionForm where
  key : OptionKey
  long : String
  short : Option Char

def settingsForm : OptionForm := ⟨.settings, "config", none⟩

def verboseForm : OptionForm := ⟨.verbose, "verbose", some 'v'⟩

def outputForm : OptionForm := ⟨.output, "output", some 'o'⟩

def formatForm : OptionForm := ⟨.format, "format", some 'f'⟩

def batchForm : OptionForm := ⟨.batch, "batch", none⟩

def OptionKey.takesValue : OptionKey → Bool
  | .verbose => false
  | _ => true

def OptionKey.namesFile : OptionKey → Bool
  | .settings | .output => true
  | _ => false

structure Arguments where
  options : List (OptionKey × String)
  plain : List String

def Arguments.none : Arguments := ⟨[], []⟩

def Arguments.addOption (arguments : Arguments) (key : OptionKey) (value : String) :
    Option Arguments :=
  if arguments.options.any (·.1 == key) || (key.namesFile && value.isEmpty) then .none
  else some { arguments with options := (key, value) :: arguments.options }

def Arguments.addPlain (arguments : Arguments) (value : String) : Arguments :=
  { arguments with plain := arguments.plain ++ [value] }

def Arguments.value? (arguments : Arguments) (key : OptionKey) : Option String :=
  arguments.options.lookup key

/-! ## Reading options -/

/-- Several flags may share one dash; the rest behind an option that takes a value is the value. -/
def readCluster (forms : List OptionForm) (arguments : Arguments) :
    List Char → Option (Arguments × Option OptionKey)
  | [] => some (arguments, none)
  | c :: rest => do
      let form ← forms.find? (·.short == some c)
      if form.key.takesValue then
        match rest with
        | [] => return (arguments, some form.key)
        | '=' :: value =>
            return (← arguments.addOption form.key (String.ofList value), none)
        | _ => return (← arguments.addOption form.key (String.ofList rest), none)
      else readCluster forms (← arguments.addOption form.key "") rest

def readLong (forms : List OptionForm) (arguments : Arguments) (name : List Char) :
    Option (Arguments × Option OptionKey) := do
  match Text.cutAt? ['='] name with
  | some (name, value) =>
      let form ← forms.find? (·.long == String.ofList name)
      if form.key.takesValue then
        return (← arguments.addOption form.key (String.ofList value), none)
      else failure
  | none =>
      let form ← forms.find? (·.long == String.ofList name)
      if form.key.takesValue then return (arguments, some form.key)
      else return (← arguments.addOption form.key "", none)

/-- The key that is left over waits for its value. -/
def readOption (forms : List OptionForm) (arguments : Arguments) (argument : String) :
    Option (Arguments × Option OptionKey) :=
  match argument.toList with
  | '-' :: '-' :: name => readLong forms arguments name
  | '-' :: cluster => readCluster forms arguments cluster
  | _ => none

def isOption (argument : String) : Bool :=
  match argument.toList with
  | '-' :: _ :: _ => true
  | _ => false

/-- Reads up to the first plain argument where `stops` is set, otherwise to the end. -/
def readArguments (forms : List OptionForm) (stops : Bool) (arguments : Arguments) :
    Option OptionKey → List String → Option (Arguments × List String)
  | some _, [] => none
  | none, [] => some (arguments, [])
  | some key, argument :: rest =>
      if isOption argument then none
      else
        match arguments.addOption key argument with
        | none => none
        | some arguments => readArguments forms stops arguments none rest
  | none, argument :: rest =>
      if argument = "--" then
        if stops then none
        else some ({ arguments with plain := arguments.plain ++ rest }, [])
      else if isOption argument then
        match readOption forms arguments argument with
        | none => none
        | some (arguments, waiting) => readArguments forms stops arguments waiting rest
      else if stops then some (arguments, argument :: rest)
      else readArguments forms stops (arguments.addPlain argument) none rest

/-! ## Reading commands -/

def sharedForms : List OptionForm := [settingsForm, verboseForm]

def formsOf (name : String) : Option (List OptionForm) :=
  match name with
  | "render" => some [outputForm]
  | "check" => some [formatForm]
  | "apply" => some [outputForm, batchForm]
  | "new" => some []
  | _ => none

def commandOf (name : String) (arguments : Arguments) : Option Command :=
  match name, arguments.plain with
  | "render", [document, view] =>
      if document.isEmpty || view.isEmpty then none
      else some (.render document view (arguments.value? .output))
  | "check", [document] =>
      if document.isEmpty then none
      else some (.check document ((arguments.value? .format).getD "text"))
  | "apply", [document, edits] =>
      if document.isEmpty || edits.isEmpty then none
      else some (.apply document edits (arguments.value? .output) (arguments.value? .batch))
  | "new", [tag] => some (.new tag)
  | _, _ => none

/-- None for arguments that call no command. -/
def Invocation.ofArguments? (arguments : List String) : Option Invocation := do
  let (outer, rest) ← readArguments sharedForms true .none none arguments
  match rest with
  | [] => none
  | name :: rest =>
      let forms ← formsOf name
      let (inner, _) ← readArguments (sharedForms ++ forms) false .none none rest
      let command ← commandOf name inner
      return {
        settings := (inner.value? .settings).or (outer.value? .settings)
        verbose := (inner.value? .verbose).isSome || (outer.value? .verbose).isSome
        command }

end DocTemplate.CommandLine
