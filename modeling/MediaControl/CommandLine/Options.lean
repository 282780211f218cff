import MediaControl.Table

/-!
# Command lines: options

The arguments of a command are options, words and perhaps the name of a command of its own, which
takes all that follows.  An option is written `--name`, and perhaps `-n`; its value is the next
argument, or joined to it.  Behind `--` everything is a word.

A value is looked at only when something else comes, so that an argument which nobody knows is
complained of first.
-/

set_option autoImplicit false

namespace MediaControl.CommandLine

/-- Why arguments make no command. -/
inductive Fault where
  /-- there is nothing at all -/
  | nothingGiven
  /-- the name of a command is missing -/
  | commandMissing
  /-- a word stands where the name of a command belongs -/
  | unknownCommand
  /-- an argument has no place -/
  | unknownArgument
  | requiredMissing
  /-- an option's value is missing, or empty where it must not be -/
  | valueMissing
  /-- a value is not of the sort that is wanted -/
  | illegalValue
  /-- an option that takes no value has one -/
  | surplusValue
  /-- an option that may stand once stands twice -/
  | repeated
  | helpWanted
  | versionWanted
  deriving DecidableEq, Repr, Inhabited

/-- What an option does. -/
inductive OptionKind where
  /-- it takes no value -/
  | plain
  /-- it takes a value, of which may be complained -/
  | valued (complaint? : String → Option Fault)
  /-- it takes a value, and may stand more than once -/
  | listed
  /-- it ends the reading -/
  | ending (outcome : Fault)

/-- An option of a command. -/
structure OptionForm where
  name : String
  short? : Option Char := none
  kind : OptionKind

/-- What a command takes. -/
structure Form where
  options : List OptionForm
  /-- how many words it takes -/
  words : Nat := 0
  /-- the names of its own commands -/
  commands : List String := []

/-- What has been read of a command's arguments. -/
structure Given where
  /-- the options and their values, in order; one that takes none has an empty value -/
  options : List (String × String) := []
  words : List String := []
  /-- an option whose value has come, or has yet to come -/
  pending? : Option (OptionForm × Option String) := none

namespace Given

/-- The option stands among the arguments. -/
def has (g : Given) (name : String) : Bool := g.options.any fun row => row.1 == name

/-- The value of the option. -/
def value? (g : Given) (name : String) : Option String := g.options.lookup name

/-- The values of the option, in order. -/
def values (g : Given) (name : String) : List String :=
  (g.options.filter fun row => row.1 == name).map Prod.snd

/-- The option stands among the arguments, with the value. -/
def enter (g : Given) (name value : String) : Given :=
  { g with options := g.options ++ [(name, value)] }

/-- Looks at the value of an option. -/
def accept (g : Given) (o : OptionForm) (value : String) : Except Fault Given :=
  match o.kind with
  | .listed => .ok (g.enter o.name value)
  | .valued complaint? =>
    if g.has o.name then .error .repeated
    else
      match complaint? value with
      | some fault => .error fault
      | none => .ok (g.enter o.name value)
  | .plain | .ending _ => .error .surplusValue

/-- Looks at the option whose value has come, or should have come by now. -/
def settle (g : Given) : Except Fault Given :=
  match g.pending? with
  | none => .ok g
  | some (_, none) => .error .valueMissing
  | some (o, some value) => { g with pending? := none }.accept o value

/-- An option without a value joined to it. -/
def option (g : Given) (o : OptionForm) : Except Fault Given := do
  let g ← g.settle
  match o.kind with
  | .plain => if g.has o.name then .error .repeated else .ok (g.enter o.name "")
  | .ending outcome => .error outcome
  | .valued _ | .listed => .ok { g with pending? := some (o, none) }

/-- An option with a value joined to it. -/
def joined (g : Given) (o : OptionForm) (value : String) : Except Fault Given := do
  match o.kind with
  | .plain | .ending _ => .error .surplusValue
  | .valued _ | .listed => (← g.settle).accept o value

/-- The value of the next option has yet to come. -/
def awaitsValue (g : Given) : Bool :=
  match g.pending? with
  | some (_, none) => true
  | _ => false

/-- The value that was awaited comes. -/
def supply (g : Given) (value : String) : Given :=
  { g with pending? := g.pending?.map fun (o, _) => (o, some value) }

end Given

namespace Form

/-- Reads an argument behind two dashes. -/
def readLong (f : Form) (g : Given) (argument : List Char) : Except Fault Given :=
  let name := argument.takeWhile (· ≠ '=')
  match f.options.find? fun o => o.name.toList == name, argument.dropWhile (· ≠ '=') with
  | none, _ => .error .unknownArgument
  | some o, [] => g.option o
  | some o, _ :: value => g.joined o (.ofList value)

/-- Reads an argument behind a single dash: options without a value, and perhaps one with a value
behind it. -/
def readShort (f : Form) (g : Given) : List Char → Except Fault Given
  | [] => .ok g
  | c :: rest => do
    match f.options.find? fun o => o.short? == some c with
    | none => .error .unknownArgument
    | some o =>
      match o.kind, rest with
      | .plain, _ | .ending _, _ => readShort f (← g.option o) rest
      | _, [] => g.option o
      | _, '=' :: value => g.joined o (.ofList value)
      | _, value => g.joined o (.ofList value)

/-- Reads a word, for which there has to be a place. -/
def readWord (f : Form) (areWords : Bool) (g : Given) (argument : String) : Except Fault Given :=
  if g.words.length < f.words then do
    let g ← g.settle
    return { g with words := g.words ++ [argument] }
  else if f.commands.isEmpty || areWords && f.commands.contains argument then
    .error .unknownArgument
  else .error .unknownCommand

/-- Reads arguments up to the name of a command, if there is one, which comes with the arguments
behind it.  `areWords` says that everything is a word. -/
def read (f : Form) (areWords : Bool) (g : Given) :
    List String → Except Fault (Given × Option (String × List String))
  | [] => .ok (g, none)
  | argument :: rest =>
    if areWords then do read f true (← f.readWord true g argument) rest
    else if !g.awaitsValue && f.commands.contains argument then .ok (g, some (argument, rest))
    else
      match argument.toList with
      | ['-', '-'] => read f true g rest
      | '-' :: '-' :: long => do read f false (← f.readLong g long) rest
      | '-' :: c :: short => do read f false (← f.readShort g (c :: short)) rest
      | _ =>
        if g.awaitsValue then read f false (g.supply argument) rest
        else do read f false (← f.readWord false g argument) rest

end Form

end MediaControl.CommandLine
