import PageMigration.Text

/-!
# Arguments of commands

The arguments of a command are switches and operands.  A switch begins with two hyphens and its
name, or with one hyphen and its letter; letters may be put together.  The value of a switch is the
next argument, or is attached to it, after a name with an equals sign and after a letter with or
without one.  Two hyphens alone say that only operands follow.

## Main definitions

* `Switch` : a switch, and what it takes.
* `Grammar` : the switches, subcommands and operands of a command.
* `Grammar.read` : the arguments of a command, as far as its subcommand.
-/

namespace PageMigration

/-- The value that a switch takes. -/
inductive SwitchValue where
  | nothing
  | text
  /-- The path of a file, which is not empty. -/
  | path
  /-- One of several words. -/
  | word (words : List String)
  deriving DecidableEq, Repr

/-- Whether a text is a value of a kind. -/
def SwitchValue.admits : SwitchValue → String → Bool
  | nothing, _ => false
  | text, _ => true
  | path, s => !s.isEmpty
  | word words, s => words.contains s

/-- A switch of a command. -/
structure Switch where
  name : String
  letter : Option Char
  value : SwitchValue := .nothing
  /-- The switch may be given more than once. -/
  repeats : Bool := false
  /-- The switch has to be given. -/
  required : Bool := false
  deriving DecidableEq, Repr

/-- What a command understands. -/
structure Grammar where
  switches : List Switch
  subcommands : List String := []
  /-- The number of operands. -/
  operands : Nat := 0
  deriving DecidableEq, Repr

/-- What has been given to a command: values by the names of switches, the latest first, and
operands in order. -/
structure Given where
  values : List (String × String) := []
  operands : List String := []
  deriving DecidableEq, Repr

namespace Given

/-- Whether a switch is given. -/
def has (g : Given) (name : String) : Bool :=
  (g.values.lookup name).isSome

/-- The value of a switch. -/
def value? (g : Given) (name : String) : Option String :=
  g.values.lookup name

end Given

/-- What the arguments of a command come to. -/
inductive Reading where
  /-- They cannot be understood. -/
  | refused
  /-- They ask how the command is used. -/
  | help
  /-- They ask for the version. -/
  | version
  | understood (given : Given)
  /-- They end with a subcommand and its arguments. -/
  | subcommand (given : Given) (name : String) (arguments : List String)
  deriving DecidableEq, Repr

namespace Grammar

/-- The switch that asks how a command is used. -/
def helpSwitch : Switch := { name := "help", letter := some 'h' }

/-- The switch that asks for the version. -/
def versionSwitch : Switch := { name := "version", letter := some 'V' }

/-- The switches of a command with the two that every command has. -/
def allSwitches (g : Grammar) : List Switch :=
  g.switches ++ [helpSwitch, versionSwitch]

/-- The switch of a name. -/
def named? (g : Grammar) (name : String) : Option Switch :=
  g.allSwitches.find? fun s => s.name == name

/-- The switch of a letter. -/
def lettered? (g : Grammar) (letter : Char) : Option Switch :=
  g.allSwitches.find? fun s => s.letter == some letter

/-- What comes of one more switch. -/
inductive Step where
  | stop (reading : Reading)
  | proceed (given : Given)

/-- What comes of a switch without a value. -/
def flag (given : Given) (s : Switch) : Step :=
  if s = helpSwitch then .stop .help
  else if s = versionSwitch then .stop .version
  else if given.has s.name ∧ ¬ s.repeats then .stop .refused
  else .proceed { given with values := (s.name, "") :: given.values }

/-- What comes of a switch with a value. -/
def valued (given : Given) (s : Switch) (value : String) : Step :=
  if given.has s.name ∧ ¬ s.repeats ∨ ¬ s.value.admits value then .stop .refused
  else .proceed { given with values := (s.name, value) :: given.values }

/-- Whether an argument begins like a switch. -/
def isSwitch (argument : String) : Bool :=
  match argument.toList with
  | '-' :: _ :: _ => true
  | _ => false

/-- A value that is attached to a letter. -/
def attachedValue (s : List Char) : String :=
  match s with
  | '=' :: value => String.ofList value
  | value => String.ofList value

/-- What comes of letters after one hyphen: a step, or a switch that takes the next argument. -/
def letters (g : Grammar) : Given → List Char → Step × Option Switch
  | given, [] => (.proceed given, none)
  | given, letter :: more =>
      match g.lettered? letter with
      | none => (.stop .refused, none)
      | some s =>
          if s.value = .nothing then
            match flag given s with
            | .stop reading => (.stop reading, none)
            | .proceed given => g.letters given more
          else if more.isEmpty then (.proceed given, some s)
          else (valued given s (attachedValue more), none)

/-- What comes of an argument that begins with hyphens: a step, or a switch that takes the next
argument. -/
def switchStep (g : Grammar) (given : Given) (argument : String) : Step × Option Switch :=
  match argument.toList with
  | '-' :: '-' :: text =>
      let (name, attached) := match Chars.cut? '=' text with
        | some (name, value) => (name, some (String.ofList value))
        | none => (text, none)
      match g.named? (String.ofList name), attached with
      | none, _ => (.stop .refused, none)
      | some s, none =>
          if s.value = .nothing then (flag given s, none) else (.proceed given, some s)
      | some s, some value =>
          if s.value = .nothing then (.stop .refused, none) else (valued given s value, none)
  | '-' :: text => g.letters given text
  | _ => (.stop .refused, none)

/-- Whether all required switches and all operands are given. -/
def isComplete (g : Grammar) (given : Given) : Bool :=
  (g.switches.all fun s => !s.required || given.has s.name) &&
    given.operands.length == g.operands

/-- What arguments come to, after what has been given before.  The flag says that only operands
follow. -/
def readFrom (g : Grammar) : Bool → Given → List String → Reading
  | _, given, [] =>
      if g.isComplete given ∧ g.subcommands.isEmpty then .understood given else .refused
  | operandsOnly, given, argument :: more =>
      if ¬ operandsOnly ∧ g.subcommands.contains argument then .subcommand given argument more
      else if ¬ operandsOnly ∧ argument = "--" then g.readFrom true given more
      else if ¬ operandsOnly ∧ isSwitch argument then
        match g.switchStep given argument, more with
        | (.stop reading, _), _ => reading
        | (.proceed given, none), more => g.readFrom false given more
        | (.proceed _, some _), [] => .refused
        | (.proceed given, some s), value :: more =>
            if isSwitch value then .refused
            else
              match valued given s value with
              | .stop reading => reading
              | .proceed given => g.readFrom false given more
      else if given.operands.length < g.operands then
        g.readFrom operandsOnly { given with operands := given.operands ++ [argument] } more
      else .refused

/-- What the arguments of a command come to. -/
def read (g : Grammar) (arguments : List String) : Reading :=
  g.readFrom false {} arguments

end Grammar

end PageMigration
