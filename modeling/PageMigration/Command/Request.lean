import PageMigration.Catalog.Library
import PageMigration.Command.Arguments

/-!
# Requests

The program documents the functions, shows how an expression is read, or moves one part that a
mapping file describes.  Its arguments say which of these it is asked for, and how.

## Main definitions

* `Task` : what the program can be asked to do.
* `Request` : what the arguments of the program ask for.
* `Request.ofArguments` : the request that arguments make.
* `Request.paths` : the files and folders that a request deals with.
* `Request.usage`, `Request.versionText` : what the program tells about itself.
-/

namespace PageMigration

/-- What is needed to move one part, with the paths of the files that tell about it. -/
structure MoveTask where
  mapping : String
  webPart : String
  kind : WebPartKind := .classic
  properties : String
  source : String
  /-- The address of the web that content moves to. -/
  targetWeb : Option String := none
  /-- The folder that copies of files go to. -/
  assets : Option String := none
  users : Option String := none
  /-- The result is written as JSON. -/
  json : Bool := false
  deriving DecidableEq, Repr

/-- What the program can be asked to do. -/
inductive Task where
  /-- Document the functions of libraries, in a file or on the screen. -/
  | document (libraries : List Library) (json : Bool) (output : Option String)
  /-- Show how expressions are read. -/
  | explain (expression : String) (property : Option String)
  | move (task : MoveTask)
  deriving DecidableEq, Repr

/-- What the arguments of the program ask for. -/
inductive Request where
  /-- They cannot be understood. -/
  | refused
  /-- How the program or one of its commands is used. -/
  | help (command : Option String)
  /-- The version of the program, under its name or that of one of its commands. -/
  | version (command : Option String)
  /-- A task, with the path of the configuration file if one is given. -/
  | perform (configuration : Option String) (task : Task)
  deriving DecidableEq, Repr

namespace Request

/-! ### Grammars -/

/-- The switches that may be given anywhere. -/
def commonSwitches : List Switch :=
  [{ name := "config", letter := some 'c', value := .path },
   { name := "verbose", letter := some 'v', repeats := true },
   { name := "no-color", letter := none }]

/-- The arguments of the program. -/
def programGrammar : Grammar where
  switches := commonSwitches
  subcommands := ["docs", "parse", "run", "help"]

/-- The arguments of the command that documents functions. -/
def docsGrammar : Grammar where
  switches :=
    [{ name := "library", letter := some 'l', value := .word ["general", "publishing", "all"] },
     { name := "format", letter := some 'f', value := .word ["markdown", "json"] },
     { name := "output", letter := some 'o', value := .path }] ++ commonSwitches

/-- The arguments of the command that shows how expressions are read. -/
def parseGrammar : Grammar where
  switches := { name := "property", letter := some 'p', value := .text } :: commonSwitches
  operands := 1

/-- The arguments of the command that moves a part. -/
def runGrammar : Grammar where
  switches :=
    [{ name := "mapping", letter := some 'm', value := .path, required := true },
     { name := "web-part", letter := some 'w', value := .text, required := true },
     { name := "kind", letter := some 'k', value := .word ["classic", "client-side", "add-in"] },
     { name := "properties", letter := some 'p', value := .path, required := true },
     { name := "source", letter := some 's', value := .path, required := true },
     { name := "target-web", letter := some 't', value := .text },
     { name := "assets", letter := some 'a', value := .path },
     { name := "users", letter := some 'u', value := .path },
     { name := "json", letter := none }] ++ commonSwitches

/-- The arguments of a command. -/
def grammar (command : Option String) : Grammar :=
  match command with
  | some "docs" => docsGrammar
  | some "parse" => parseGrammar
  | some "run" => runGrammar
  | _ => programGrammar

/-! ### Tasks -/

/-- The libraries that a word stands for. -/
def librariesOf : Option String → List Library
  | some "general" => [.general]
  | some "publishing" => [.publishing]
  | _ => [.general, .publishing]

/-- The kind of part that a word stands for. -/
def kindOf : Option String → WebPartKind
  | some "client-side" => .clientSide
  | some "add-in" => .addIn
  | _ => .classic

/-- The task that the arguments of a command make. -/
def taskOf? (command : String) (given : Given) : Option Task :=
  match command with
  | "docs" =>
      some (.document (librariesOf (given.value? "library")) (given.value? "format" == some "json")
        (given.value? "output"))
  | "parse" => given.operands.head?.map fun expression =>
      .explain expression (given.value? "property")
  | "run" => do
      some (.move {
        mapping := ← given.value? "mapping"
        webPart := ← given.value? "web-part"
        kind := kindOf (given.value? "kind")
        properties := ← given.value? "properties"
        source := ← given.value? "source"
        targetWeb := given.value? "target-web"
        assets := given.value? "assets"
        users := given.value? "users"
        json := given.has "json" })
  | _ => none

/-! ### Requests -/

/-- The request for help with the names of commands after it. -/
def helpRequest : List String → Request
  | [] => .help none
  | [command] =>
      if command = "help" then .help none
      else if programGrammar.subcommands.contains command then .help (some command)
      else .refused
  | _ => .refused

/-- The request that arguments make.  A configuration file given after the command goes before one
given in front of it. -/
def ofArguments (arguments : List String) : Request :=
  match programGrammar.read arguments with
  | .refused => .refused
  | .help => .help none
  | .version => .version none
  | .understood _ => .refused
  | .subcommand before command arguments =>
      if command = "help" then helpRequest arguments
      else
        match (grammar (some command)).read arguments with
        | .refused => .refused
        | .help => .help (some command)
        | .version => .version (some command)
        | .subcommand .. => .refused
        | .understood given =>
            match taskOf? command given with
            | some task => .perform ((given.value? "config").or (before.value? "config")) task
            | none => .refused

/-- The paths of the files and folders that a task deals with. -/
def taskPaths : Task → List String
  | .document _ _ output => output.toList
  | .explain .. => []
  | .move t =>
      [t.mapping, t.properties, t.source] ++ t.users.toList ++ t.assets.toList

/-- The paths of the files and folders that a request deals with, given the path of the usual
configuration file. -/
def paths (usualConfiguration : Option String) : Request → List String
  | .perform configuration task =>
      (configuration.or usualConfiguration).toList ++ taskPaths task
  | _ => []

/-! ### What the program tells about itself -/

/-- The name of the program. -/
def programName : String := "modernize"

/-- The version of the program. -/
def programVersion : String := "0.4.0"

/-- The version, under the name of the program or of a command. -/
def versionText (command : Option String) : String :=
  let name := match command with
    | some command => programName ++ "-" ++ command
    | none => programName
  name ++ " " ++ programVersion ++ "\n"

/-- A switch with its value, as it is given. -/
def switchText (s : Switch) : String :=
  let names := match s.letter with
    | some letter => "-" ++ String.ofList [letter] ++ ", --" ++ s.name
    | none => "    --" ++ s.name
  match s.value with
  | .nothing => names
  | .text => names ++ " <TEXT>"
  | .path => names ++ " <PATH>"
  | .word words => names ++ " <" ++ Text.join "|" words ++ ">"

/-- How the program or one of its commands is used. -/
def usage (command : Option String) : String :=
  let g := grammar command
  let operands := if g.subcommands.isEmpty then
      String.join (List.replicate g.operands " <EXPRESSION>")
    else " <" ++ Text.join "|" g.subcommands ++ ">"
  let name := match command with
    | some command => programName ++ " " ++ command
    | none => programName
  "Usage: " ++ name ++ " [OPTIONS]" ++ operands ++ "\n\nOptions:\n" ++
    String.join (g.allSwitches.map fun s => "  " ++ switchText s ++ "\n")

end Request

end PageMigration
