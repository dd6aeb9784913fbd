import PageMigration.Catalog.Manual
import PageMigration.Command.Failure
import PageMigration.Command.Report
import PageMigration.Command.Request
import PageMigration.Mapping.File
import PageMigration.Run.Configuration
import PageMigration.Site.Snapshot
import PageMigration.WebPart.Json

/-!
# The program

A task reads files from a disk, writes lines and leaves files behind.  What it has written stays
written when it fails later on.

## Main definitions

* `Program.document`, `Program.explain`, `Program.move` : the tasks.
* `Program.run` : what the program does for its arguments.
-/

namespace PageMigration

/-- What a task has written, the disk after it, and why it failed if it did. -/
structure TaskResult where
  output : String := ""
  disk : Disk
  failure : Option Failure := none
  deriving DecidableEq, Repr

/-- What can be seen of a run of the program. -/
structure ProgramResult where
  exitCode : Nat
  output : String := ""
  /-- What is written apart from the output. -/
  complaint : String := ""
  disk : Disk
  deriving DecidableEq, Repr

namespace Program

/-! ### Files -/

/-- What the text of a file stands for. -/
def load {α : Type} (disk : Disk) (path : String) (form : FileForm) (ofText? : String → Option α) :
    Except LoadError α :=
  match disk.readText path with
  | .error error => .error (.unreadable path error)
  | .ok text =>
      match ofText? text with
      | some value => .ok value
      | none => .error (.invalid form)

/-- The configuration in a file; a missing file holds nothing. -/
def loadConfiguration (disk : Disk) (path : String) : Except LoadError Configuration :=
  if disk.contains path then load disk path .configuration Configuration.ofText? else .ok {}

/-- The configuration in the file that is asked for, or else in the usual one. -/
def configuration (disk : Disk) (asked usual : Option String) : Except Failure Configuration :=
  match asked.or usual with
  | none => .ok {}
  | some path => (loadConfiguration disk path).mapError (.configuration asked)

/-- The mapping of users in a file. -/
def loadUsers (disk : Disk) (path : String) : Except LoadError UserMapping :=
  match disk.read path with
  | .error .isFolder => .error (.invalid .csv)
  | .error error => .error (.unreadable path error)
  | .ok table =>
      match UserMapping.ofTable? table with
      | some users => .ok users
      | none => .error (.invalid .csv)

/-- The properties in a file. -/
def loadProperties (disk : Disk) (path : String) : Except Failure PropertyBag :=
  match disk.readText path with
  | .error error => .error (.unreadableProperties path error)
  | .ok text =>
      match (Json.ofText? text).bind PropertyBag.ofJson? with
      | some properties => .ok properties
      | none => .error (.invalidProperties path)

/-! ### Documenting functions -/

/-- The descriptions of the functions of libraries, as a text or as JSON. -/
def manual (libraries : List Library) (json : Bool) : String :=
  if json then Manual.json libraries else Manual.chapters libraries

/-- The descriptions are written to a file, or else to the output. -/
def document (disk : Disk) (libraries : List Library) (json : Bool) (output : Option String) :
    TaskResult :=
  let text := manual libraries json
  match output with
  | none => { output := line text, disk }
  | some path =>
      match disk.write path (Utf8.encode text) with
      | .error error => { disk, failure := some (.unwritableManual path error) }
      | .ok disk =>
          let count := (libraries.flatMap Library.entries).length
          { output := line ("Documented " ++ toString count ++ " functions in " ++ path), disk }

/-! ### Explaining expressions -/

/-- What expressions are read against: a part that takes any name for a property. -/
def explanationScope (property : Option String) : Scope where
  property
  declared := []
  unit := { typeName := "Expression", kind := .clientSide }

/-- The readings of expressions, up to the first one that cannot be read. -/
def explainAll (scope : Scope) : List String → List String × Option Failure
  | [] => ([], none)
  | expression :: rest =>
      match parseCall scope expression with
      | .error error => ([], some (.expression (Text.trim expression) error))
      | .ok call =>
          let (readings, failure) := explainAll scope rest
          (Report.call call :: readings, failure)

/-- The readings of expressions, with empty lines between them.  An empty line also stands before
an expression that cannot be read. -/
def explain (disk : Disk) (expression : String) (property : Option String) : TaskResult :=
  match Expression.splitChain expression with
  | [] => { disk, failure := some .noExpression }
  | expressions =>
      let (readings, failure) := explainAll (explanationScope property) expressions
      let unread := if failure.isSome then [""] else []
      { output := Text.join "\n" (readings ++ unread), disk, failure }

/-! ### Moving a part -/

/-- What a task to move a part needs from its files. -/
structure Material where
  definition : WebPartDefinition
  properties : PropertyBag
  site : Snapshot
  users : UserMapping

/-- The material for a task. -/
def gather (disk : Disk) (t : MoveTask) : Except Failure Material := do
  let mapping ← (load disk t.mapping .mapping MappingFile.ofText?).mapError (.mapping t.mapping)
  let some definition := MappingFile.find? mapping t.webPart | .error (.noMapping t.webPart)
  let properties ← loadProperties disk t.properties
  let site ← (load disk t.source .json Snapshot.ofText?).mapError (.source t.source)
  let users ← match t.users with
    | none => .ok {}
    | some path => (loadUsers disk path).mapError (.users path)
  .ok { definition, properties, site, users }

/-- The path that copies of files are served from at a web. -/
def servedFrom (settings : Settings) (target : Web) : String :=
  target.serverRelativeUrl ++ "/" ++
    Text.trimStartOf '/' (Text.trimEndOf '/' settings.assetFolder)

/-- What a run is told.  Files are copied only if content moves to another web. -/
def context (settings : Settings) (t : MoveTask) (m : Material) : Context :=
  let base : Context := { source := m.site.source, users := m.users, settings }
  match t.targetWeb with
  | none => base
  | some url =>
      let target := Web.ofUrl url
      { base.withTarget target with
        servedFrom := t.assets.map fun _ => servedFrom settings target }

/-- The part with the functions of the mapping that its selector selects. -/
def runVariant (ctx : Context) (webPart : String) (part : Part) (outcome : Outcome) :
    Run (Except Failure MoveReport) := do
  let report (part : Part) (variant : Option MappingVariant) (more : List Skipped) : MoveReport :=
    { selector := outcome.selector, mapping := variant.map MappingVariant.name,
      properties := part.unit.properties, skipped := outcome.skipped ++ more }
  let variant := part.definition.selectVariant outcome.selector
  match variant.bind MappingVariant.functions with
  | none => return .ok (report part variant [])
  | some functions =>
      match ← part.processFunctions .general ctx functions with
      | (_, .error error) => return .error (.variant webPart error)
      | (part, .ok more) => return .ok (report part variant more.skipped)

/-- The functions of a part and of the mapping that its selector selects. -/
def runPart (ctx : Context) (webPart : String) (part : Part) : Run (Except Failure MoveReport) := do
  match ← part.process .general ctx with
  | (_, .error error) => return .error (.part webPart error)
  | (part, .ok outcome) => runVariant ctx webPart part outcome

/-- A part is moved, and the copies of its files are left in their folder. -/
def move (disk : Disk) (settings : Settings) (t : MoveTask) : TaskResult :=
  match gather disk t with
  | .error failure => { disk, failure := some failure }
  | .ok m =>
      let ctx := context settings t m
      let folder := (t.assets.map disk.assetFolder).getD {}
      let unit : ContentUnit :=
        { typeName := t.webPart, kind := t.kind, properties := m.properties }
      let (result, after) :=
        (runPart ctx t.webPart { definition := m.definition, unit }).run (ctx.start folder)
      let copies := after.folder.files.drop folder.files.length
      let disk := match t.assets with
        | none => disk
        | some path => disk.store path copies
      match result with
      | .error failure => { disk, failure := some failure }
      | .ok report => { output := if t.json then line report.json.pretty else report.text, disk }

/-! ### The program -/

/-- A task is performed under a configuration. -/
def perform (disk : Disk) (configuration : Configuration) : Task → TaskResult
  | .document libraries json output => document disk libraries json output
  | .explain expression property => explain disk expression property
  | .move task => move disk configuration.settings task

/-- What can be seen of a task. -/
def conclude (result : TaskResult) : ProgramResult :=
  match result.failure with
  | none => { exitCode := 0, output := result.output, disk := result.disk }
  | some failure =>
      { exitCode := 1, output := result.output, disk := result.disk,
        complaint := line ("Error: " ++ failure.text) }

/-- What the program does for its arguments, with the path of the usual configuration file. -/
def run (disk : Disk) (usualConfiguration : Option String) (arguments : List String) :
    ProgramResult :=
  match Request.ofArguments arguments with
  | .refused =>
      { exitCode := 2, disk,
        complaint := "error: these arguments cannot be understood\n\n" ++ Request.usage none }
  | .help command => { exitCode := 0, output := Request.usage command, disk }
  | .version command => { exitCode := 0, output := Request.versionText command, disk }
  | .perform asked task =>
      match configuration disk asked usualConfiguration with
      | .error failure => conclude { disk, failure := some failure }
      | .ok configuration => conclude (perform disk configuration task)

end Program

end PageMigration
