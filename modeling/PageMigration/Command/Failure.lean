import PageMigration.Catalog.Output
import PageMigration.Command.Disk

/-!
# Failures of tasks

A task fails if one of its files cannot be read, written or understood, if the mapping file does
not know the part, or if the part cannot be moved.  A failure is told from the outside in: what
could not be done, and then why.

## Main definitions

* `LoadError` : why the content of a file cannot be had.
* `Failure` : why a task failed.
* `Failure.text` : a failure in words.
-/

namespace PageMigration

/-- The forms in which files are written. -/
inductive FileForm where
  | configuration | mapping | json | csv
  deriving DecidableEq, Repr

/-- What a file of a form is called when it is not one. -/
def FileForm.complaint : FileForm → String
  | configuration => "invalid configuration"
  | mapping => "invalid mapping file"
  | json => "invalid JSON"
  | csv => "invalid CSV"

/-- What a file of a form has to hold. -/
def FileForm.expectation : FileForm → String
  | configuration => "expected a TOML document with settings"
  | mapping => "expected an XML document with definitions of web parts"
  | json => "expected a JSON object with the content of a site"
  | csv => "expected a table of logins"

/-- Why the content of a file cannot be had. -/
inductive LoadError where
  | unreadable (path : String) (error : DiskError)
  | invalid (form : FileForm)
  deriving DecidableEq, Repr

/-- An error in words, from the outside in. -/
def LoadError.reasons : LoadError → List String
  | unreadable path error =>
      ["failed to read '" ++ path ++ "': " ++ error.message, error.message]
  | invalid form => [form.complaint ++ ": " ++ form.expectation]

/-- A failure of a call in words, from the outside in. -/
def CallError.reasons : CallError → List String
  | .parse error => [(CallError.parse error).message, error.message]
  | .policy violation => [violation.message, violation.message]
  | error => [error.message]

/-- Why a task failed. -/
inductive Failure where
  /-- The configuration cannot be had, from a given path or from the usual one. -/
  | configuration (path : Option String) (error : LoadError)
  | mapping (path : String) (error : LoadError)
  | noMapping (webPart : String)
  | unreadableProperties (path : String) (error : DiskError)
  | invalidProperties (path : String)
  | source (path : String) (error : LoadError)
  | users (path : String) (error : LoadError)
  /-- The functions of the properties or the selector of a part failed. -/
  | part (webPart : String) (error : CallError)
  /-- The functions of the mapping that was selected failed. -/
  | variant (webPart : String) (error : CallError)
  | noExpression
  | expression (text : String) (error : ParseError)
  | unwritableManual (path : String) (error : DiskError)
  deriving DecidableEq, Repr

namespace Failure

/-- A failure in words, from the outside in. -/
def reasons : Failure → List String
  | configuration (some path) error => ("Failed to load config: " ++ path) :: error.reasons
  | configuration none error => "Failed to load config" :: error.reasons
  | mapping path error => ("Failed to load mapping file: " ++ path) :: error.reasons
  | noMapping webPart => ["No mapping for web part type '" ++ webPart ++ "'"]
  | unreadableProperties path error => ["Failed to read properties file: " ++ path, error.message]
  | invalidProperties path =>
      ["Properties file is not a JSON object of strings: " ++ path, FileForm.json.complaint]
  | source path error => ("Failed to load source snapshot: " ++ path) :: error.reasons
  | users path error => ("Failed to load user mapping: " ++ path) :: error.reasons
  | part webPart error => ("Web part '" ++ webPart ++ "' cannot be transformed") :: error.reasons
  | variant webPart error =>
      ("Mapping functions of web part '" ++ webPart ++ "' failed") :: error.reasons
  | noExpression => ["No function expression given"]
  | expression text error => ["Failed to parse '" ++ text ++ "'", error.message]
  | unwritableManual path error => ["Failed to write documentation to: " ++ path, error.message]

/-- A failure in words. -/
def text (failure : Failure) : String :=
  Text.join ": " failure.reasons

end Failure

end PageMigration
