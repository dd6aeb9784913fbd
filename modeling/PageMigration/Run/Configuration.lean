import PageMigration.Run.Settings
import PageMigration.Toml.Document

/-!
# Configurations

A configuration file holds the settings of transformations and says which messages are logged.
All of it may be missing, and what has another name is passed over.

## Main definitions

* `LogLevel` : how much is logged.
* `Configuration` : the content of a configuration file.
* `Configuration.ofText?` : a configuration read from a TOML document.
-/

namespace PageMigration

/-- How much is logged. -/
inductive LogLevel where
  | error | warn | info | debug | trace
  deriving DecidableEq, Repr

/-- The name of a level. -/
def LogLevel.name : LogLevel → String
  | error => "error"
  | warn => "warn"
  | info => "info"
  | debug => "debug"
  | trace => "trace"

/-- The level that a name stands for. -/
def LogLevel.ofName? : String → Option LogLevel
  | "error" => some .error
  | "warn" => some .warn
  | "info" => some .info
  | "debug" => some .debug
  | "trace" => some .trace
  | _ => none

/-- The content of a configuration file. -/
structure Configuration where
  settings : Settings := {}
  level : LogLevel := .warn
  deriving DecidableEq, Repr

namespace Configuration

/-- Settings in TOML. -/
def settings? (value : Toml) : Option Settings :=
  (Toml.record? Settings.fieldNames value).bind
    (Settings.ofFields? Toml.bool? Toml.string? (Toml.list? Toml.string?))

/-- The level of logging in TOML. -/
def level? (value : Toml) : Option LogLevel :=
  (Toml.record? ["level"] value).bind fun fields =>
    Record.optional? fields "level" (Toml.choice? LogLevel.ofName?) .warn

/-- A configuration in the text of a TOML document. -/
def ofText? (text : String) : Option Configuration := do
  let fields ← Toml.record? ["transform", "logging"] (← Toml.ofText? text)
  let settings ← Record.optional? fields "transform" settings? {}
  let level ← Record.optional? fields "logging" level? .warn
  some { settings, level }

end Configuration

end PageMigration
