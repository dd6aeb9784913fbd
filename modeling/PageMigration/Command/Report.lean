import PageMigration.Json.Printer
import PageMigration.Transform.Part

/-!
# Reports

What is known about the reading of an expression, and what came of moving a part, are told in
lines or, for a part, in JSON.

## Main definitions

* `Report.call` : how an expression was read.
* `MoveReport` : what came of moving a part.
* `MoveReport.text`, `MoveReport.json` : the report in lines and in JSON.
-/

namespace PageMigration

/-- A line of text. -/
def line (text : String) : String :=
  text ++ "\n"

namespace Report

/-- Where the function of a call comes from. -/
def originLine (call : FunctionCall) : String :=
  let known := [Library.general, Library.publishing].filter fun l => (l.find? call.name).isSome
  if ¬ call.addOn.isEmpty then line "  add-on functions are not dispatched"
  else if known.isEmpty then line "  not a built-in function"
  else line ("  library: " ++ Text.join ", " (known.map Library.name))

/-- One input of a call: a literal between quotes, or the name of a property between braces. -/
def inputLine (number : Nat) (input : CallInput) : String :=
  let value := if input.isLiteral then "'" ++ input.value ++ "'" else "\x7b" ++ input.name ++ "\x7d"
  line ("  input " ++ toString number ++ ": " ++ input.name ++ " " ++ value ++ " (" ++
    input.type.name ++ ")")

/-- How an expression was read. -/
def call (c : FunctionCall) : String :=
  line ("Function: " ++ c.qualifiedName) ++ originLine c ++ line ("  output: " ++ c.output) ++
    String.join (c.inputs.mapIdx inputLine)

end Report

/-- What came of moving a part. -/
structure MoveReport where
  /-- The value of the selector. -/
  selector : Option String
  /-- The name of the mapping that was selected. -/
  mapping : Option String
  properties : PropertyBag
  skipped : List Skipped
  deriving DecidableEq, Repr

namespace MoveReport

/-- A skipped expression in JSON. -/
def skippedJson (s : Skipped) : Json :=
  .object [("error", .string s.error.message), ("expression", .string s.expression),
    ("property", (s.property.map Json.string).getD .null)]

/-- The report in JSON. -/
def json (r : MoveReport) : Json :=
  .object [("mapping", (r.mapping.map Json.string).getD .null),
    ("properties", .object (r.properties.sorted.map fun (name, value) => (name, .string value))),
    ("selector", (r.selector.map Json.string).getD .null),
    ("skipped", .array (r.skipped.map skippedJson))]

/-- The report in lines. -/
def text (r : MoveReport) : String :=
  let selector := (r.selector.map fun value => line ("Selector: " ++ value)).getD ""
  let properties := r.properties.sorted.map fun (name, value) =>
    line ("  " ++ name ++ " = " ++ value)
  let skipped := r.skipped.map fun s => line ("  " ++ s.expression ++ " " ++ s.error.message)
  selector ++ line ("Mapping: " ++ r.mapping.getD "none") ++ line "Properties:" ++
    String.join properties ++
    (if skipped.isEmpty then "" else line "Skipped:" ++ String.join skipped)

end MoveReport

end PageMigration
