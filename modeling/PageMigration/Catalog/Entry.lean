import PageMigration.Catalog.Output
import PageMigration.Run.Context

/-!
# Entries of the catalog

An entry describes one function: its name, what it is for, its parameters with their types, and
what it does with the values given for them.

## Main definitions

* `Parameter`, `Entry` : the description of a function.
* `Body` : what a function does.
-/

namespace PageMigration

/-- A parameter of a function. -/
structure Parameter where
  name : String
  type : ValueType
  description : String
  deriving DecidableEq, Repr

/-- What a function is for. -/
inductive EntryKind where
  /-- It makes the values of properties. -/
  | function
  /-- It picks a variant of the modern part. -/
  | selector
  deriving DecidableEq, Repr

/-- What a function does with its arguments in a run. -/
abbrev Body := Context → Arguments → Run (Except PolicyViolation Output)

namespace Body

/-- A function of its arguments alone. -/
def ofArguments (f : Arguments → Output) : Body :=
  fun _ args => return .ok (f args)

/-- A function of its arguments and of what the run is told. -/
def ofContext (f : Context → Arguments → Output) : Body :=
  fun ctx args => return .ok (f ctx args)

/-- A function that always succeeds. -/
def ofRun (f : Context → Arguments → Run Output) : Body :=
  fun ctx args => return .ok (← f ctx args)

end Body

/-- A function with its description. -/
structure Entry where
  name : String
  kind : EntryKind := .function
  description : String
  /-- A call that shows the use of the function. -/
  sample : String
  parameters : List Parameter := []
  /-- What the function yields, in words. -/
  returns : String
  body : Body

/-- The number of values that a function takes. -/
def Entry.arity (e : Entry) : Nat :=
  e.parameters.length

end PageMigration
