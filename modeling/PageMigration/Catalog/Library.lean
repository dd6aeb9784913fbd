import PageMigration.Catalog.Lookups
import PageMigration.Catalog.PageFields
import PageMigration.Catalog.Parts
import PageMigration.Catalog.Values

/-!
# Function libraries

There is one library for the parts of pages in general and one for the fields of publishing
pages.  A call is carried out by the function of its name.  Names that no function has, and names
qualified by an add-on, stand for calls that yield nothing.

## Main definitions

* `Library`, `Library.entries` : the libraries and their functions.
* `Library.find?` : the function of a name.
* `Library.invoke` : what a call yields in a run.
* `Library.listing` : the functions in the order in which they are listed.
-/

namespace PageMigration

/-- A library of functions. -/
inductive Library where
  | general | publishing
  deriving DecidableEq, Repr

namespace Library

/-- The name of a library. -/
def name : Library → String
  | general => "general"
  | publishing => "publishing"

/-- The functions of a library. -/
def entries : Library → List Entry
  | general =>
      Catalog.constants ++ Catalog.valueEntries ++ Catalog.lookupEntries ++
        Catalog.partEntries ++ Catalog.selectorEntries
  | publishing => Catalog.constants ++ Catalog.fieldEntries

/-- The function of a name, in its exact spelling. -/
def find? (library : Library) (name : String) : Option Entry :=
  library.entries.find? fun e => e.name == name

/-- The functions before the selectors, each in the order of their names. -/
def listing (library : Library) : List Entry :=
  let byName (entries : List Entry) : List Entry :=
    entries.mergeSort fun a b => decide (a.name ≤ b.name)
  byName (library.entries.filter fun e => e.kind = .function) ++
    byName (library.entries.filter fun e => e.kind = .selector)

/-- The values that the inputs of a call stand for. -/
def arguments (call : FunctionCall) : Arguments :=
  call.inputs.map fun i => i.type.coerce i.value

/-- What a function yields for a call.  A function without parameters passes over the inputs. -/
def apply (ctx : Context) (e : Entry) (call : FunctionCall) : Run (Except CallError Output) := do
  if e.arity ≠ 0 ∧ call.inputs.length ≠ e.arity then
    return .error (.argumentCount call.name e.arity call.inputs.length)
  match ← e.body ctx (if e.arity = 0 then [] else arguments call) with
  | .ok output => return .ok output
  | .error violation => return .error (.policy violation)

/-- What a call yields in a run. -/
def invoke (library : Library) (ctx : Context) (call : FunctionCall) :
    Run (Except CallError Output) :=
  if call.addOn.isEmpty then
    match library.find? call.name with
    | some e => apply ctx e call
    | none => return .ok .nothing
  else return .ok .nothing

end Library

end PageMigration
