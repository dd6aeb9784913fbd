import PageMigration.Transform.Part

/-!
# Transformation of page fields

The fields of a publishing page are properties of one unit, and a chain of expressions may refer
to all of them.  What the functions yield is stored in the unit; the last single value is the new
value of the field that the chain belongs to.

## Main definitions

* `ContentUnit.processField` : the unit after the chain of a field, with that value.
-/

namespace PageMigration.ContentUnit

/-- Every property of a unit as a declared string. -/
def declaredProperties (unit : ContentUnit) : List PropertyDefinition :=
  unit.properties.sorted.map fun (name, _) => { name }

/-- The unit with the value of a property. -/
def store (unit : ContentUnit) (name value : String) : ContentUnit :=
  { unit with properties := unit.properties.set name value }

/-- The unit after a function has yielded something for a property, and the value if it is a
single one. -/
def merge (unit : ContentUnit) (name : String) (output : Output) :
    ContentUnit × Option (String × String) :=
  match output with
  | .map values => (values.foldl (fun u (name, value) => u.store name value) unit, none)
  | output =>
      match output.scalar? with
      | some value => (unit.store name value, some (name, value))
      | none => (unit, none)

variable (ctx : Context)

/-- The unit after expressions that belong to a field, and the last single value, which is `last`
unless there is a later one.  An expression that fails ends the chain. -/
def runFieldExpressions (field : String) (last : Option (String × String)) :
    List String → ContentUnit →
      Run (ContentUnit × Except CallError (Option (String × String)))
  | [], unit => return (unit, .ok last)
  | expression :: rest, unit => do
      let scope : Scope := { property := some field, declared := unit.declaredProperties, unit }
      match ← evaluate .publishing ctx scope expression with
      | .ok (call, output) =>
          let (unit, value) := unit.merge call.output output
          runFieldExpressions field (value.or last) rest unit
      | .error error => return (unit, if error.isChainLocal then .ok last else .error error)

section RunFieldExpressions

variable {ctx} {field expression : String} {last : Option (String × String)} {rest : List String}
  {unit : ContentUnit} {s t : RunState}

theorem runFieldExpressions_cons_of_ok {call : FunctionCall} {output : Output}
    (h : evaluate .publishing ctx
        { property := some field, declared := unit.declaredProperties, unit } expression s =
      (.ok (call, output), t)) :
    runFieldExpressions ctx field last (expression :: rest) unit s =
      runFieldExpressions ctx field ((unit.merge call.output output).2.or last) rest
        (unit.merge call.output output).1 t :=
  Run.bind_of_eq h

theorem runFieldExpressions_cons_of_error {error : CallError}
    (h : evaluate .publishing ctx
        { property := some field, declared := unit.declaredProperties, unit } expression s =
      (.error error, t)) :
    runFieldExpressions ctx field last (expression :: rest) unit s =
      ((unit, if error.isChainLocal then .ok last else .error error), t) :=
  Run.bind_of_eq h

end RunFieldExpressions

/-- The unit after the chain of a field, and the name and value of the last single value. -/
def processField (field functions : String) (unit : ContentUnit) :
    Run (ContentUnit × Except CallError (Option (String × String))) :=
  runFieldExpressions ctx field none (Expression.splitChain functions) unit

end PageMigration.ContentUnit
