import PageMigration.Number.Double

/-!
# JSON values

## Main definitions

* `Json` : a value, with the fields of objects in the order in which they were written.
* `Json.normal` : the value with one field of each name, the last one, in the order of names.
-/

namespace PageMigration

/-- A JSON value. -/
inductive Json where
  | null
  | bool (value : Bool)
  | int (value : Int)
  | double (value : Double)
  | string (value : String)
  | array (elements : List Json)
  | object (fields : List (String × Json))
  deriving Repr

namespace Json

instance : Inhabited Json := ⟨.null⟩

/-- Fields with a field put in at the place of its name, in place of an earlier one of that
name. -/
def insertField (name : String) (value : Json) : List (String × Json) → List (String × Json)
  | [] => [(name, value)]
  | (n, v) :: rest =>
      if name < n then (name, value) :: (n, v) :: rest
      else if name = n then (name, value) :: rest
      else (n, v) :: insertField name value rest

mutual

/-- The value with one field of each name in every object, the last one, in the order of
names. -/
def normal : Json → Json
  | .array elements => .array (normalElements elements)
  | .object fields => .object (normalFields [] fields)
  | value => value

/-- The elements of an array, each in normal form. -/
def normalElements : List Json → List Json
  | [] => []
  | value :: rest => normal value :: normalElements rest

/-- The fields of an object put in order after the ones put in order before. -/
def normalFields (done : List (String × Json)) : List (String × Json) → List (String × Json)
  | [] => done
  | (name, value) :: rest => normalFields (insertField name (normal value) done) rest

end

/-- The value of a field of an object. -/
def field? (name : String) : Json → Option Json
  | .object fields => fields.lookup name
  | _ => none

/-- An object whose fields are in the order of their names. -/
def ofFields (fields : List (String × Json)) : Json :=
  .object (fields.foldl (fun done (name, value) => insertField name value done) [])

/-- The text of a string. -/
def string? : Json → Option String
  | .string s => some s
  | _ => none

/-- The elements of an array. -/
def array? : Json → Option (List Json)
  | .array elements => some elements
  | _ => none

/-- A truth value. -/
def bool? : Json → Option Bool
  | .bool b => some b
  | _ => none

/-- An integer. -/
def int? : Json → Option Int
  | .int n => some n
  | _ => none

end Json

end PageMigration
