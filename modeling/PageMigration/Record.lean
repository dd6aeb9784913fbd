/-!
# Records of written values

A record is read from named values: each of its fields is looked up under its name and read by a
reader for its type.  The values may be those of any format.

## Main definitions

* `Record.required?`, `Record.optional?` : one field of a record.
* `Record.readAll?` : a list of values, each of which can be read.
-/

namespace PageMigration.Record

variable {α β : Type}

/-- A list of names without repetitions. -/
def noRepeats : List String → Bool
  | [] => true
  | name :: rest => !rest.contains name && noRepeats rest

/-- A field that has to be there. -/
def required? (fields : List (String × β)) (name : String) (read : β → Option α) : Option α :=
  (fields.lookup name).bind read

/-- A field with a value to take where it is missing. -/
def optional? (fields : List (String × β)) (name : String) (read : β → Option α) (missing : α) :
    Option α :=
  match fields.lookup name with
  | some value => read value
  | none => some missing

/-- A list of values, each of which can be read. -/
def readAll? (read : β → Option α) : List β → Option (List α)
  | [] => some []
  | value :: rest => (read value).bind fun a => (readAll? read rest).map (a :: ·)

end PageMigration.Record
