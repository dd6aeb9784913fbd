import PageMigration.Json.Basic
import PageMigration.Record
import PageMigration.Value.Guid

/-!
# Records in JSON

A record with known fields is read from an object, in which fields of other names are passed over
and a known field may stand only once, or from an array of the field values in their order.

## Main definitions

* `Json.record?` : the known fields of a record.
* `Json.list?`, `Json.int32?`, `Json.guid?`, `Json.choice?` : readers for the types of fields.
-/

namespace PageMigration.Json

/-- The known fields of a record, given the names of its fields in order. -/
def record? (names : List String) : Json → Option (List (String × Json))
  | .object fields =>
      let known := fields.filter fun f => names.contains f.1
      if Record.noRepeats (known.map Prod.fst) then some known else none
  | .array elements => if elements.length ≤ names.length then some (names.zip elements) else none
  | _ => none

/-- A value or null. -/
def nullable? {α : Type} (read : Json → Option α) : Json → Option (Option α)
  | .null => some none
  | value => (read value).map some

/-- An array, each element of which can be read. -/
def list? {α : Type} (read : Json → Option α) : Json → Option (List α)
  | .array elements => Record.readAll? read elements
  | _ => none

/-- An integer of thirty-two bits. -/
def int32? : Json → Option Int
  | .int n => if -2147483648 ≤ n ∧ n ≤ 2147483647 then some n else none
  | _ => none

/-- An identifier in one of its written forms. -/
def guid? (value : Json) : Option Guid :=
  value.string?.bind fun s => Guid.ofText? s.toList

/-- One of several named alternatives: its name, or an object that gives null under its
name. -/
def choice? {α : Type} (ofName? : String → Option α) : Json → Option α
  | .string name => ofName? name
  | .object [(name, .null)] => ofName? name
  | _ => none

end PageMigration.Json
