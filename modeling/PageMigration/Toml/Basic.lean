import PageMigration.Number.Double
import PageMigration.Record

/-!
# Values of TOML documents

## Main definitions

* `Toml` : a value, with the fields of tables in the order in which they came up.
* `Toml.record?`, `Toml.list?`, `Toml.choice?` : readers for what a value may stand for.
-/

namespace PageMigration

/-- A value in a TOML document. -/
inductive Toml where
  | string (value : String)
  | integer (value : Int)
  | double (value : Double)
  | infinity (negative : Bool)
  | notANumber
  | bool (value : Bool)
  /-- A date, a time of day or both, as written. -/
  | moment (text : String)
  | array (elements : List Toml)
  | table (fields : List (String × Toml))
  deriving Repr

namespace Toml

instance : Inhabited Toml := ⟨.table []⟩

/-- The text of a string. -/
def string? : Toml → Option String
  | .string s => some s
  | _ => none

/-- A truth value. -/
def bool? : Toml → Option Bool
  | .bool b => some b
  | _ => none

/-- An array, each element of which can be read. -/
def list? {α : Type} (read : Toml → Option α) : Toml → Option (List α)
  | .array elements => Record.readAll? read elements
  | _ => none

/-- The known fields of a record, given the names of its fields in order.  A table is read by
these names and fields of other names are passed over; an array holds the fields in their order,
and elements after the last one are passed over; a moment is a record of parts that have none of
these names. -/
def record? (names : List String) : Toml → Option (List (String × Toml))
  | .table fields => some (fields.filter fun f => names.contains f.1)
  | .array elements => some (names.zip elements)
  | .moment _ => some []
  | _ => none

/-- One of several named alternatives: its name, or a table that has something empty under its
name. -/
def choice? {α : Type} (ofName? : String → Option α) : Toml → Option α
  | .string name => ofName? name
  | .table [(name, .table [])] => ofName? name
  | .table [(name, .array [])] => ofName? name
  | _ => none

end Toml

end PageMigration
