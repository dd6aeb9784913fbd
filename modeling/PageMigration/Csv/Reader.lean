import PageMigration.Chars.Blank
import PageMigration.Encoding.Utf8

/-!
# Reading tables of separated values

A table is written with one row on each line and commas between the fields of a row.  A field in
quotes may hold commas and line ends, and a quote in it is written twice.  Empty lines are no
rows, and rows may differ in length.

## Main definitions

* `Csv.rows` : the rows of a table, as bytes.
* `Csv.table?` : the rows of a table as texts without blanks around them.
-/

namespace PageMigration.Csv

/-- Where in a row the reading stands. -/
inductive Place where
  /-- Before a row. -/
  | rowStart
  | fieldStart
  | unquoted
  | quoted
  /-- After a quote in a quoted field, which may end it. -/
  | afterQuote
  deriving DecidableEq, Repr

/-- What has been read of a table: rows, fields of the row and bytes of the field, the last of
each first. -/
structure Reading where
  place : Place := .rowStart
  rows : List (List Bytes) := []
  fields : List Bytes := []
  field : Bytes := []

namespace Reading

/-- The reading after the end of a field. -/
def endField (r : Reading) : Reading :=
  { r with place := .fieldStart, fields := r.field.reverse :: r.fields, field := [] }

/-- The reading after the end of a row. -/
def endRow (r : Reading) : Reading :=
  let r := r.endField
  { r with place := .rowStart, rows := r.fields.reverse :: r.rows, fields := [] }

/-- The reading after a byte that belongs to the field. -/
def push (r : Reading) (b : UInt8) (place : Place) : Reading :=
  { r with place, field := b :: r.field }

/-- The byte of a comma. -/
def comma : UInt8 := 0x2C

/-- The byte of a quote. -/
def quote : UInt8 := 0x22

/-- A byte that ends a line. -/
def endsLine (b : UInt8) : Bool :=
  b == 0x0A || b == 0x0D

/-- The reading after a byte outside quotes. -/
def stepOutside (r : Reading) (b : UInt8) : Reading :=
  if b == comma then r.endField
  else if endsLine b then r.endRow
  else r.push b .unquoted

/-- The reading after a byte. -/
def step (r : Reading) (b : UInt8) : Reading :=
  match r.place with
  | .rowStart =>
      if endsLine b then r
      else if b == quote then { r with place := .quoted }
      else r.stepOutside b
  | .fieldStart => if b == quote then { r with place := .quoted } else r.stepOutside b
  | .unquoted => r.stepOutside b
  | .quoted => if b == quote then { r with place := .afterQuote } else r.push b .quoted
  | .afterQuote => if b == quote then r.push b .quoted else r.stepOutside b

/-- The rows after the end of the table. -/
def finish (r : Reading) : List (List Bytes) :=
  match r.place with
  | .rowStart => r.rows.reverse
  | _ => r.endRow.rows.reverse

end Reading

/-- The rows of a table, which may begin with a byte order mark. -/
def rows (table : Bytes) : List (List Bytes) :=
  let table := match table with
    | 0xEF :: 0xBB :: 0xBF :: rest => rest
    | table => table
  (table.foldl Reading.step {}).finish

/-- A field as a text without blanks around it, if its bytes are one. -/
def fieldText? (field : Bytes) : Option String :=
  (Utf8.decode? field).map fun s => String.ofList (Chars.trim s)

/-- The rows of a table as texts without blanks around them, if all fields are texts. -/
def table? (table : Bytes) : Option (List (List String)) :=
  (rows table).mapM fun row => row.mapM fieldText?

end PageMigration.Csv
