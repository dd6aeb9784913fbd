import PageMigration.Chars.Lowercase
import PageMigration.Csv.Reader
import PageMigration.Text

/-!
# User mappings

The people of the source may have other logins at the target.  A mapping gives the login at the
target for some logins of the source, without regard to case and to blanks around them; every
other login stays as it is.

## Main definitions

* `UserMapping` : logins at the target by logins of the source.
* `UserMapping.add` : the mapping with one more login.
* `UserMapping.apply` : the login at the target.
* `UserMapping.ofTable?` : the mapping that a table of two columns gives.
-/

namespace PageMigration

/-- Logins at the target by logins of the source in their normal form, no two of which are
equal. -/
structure UserMapping where
  entries : List (String × String) := []
  deriving DecidableEq, Repr

namespace UserMapping

/-- The form in which logins are compared. -/
def normalLogin (login : String) : String :=
  String.ofList (Chars.lowercase (Chars.trim login.toList))

/-- Entries with the value of a key put in. -/
def put (key value : String) : List (String × String) → List (String × String)
  | [] => [(key, value)]
  | (k, v) :: rest => if k = key then (k, value) :: rest else (k, v) :: put key value rest

/-- The mapping with a login at the target for a login of the source, in place of an earlier
one. -/
def add (m : UserMapping) (source target : String) : UserMapping :=
  ⟨put (normalLogin source) target m.entries⟩

/-- The number of logins that have a login at the target. -/
def size (m : UserMapping) : Nat :=
  m.entries.length

/-- What stands before the name in the login of a member of the cloud directory. -/
def membershipPrefix : String := "i:0#.f|membership|"

/-- The login at the target for a login of the source.  A login of the cloud directory may be
listed by its name alone. -/
def apply (m : UserMapping) (login : String) : String :=
  let key := normalLogin login
  match m.entries.lookup key with
  | some target => target
  | none =>
      match Text.stripStart? membershipPrefix key with
      | some bare => (m.entries.lookup bare).getD login
      | none => login

/-- The mapping after the rows of a table, of which the first two fields count. -/
def addRows (m : UserMapping) : List (List String) → UserMapping
  | [] => m
  | (source :: target :: _) :: rest =>
      (if source.isEmpty then m else m.add source target).addRows rest
  | _ :: rest => m.addRows rest

/-- Rows without the headings, which the first row may hold. -/
def withoutHeadings : List (List String) → List (List String)
  | (first :: second :: more) :: rest =>
      if Text.sameName first "source" then rest else (first :: second :: more) :: rest
  | rows => rows

/-- The mapping that a table gives, with logins of the source in the first column and logins at
the target in the second one. -/
def ofTable? (table : Bytes) : Option UserMapping :=
  (Csv.table? table).map fun rows => ({} : UserMapping).addRows (withoutHeadings rows)

end UserMapping

end PageMigration
