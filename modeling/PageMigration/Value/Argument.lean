import PageMigration.Calendar.Instant
import PageMigration.Chars.Case
import PageMigration.Value.Guid

/-!
# Typed arguments

Property values are texts.  A function declares the type of each of its parameters, and the text
given for a parameter is read as a value of that type; a text that is no value of the type is
replaced by the fallback of the type, so one bad value never stops a transformation.  The
accessors of an argument list convert between types by the same rule.

## Main definitions

* `ValueType` : the types that parameters have.
* `Argument` : a value of one of these types.
* `ValueType.coerce` : a text read as a value of a type.
* `Arguments` : the values given to one call, with an accessor for each type.

## Main results

* `intText_inj` : different integers are written differently.
-/

namespace PageMigration

/-- The type of a parameter. -/
inductive ValueType where
  | string | integer | bool | guid | dateTime
  deriving DecidableEq, Repr

/-- A value handed to a function. -/
inductive Argument where
  | string (value : String)
  | integer (value : Int)
  | bool (value : Bool)
  | guid (value : Guid)
  | dateTime (value : Instant)
  deriving DecidableEq, Repr

namespace ValueType

/-- The type that a declared name stands for, without regard to case and to blanks around it;
a name that stands for no other type is a string. -/
def ofName (name : String) : ValueType :=
  let name := Chars.lower (Chars.trim name.toList)
  if name = "integer".toList then .integer
  else if name = "bool".toList then .bool
  else if name = "guid".toList then .guid
  else if name = "datetime".toList then .dateTime
  else .string

/-- The name of a type. -/
def name : ValueType → String
  | string => "string"
  | integer => "integer"
  | bool => "bool"
  | guid => "guid"
  | dateTime => "datetime"

end ValueType

/-- The fallback of integers is the least one of thirty-two bits. -/
def integerFallback : Int := -2147483648

/-- The fallback of instants is the start of the first year. -/
def instantFallback : Instant := .midnight ⟨1, 1, 1⟩

/-- The number that decimal digits stand for, if there is at least one and nothing else. -/
def natural? (s : List Char) : Option Nat :=
  if s.isEmpty ∨ ¬ s.all Char.isDigit then none else some (Digits.toNat s)

/-- An integer of thirty-two bits, with an optional sign, between optional blanks. -/
def readInteger? (raw : String) : Option Int :=
  let read : Option Int :=
    match Chars.trim raw.toList with
    | '-' :: s => (natural? s).map fun n => -(n : Int)
    | '+' :: s => (natural? s).map fun n => (n : Int)
    | s => (natural? s).map fun n => (n : Int)
  read.filter fun n => -2147483648 ≤ n && n ≤ 2147483647

/-- The word for a truth value in any case, between optional blanks. -/
def readBool? (raw : String) : Option Bool :=
  let s := Chars.lower (Chars.trim raw.toList)
  if s = "true".toList then some true
  else if s = "false".toList then some false
  else none

/-- An identifier between optional blanks. -/
def readGuid? (raw : String) : Option Guid :=
  Guid.ofText? (Chars.trim raw.toList)

/-- An instant between optional blanks. -/
def readInstant? (raw : String) : Option Instant :=
  Instant.ofText? raw.toList

/-- The word for a truth value. -/
def boolText (b : Bool) : String :=
  if b then "true" else "false"

/-- An integer in decimal digits. -/
def intText (n : Int) : String :=
  (if n < 0 then "-" else "") ++ String.ofList (Nat.toDigits 10 n.natAbs)

/-- Different integers are written differently. -/
theorem intText_inj {m n : Int} (h : intText m = intText n) : m = n := by
  have hminus (k : Nat) (s : List Char) : Nat.toDigits 10 k ≠ '-' :: s := fun hk =>
    have hdigit := Nat.isDigit_of_mem_toDigits (by decide) (by decide)
      (hk ▸ List.mem_cons_self : '-' ∈ Nat.toDigits 10 k)
    absurd hdigit (by decide)
  rw [intText, intText, ← String.toList_inj] at h
  by_cases hm : m < 0 <;> by_cases hn : n < 0 <;> simp [hm, hn] at h
  · have habs := Digits.toDigits_inj h
    omega
  · exact absurd h.symm (hminus _ _)
  · exact absurd h (hminus _ _)
  · have habs := Digits.toDigits_inj h
    omega

/-- A text read as a value of a type, or the fallback of the type. -/
def ValueType.coerce (type : ValueType) (raw : String) : Argument :=
  match type with
  | .string => .string raw
  | .integer => .integer ((readInteger? raw).getD integerFallback)
  | .bool => .bool ((readBool? raw).getD false)
  | .guid => .guid ((readGuid? raw).getD .nil)
  | .dateTime => .dateTime ((readInstant? raw).getD instantFallback)

/-- The text form of a value. -/
def Argument.text : Argument → String
  | .string s => s
  | .integer n => intText n
  | .bool b => boolText b
  | .guid g => g.text
  | .dateTime t => t.text

/-- The values given to one call, in order. -/
abbrev Arguments := List Argument

namespace Arguments

variable (args : Arguments) (i : Nat)

/-- The text of a value; a missing one is empty. -/
def text : String :=
  (args[i]?.map Argument.text).getD ""

/-- A truth value, read from a string where the value is one. -/
def bool : Bool :=
  match args[i]? with
  | some (.bool b) => b
  | some (.string s) => (readBool? s).getD false
  | _ => false

/-- An integer, read from a string where the value is one. -/
def integer : Int :=
  match args[i]? with
  | some (.integer n) => n
  | some (.string s) => (readInteger? s).getD integerFallback
  | _ => integerFallback

/-- An identifier, read from a string where the value is one. -/
def guid : Guid :=
  match args[i]? with
  | some (.guid g) => g
  | some (.string s) => (readGuid? s).getD .nil
  | _ => .nil

/-- An instant, read from a string where the value is one. -/
def instant : Instant :=
  match args[i]? with
  | some (.dateTime t) => t
  | some (.string s) => (readInstant? s).getD instantFallback
  | _ => instantFallback

end Arguments

end PageMigration
