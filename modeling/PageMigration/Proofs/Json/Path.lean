import PageMigration.Chars.Search
import PageMigration.Json.Basic
import PageMigration.Proofs.Json.NumberText

/-!
# Paths in JSON values

A path leads to a value inside another one.  Its steps are separated by points, and each of them is
the name of a field, or the name of a field that holds an array with the index of an element in
brackets.

## Main definitions

* `Json.valueAt?` : the value at a path.

## Main results

* `Json.valueAt?_name`, `Json.valueAt?_field`, `Json.valueAt?_element` : the first step of a path.
-/

namespace PageMigration.Json

/-- The index that stands before a closing bracket. -/
def closedIndex? (text : List Char) : Option Nat :=
  let digits := text.takeWhile Char.isDigit
  if digits ≠ [] ∧ text = digits ++ [']'] then some (Digits.toNat digits) else none

/-- The value at one step from a value: that of a field, or an element of an array in a field. -/
def step? (value : Json) (step : List Char) : Option Json :=
  match Chars.cut? '[' step with
  | none => value.field? (String.ofList step)
  | some (name, index) => do
      let elements ← (value.field? (String.ofList name)).bind array?
      elements[← closedIndex? index]?

/-- The value at a path from a value. -/
def valueAt? (value : Json) (path : String) : Option Json :=
  (Chars.splitOn '.' path.toList).foldlM step? value

theorem closedIndex?_toDigits (i : Nat) : closedIndex? (Nat.toDigits 10 i ++ [']']) = some i := by
  have hdigits : (Nat.toDigits 10 i ++ [']']).takeWhile Char.isDigit = Nat.toDigits 10 i := by
    rw [List.takeWhile_append_of_pos fun c hc => Digits.isDigit_of_mem_toDigits hc]
    simp
  have hne : Nat.toDigits 10 i ≠ [] := Nat.toDigits_ne_nil
  simp [closedIndex?, hdigits, hne]

section

variable (value : Json) {name : String}

/-- The step to a field. -/
theorem step?_name (h : '[' ∉ name.toList) : value.step? name.toList = value.field? name := by
  rw [step?, Chars.cut?_eq_none h, String.ofList_toList]

/-- The step to an element of an array in a field. -/
theorem step?_index (h : '[' ∉ name.toList) {elements : List Json}
    (hfield : value.field? name = some (.array elements)) (i : Nat) :
    value.step? (name.toList ++ '[' :: (Nat.toDigits 10 i ++ [']'])) = elements[i]? := by
  rw [step?, Chars.cut?_append _ h]
  simp [hfield, array?, closedIndex?_toDigits]

/-- A path leads from its first step to where the rest of it leads. -/
theorem valueAt?_of_toList {path : String} (rest : String) {first : List Char} (h : '.' ∉ first)
    (hpath : path.toList = first ++ '.' :: rest.toList) :
    value.valueAt? path = (value.step? first).bind fun v => v.valueAt? rest := by
  rw [valueAt?, hpath, Chars.splitOn_append _ h, List.foldlM_cons]
  rfl

variable (hpoint : '.' ∉ name.toList) (hbracket : '[' ∉ name.toList)
include hpoint hbracket

/-- A path of one step leads to a field. -/
theorem valueAt?_name : value.valueAt? name = value.field? name := by
  rw [valueAt?, Chars.splitOn_of_notMem hpoint, ← step?_name value hbracket]
  simp

/-- A path that begins with a field leads to where the rest of it leads from that field. -/
theorem valueAt?_field (rest : String) :
    value.valueAt? (name ++ "." ++ rest) =
      (value.field? name).bind fun v => v.valueAt? rest := by
  rw [valueAt?_of_toList value rest hpoint (by simp), step?_name value hbracket]

/-- A path that begins with an element leads to where the rest of it leads from that element. -/
theorem valueAt?_element {elements : List Json}
    (hfield : value.field? name = some (.array elements)) (i : Nat) (rest : String) :
    value.valueAt? (name ++ "[" ++ toString i ++ "]." ++ rest) =
      elements[i]?.bind fun v => v.valueAt? rest := by
  have hdigits : '.' ∉ Nat.toDigits 10 i := fun h =>
    absurd (Digits.isDigit_of_mem_toDigits h) (by decide)
  have hfirst : '.' ∉ name.toList ++ '[' :: (Nat.toDigits 10 i ++ [']']) := by
    simp [hpoint, hdigits]
  rw [valueAt?_of_toList value rest hfirst, step?_index value hbracket hfield]
  simp

end

example : valueAt? (.object [("items", .array [.null, .object [("id", .int 2)]])]) "items[1].id" =
    some (.int 2) := by
  rfl

end PageMigration.Json
