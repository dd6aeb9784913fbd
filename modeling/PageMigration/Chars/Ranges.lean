/-!
# Ranges of characters

Properties of characters are given by tables of ranges of code points, and maps of characters by
tables of ranges with a step and a shift.

## Main definitions

* `Chars.inRanges` : whether a character lies in one of several ranges.
* `Chars.shiftBy` : the image of a character under a table of shifts.
-/

namespace PageMigration.Chars

/-- Whether a character lies in one of several ranges, ends included. -/
def inRanges (ranges : List (Nat × Nat)) (c : Char) : Bool :=
  ranges.any fun (low, high) => low ≤ c.toNat && c.toNat ≤ high

/-- Every so many characters from a first to a last one, moved by the same distance. -/
structure Shift where
  first : Nat
  last : Nat
  step : Nat
  distance : Int

/-- Whether a shift moves a character. -/
def Shift.moves (s : Shift) (n : Nat) : Bool :=
  s.first ≤ n && n ≤ s.last && (n - s.first) % s.step == 0

/-- The image of a character under a table of shifts. -/
def shiftBy (table : List Shift) (c : Char) : Char :=
  match table.find? (Shift.moves · c.toNat) with
  | some s => Char.ofNat ((c.toNat : Int) + s.distance).toNat
  | none => c

end PageMigration.Chars
