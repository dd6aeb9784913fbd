/-!
# UTF-8

Bytes are read as text either strictly, or with the replacement character in place of each
longest piece that begins a character but does not complete it, and of each byte that begins
none.

## Main definitions

* `Utf8.encode` : the bytes of a text.
* `Utf8.step` : what the first bytes stand for.
* `Utf8.decode?`, `Utf8.decodeLossy` : strict reading, and reading with replacements.
-/

namespace PageMigration

/-- A sequence of bytes. -/
abbrev Bytes := List UInt8

namespace Utf8

/-- The bytes of a string. -/
def encode (s : String) : Bytes :=
  s.toUTF8.toList

/-- A byte that continues a character. -/
def isContinuation (b : UInt8) : Bool :=
  0x80 ≤ b && b ≤ 0xBF

/-- The bounds of the second byte of a character with a given first byte, and how many bytes
follow that one; a first byte of one-byte characters or of none is left out. -/
def secondBounds? (b : UInt8) : Option (UInt8 × UInt8 × Nat) :=
  if 0xC2 ≤ b ∧ b ≤ 0xDF then some (0x80, 0xBF, 0)
  else if b = 0xE0 then some (0xA0, 0xBF, 1)
  else if b = 0xED then some (0x80, 0x9F, 1)
  else if 0xE1 ≤ b ∧ b ≤ 0xEF then some (0x80, 0xBF, 1)
  else if b = 0xF0 then some (0x90, 0xBF, 2)
  else if 0xF1 ≤ b ∧ b ≤ 0xF3 then some (0x80, 0xBF, 2)
  else if b = 0xF4 then some (0x80, 0x8F, 2)
  else none

/-- The payload of the first byte of a character of several bytes. -/
def leadPayload (b : UInt8) (more : Nat) : Nat :=
  match more with
  | 0 => b.toNat - 0xC0
  | 1 => b.toNat - 0xE0
  | _ => b.toNat - 0xF0

/-- The continuation bytes of a character put after the payload read before. -/
def continue? (n : Nat) : Nat → Bytes → Option Nat × Bytes
  | 0, s => (some n, s)
  | _ + 1, [] => (none, [])
  | more + 1, b :: s =>
      if isContinuation b then continue? (n * 64 + (b.toNat - 0x80)) more s else (none, b :: s)

/-- The character that the first bytes stand for, or nothing where they do not complete one, and
the bytes after them. -/
def step (b : UInt8) (s : Bytes) : Option Char × Bytes :=
  if b < 0x80 then (some (Char.ofNat b.toNat), s)
  else
    match secondBounds? b, s with
    | some (low, high, more), c :: s' =>
        if low ≤ c ∧ c ≤ high then
          let (n, rest) := continue? (leadPayload b more * 64 + (c.toNat - 0x80)) more s'
          (n.map Char.ofNat, rest)
        else (none, s)
    | _, _ => (none, s)

theorem length_continue?_le (n more : Nat) (s : Bytes) :
    (continue? n more s).2.length ≤ s.length := by
  induction more generalizing n s with
  | zero => simp [continue?]
  | succ more ih =>
      cases s with
      | nil => simp [continue?]
      | cons b s =>
          simp only [continue?]
          split
          · exact Nat.le_succ_of_le (ih _ _)
          · simp

theorem length_step_le (b : UInt8) (s : Bytes) : (step b s).2.length ≤ s.length := by
  simp only [step]
  split
  · simp
  · split
    · split
      · exact Nat.le_succ_of_le (length_continue?_le _ _ _)
      · simp
    · simp

/-- Bytes as characters, with nothing in place of each piece that stands for none. -/
def pieces (s : Bytes) : List (Option Char) :=
  match s with
  | [] => []
  | b :: s =>
      (step b s).1 :: pieces (step b s).2
termination_by s.length
decreasing_by
  have := length_step_le b s
  simp only [List.length_cons]
  omega

/-- The text that bytes stand for, if all of them stand for characters. -/
def decode? (s : Bytes) : Option (List Char) :=
  let chars := pieces s
  if chars.all Option.isSome then some (chars.filterMap id) else none

/-- The text that bytes stand for, with the replacement character where they stand for none. -/
def decodeLossy (s : Bytes) : List Char :=
  (pieces s).map fun c => c.getD '\uFFFD'

end Utf8

end PageMigration
