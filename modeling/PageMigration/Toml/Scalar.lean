import PageMigration.Calendar.Instant
import PageMigration.Chars.Search
import PageMigration.Toml.Basic

/-!
# Scalars of TOML

Truth values, numbers, dates and times stand without quotes.  A number may have single
underscores between its digits.  Without a point and an exponent it is an integer, which has no
zeros in front and may also be written in three other bases; integers go up to 128 bits.  A date
and a time of day may stand for themselves or together, with a letter or a blank between them and
the offset of local time after them; the seconds may be left out.

## Main definitions

* `Toml.number?`, `Toml.moment?` : a number and a moment from their written forms.
* `Toml.readScalar?` : the scalar at the start of a text.
-/

namespace PageMigration.Toml

/-! ### Numbers -/

/-- Digits with single underscores between them, without the underscores. -/
def digits? (isDigit : Char → Bool) : List Char → Option (List Char)
  | [] => none
  | [c] => if isDigit c then some [c] else none
  | c :: '_' :: s => if isDigit c then (digits? isDigit s).map (c :: ·) else none
  | c :: s => if isDigit c then (digits? isDigit s).map (c :: ·) else none

/-- An integer that 128 bits can hold. -/
def integer? (n : Int) : Option Toml :=
  if -(Nat.pow 2 127 : Int) ≤ n ∧ n < Nat.pow 2 128 then some (.integer n) else none

/-- An integer in a base of at most sixteen. -/
def basedInteger? (base : Nat) (s : List Char) : Option Toml :=
  (digits? (Digits.isDigitIn base) s).bind fun digits => integer? (Digits.ofBase base digits)

/-- Decimal digits without a zero in front of others. -/
def wholeDigits? (s : List Char) : Option (List Char) :=
  match digits? Char.isDigit s with
  | some ('0' :: _ :: _) => none
  | digits => digits

/-- The exponent that follows its mark. -/
def exponent? (s : List Char) : Option Int :=
  let (negative, s) := match s with
    | '+' :: s => (false, s)
    | '-' :: s => (true, s)
    | s => (false, s)
  (digits? Char.isDigit s).map fun digits =>
    let n : Int := Digits.toNat digits
    if negative then -n else n

/-- The double nearest to digits times a power of ten.  The power is computed only where it
matters. -/
def double? (negative : Bool) (digits : List Char) (power : Int) : Option Toml :=
  let significand := Digits.toNat digits
  let place := (digits.length : Int) + power
  if significand = 0 ∨ place < -400 then some (.double ⟨negative, 0, 0⟩)
  else if 400 + (digits.length : Int) < place then none
  else
    let (num, den) := Double.scale 10 power significand 1
    (Double.nearest? num den).map fun (m, e) => .double ⟨negative, m, e⟩

/-- A decimal number after its sign. -/
def decimal? (negative : Bool) (s : List Char) : Option Toml :=
  if s = "inf".toList then some (.infinity negative)
  else if s = "nan".toList then some .notANumber
  else do
    let (significand, power) ← match Chars.cutWhere? (fun c => c = 'e' || c = 'E') s with
      | some (significand, e) => (exponent? e).map fun e => (significand, some e)
      | none => some (s, none)
    let (whole, fraction) ← match Chars.cut? '.' significand with
      | some (whole, f) => (digits? Char.isDigit f).map fun f => (whole, some f)
      | none => some (significand, none)
    let whole ← wholeDigits? whole
    match fraction, power with
    | none, none =>
        let n : Int := Digits.toNat whole
        integer? (if negative then -n else n)
    | fraction, power =>
        let fraction := fraction.getD []
        double? negative (whole ++ fraction) (power.getD 0 - fraction.length)

/-- A number. -/
def number? : List Char → Option Toml
  | '0' :: 'x' :: s => basedInteger? 16 s
  | '0' :: 'o' :: s => basedInteger? 8 s
  | '0' :: 'b' :: s => basedInteger? 2 s
  | '+' :: s => decimal? false s
  | '-' :: s => decimal? true s
  | s => decimal? false s

/-! ### Dates and times -/

/-- What follows a date. -/
def afterDate? (s : List Char) : Option (List Char) := do
  let (year, s) ← Digits.read? 4 4 s
  let s ← Instant.mark? '-' s
  let (month, s) ← Instant.pair? s
  let s ← Instant.mark? '-' s
  let (day, s) ← Instant.pair? s
  let _ ← Date.ofParts? year month day
  some s

/-- What follows a time of day. -/
def afterTime? (s : List Char) : Option (List Char) := do
  let (hour, s) ← Instant.pair? s
  let s ← Instant.mark? ':' s
  let (minute, s) ← Instant.pair? s
  if 24 ≤ hour ∨ 60 ≤ minute then none
  match s with
  | ':' :: s =>
      let (second, s) ← Instant.pair? s
      if 60 < second then none
      let (_, s) ← Instant.optionalFraction? s
      some s
  | s => some s

/-- Whether an optional offset of local time is all of a text. -/
def isOffset (s : List Char) : Bool :=
  s.isEmpty || (Instant.offset? s).any fun (_, rest) => rest.isEmpty

/-- Whether a text is a date, a time of day or both. -/
def isMoment (s : List Char) : Bool :=
  match afterDate? s with
  | some [] => true
  | some (c :: s) => (c = 'T' || c = 't' || c = ' ') && (afterTime? s).any isOffset
  | none => (afterTime? s).any List.isEmpty

/-- A moment. -/
def moment? (s : List Char) : Option Toml :=
  if isMoment s then some (.moment (String.ofList s)) else none

/-! ### Scalars -/

/-- A character of a scalar. -/
def isScalarChar (c : Char) : Bool :=
  c.isAlphanum || c = '+' || c = '-' || c = '_' || c = '.' || c = ':'

/-- A scalar. -/
def scalar? (s : List Char) : Option Toml :=
  if s = "true".toList then some (.bool true)
  else if s = "false".toList then some (.bool false)
  else (moment? s).or (number? s)

/-- The characters of the scalar at the start of a text, and what follows them.  After a date, a
blank before a digit belongs to them. -/
def cutScalar (s : List Char) : List Char × List Char :=
  let piece := s.takeWhile isScalarChar
  match s.dropWhile isScalarChar with
  | ' ' :: c :: rest =>
      if c.isDigit ∧ (afterDate? piece).any List.isEmpty then
        (piece ++ ' ' :: (c :: rest).takeWhile isScalarChar, rest.dropWhile isScalarChar)
      else (piece, ' ' :: c :: rest)
  | rest => (piece, rest)

/-- The scalar at the start of a text and what follows it. -/
def readScalar? (s : List Char) : Option (Toml × List Char) :=
  let (piece, rest) := cutScalar s
  (scalar? piece).map fun value => (value, rest)

end PageMigration.Toml
