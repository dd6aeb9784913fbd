import PageMigration.Json.Basic
import PageMigration.Number.Digits

/-!
# JSON numbers

An integer within sixty-four bits stays an integer.  Any other number becomes a double, computed
from a significand of at most sixty-four bits and a decimal exponent: digits that would make the
significand larger only raise the exponent or are passed over, and the significand is multiplied
or divided by one power of ten, which rounds once for each power.  The negative zero is a double.

A double is written with the fewest digits that read back; positionally while its point stands
between five zeros before and sixteen digits after the first digit, and with an exponent
otherwise.

## Main definitions

* `Json.readNumber?` : the number at the start of a text.
* `Json.doubleText` : a double in decimal.
-/

namespace PageMigration.Json

/-- The greatest integer of sixty-four bits. -/
def greatestSignificand : Nat := Nat.pow 2 64 - 1

/-- A significand with a decimal digit put after it, if it stays within sixty-four bits. -/
def extend? (significand : Nat) (c : Char) : Option Nat :=
  let n := 10 * significand + Digits.value c
  if n ≤ greatestSignificand then some n else none

/-- A double times a power of ten up to the 308th. -/
def timesTen? (x : Double) (power : Int) : Option Double :=
  (Double.nearest? (Nat.pow 10 power.natAbs) 1).bind fun (m, e) =>
    let p : Double := ⟨false, m, e⟩
    if 0 ≤ power then x.mul? p else x.div? p

/-- The double for a significand and a decimal exponent.  Powers of ten beyond the 308th are
divided out in steps of that size, and make the number too large where they multiply. -/
def ofParts? : Nat → Double → Int → Option Double
  | 0, x, _ => some x
  | fuel + 1, x, power =>
      if power.natAbs ≤ 308 then timesTen? x power
      else if x.mantissa = 0 then some x
      else if 0 ≤ power then none
      else (timesTen? x (-308)).bind fun x => ofParts? fuel x (power + 308)

/-- A signed double for a significand and a decimal exponent. -/
def signedDouble? (negative : Bool) (significand : Nat) (power : Int) : Option Json :=
  (Double.ofNat? significand).bind fun x =>
    (ofParts? 8 x power).map fun x => .double { x with negative }

/-- What a text holds after its leading digits. -/
def dropDigits (s : List Char) : List Char :=
  s.dropWhile Char.isDigit

/-- The rest of a number whose exponent mark has been read. -/
def readExponent? (negative : Bool) (significand : Nat) (power : Int) (s : List Char) :
    Option (Json × List Char) :=
  let (down, s) := match s with
    | '+' :: s => (false, s)
    | '-' :: s => (true, s)
    | s => (false, s)
  let digits := s.takeWhile Char.isDigit
  let rest := dropDigits s
  if digits.isEmpty then none
  else
    let size := Digits.toNat digits
    if Nat.pow 2 31 ≤ size then
      if significand ≠ 0 ∧ ¬ down then none
      else some (.double ⟨negative, 0, 0⟩, rest)
    else
      let exponent : Int := if down then power - size else power + size
      (signedDouble? negative significand exponent).map fun value => (value, rest)

/-- The rest of a number after its significand, where an exponent may follow. -/
def readTail? (negative : Bool) (significand : Nat) (power : Int) :
    List Char → Option (Json × List Char)
  | [] => (signedDouble? negative significand power).map fun value => (value, [])
  | c :: s =>
      if c = 'e' ∨ c = 'E' then readExponent? negative significand power s
      else (signedDouble? negative significand power).map fun value => (value, c :: s)

/-- The digits after a decimal point.  From the first one that does not fit into the significand
they are passed over. -/
def readDecimals (significand : Nat) (power : Int) : List Char → Nat × Int × List Char
  | [] => (significand, power, [])
  | c :: s =>
      if c.isDigit then
        match extend? significand c with
        | some n => readDecimals n (power - 1) s
        | none => (significand, power, dropDigits s)
      else (significand, power, c :: s)

/-- The rest of a number whose decimal point has been read. -/
def readPoint? (negative : Bool) (significand : Nat) (power : Int) (s : List Char) :
    Option (Json × List Char) :=
  if (s.takeWhile Char.isDigit).isEmpty then none
  else
    let (significand, power, rest) := readDecimals significand power s
    readTail? negative significand power rest

/-- The digits before a decimal point.  Those that do not fit into the significand are
counted. -/
def readWhole (significand : Nat) : List Char → Nat × Nat × List Char
  | [] => (significand, 0, [])
  | c :: s =>
      if c.isDigit then
        match extend? significand c with
        | some n => readWhole n s
        | none => (significand, (s.takeWhile Char.isDigit).length + 1, dropDigits s)
      else (significand, 0, c :: s)

/-- A number without point and exponent: an integer if it is one of sixty-four bits. -/
def wholeNumber? (negative : Bool) (significand dropped : Nat) : Option Json :=
  if dropped = 0 then
    if ¬ negative then some (.int significand)
    else if significand ≠ 0 ∧ significand ≤ Nat.pow 2 63 then some (.int (-(significand : Int)))
    else signedDouble? true significand 0
  else signedDouble? negative significand dropped

/-- The number at the start of a text, after its sign. -/
def readUnsigned? (negative : Bool) : List Char → Option (Json × List Char)
  | [] => none
  | c :: s =>
      if ¬ c.isDigit then none
      else if c = '0' ∧ (s.head?.any Char.isDigit) then none
      else
        let (significand, dropped, rest) := readWhole 0 (c :: s)
        match rest with
        | '.' :: rest => readPoint? negative significand dropped rest
        | 'e' :: rest => readExponent? negative significand dropped rest
        | 'E' :: rest => readExponent? negative significand dropped rest
        | rest => (wholeNumber? negative significand dropped).map fun value => (value, rest)

/-- The number at the start of a text and what follows it. -/
def readNumber? : List Char → Option (Json × List Char)
  | '-' :: s => readUnsigned? true s
  | s => readUnsigned? false s

/-! ### Writing -/

/-- Decimal digits with the place of the last one, written positionally or with an exponent. -/
def digitsText (digits : List Char) (place : Int) : List Char :=
  let length : Int := digits.length
  let point := length + place
  if 0 ≤ place ∧ point ≤ 16 then digits ++ List.replicate place.toNat '0' ++ ['.', '0']
  else if 0 < point ∧ point ≤ 16 then
    digits.take point.toNat ++ '.' :: digits.drop point.toNat
  else if -5 < point ∧ point ≤ 0 then
    '0' :: '.' :: (List.replicate point.natAbs '0' ++ digits)
  else
    let exponent := point - 1
    let exponentText :=
      (if exponent < 0 then '-' else '+') :: Nat.toDigits 10 exponent.natAbs
    match digits with
    | [d] => d :: 'e' :: exponentText
    | d :: more => d :: '.' :: (more ++ 'e' :: exponentText)
    | [] => []

/-- A double in decimal. -/
def doubleText (x : Double) : List Char :=
  let sign := if x.negative then ['-'] else []
  if x.mantissa = 0 then sign ++ "0.0".toList
  else
    let (digits, place) := x.shortest
    sign ++ digitsText (Nat.toDigits 10 digits) place

end PageMigration.Json
