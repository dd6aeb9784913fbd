import PageMigration.Chars.Search
import PageMigration.Number.Digits

/-!
# Globally unique identifiers

An identifier has 128 bits.  It is written as thirty-two hexadecimal digits with hyphens after
the eighth, twelfth, sixteenth and twentieth; it may also be read without hyphens, between
braces, or after the words that make it a uniform resource name.

## Main definitions

* `Guid` : an identifier.
* `Guid.ofText?` : an identifier read from any of its written forms.
* `Guid.text` : its written form with hyphens.
-/

namespace PageMigration

/-- An identifier of 128 bits. -/
structure Guid where
  bits : BitVec 128
  deriving DecidableEq, Repr

namespace Guid

/-- The identifier whose bits are all zero. -/
def nil : Guid :=
  ⟨0⟩

/-- The number that a list of hexadecimal digits stands for, after the digits read before. -/
def hexValueFrom? (n : Nat) : List Char → Option Nat
  | [] => some n
  | c :: s => (Digits.valueIn? 16 c).bind fun d => hexValueFrom? (16 * n + d) s

/-- An identifier from exactly thirty-two hexadecimal digits. -/
def ofDigits? (s : List Char) : Option Guid :=
  if s.length = 32 then (hexValueFrom? 0 s).map fun n => ⟨BitVec.ofNat 128 n⟩ else none

/-- The lengths of the groups that hyphens set apart. -/
def groupLengths : List Nat := [8, 4, 4, 4, 12]

/-- An identifier from groups of hexadecimal digits between hyphens. -/
def ofHyphenated? (s : List Char) : Option Guid :=
  let groups := Chars.splitOn '-' s
  if groups.map List.length = groupLengths then ofDigits? groups.flatten else none

/-- What stands between braces that enclose a whole text. -/
def unbraced? (s : List Char) : Option (List Char) :=
  match s with
  | '\x7b' :: s => if s.getLast? = some '\x7d' then some s.dropLast else none
  | _ => none

/-- An identifier read from any of its written forms. -/
def ofText? (s : List Char) : Option Guid :=
  (ofDigits? s).or <| (ofHyphenated? s).or <| ((unbraced? s).bind ofHyphenated?).or <|
    (Chars.stripStart? "urn:uuid:".toList s).bind ofHyphenated?

/-- The hexadecimal digit in small letters of a number below sixteen. -/
def hexDigit (n : Nat) : Char :=
  Nat.digitChar n

/-- The hexadecimal digits of an identifier, the last `count` of them. -/
def digitsFrom (n : Nat) : Nat → List Char
  | 0 => []
  | count + 1 => digitsFrom (n / 16) count ++ [hexDigit (n % 16)]

/-- The thirty-two hexadecimal digits of an identifier. -/
def digits (g : Guid) : List Char :=
  digitsFrom g.bits.toNat 32

/-- Groups of given lengths, joined by hyphens. -/
def hyphenate : List Nat → List Char → List Char
  | [], _ => []
  | [n], s => s.take n
  | n :: ns, s => s.take n ++ '-' :: hyphenate ns (s.drop n)

/-- The written form with hyphens and small letters. -/
def text (g : Guid) : String :=
  String.ofList (hyphenate groupLengths g.digits)

end Guid

end PageMigration
