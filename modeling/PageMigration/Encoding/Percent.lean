import PageMigration.Encoding.Utf8
import PageMigration.Number.Digits

/-!
# Percent encoding

A percent sign and two hexadecimal digits stand for a byte.  A percent sign that is not followed
by two such digits stands for itself, and a text whose bytes are no text is left as it is.

## Main definitions

* `Percent.decode` : a text with its escapes replaced by what they stand for.
-/

namespace PageMigration.Percent

/-- The value of a byte that is a hexadecimal digit. -/
def digit? (b : UInt8) : Option Nat :=
  Digits.valueIn? 16 (Char.ofNat b.toNat)

/-- The bytes of a text with escapes, given as bytes. -/
def decodeBytes : Bytes → Bytes
  | [] => []
  | b :: s =>
      if b = 0x25 then
        match s with
        | h :: l :: rest =>
            match digit? h, digit? l with
            | some h', some l' => UInt8.ofNat (16 * h' + l') :: decodeBytes rest
            | _, _ => b :: decodeBytes (h :: l :: rest)
        | s => b :: s
      else b :: decodeBytes s

/-- The text that a text with escapes stands for, if its bytes are a text. -/
def decode? (s : String) : Option String :=
  (Utf8.decode? (decodeBytes (Utf8.encode s))).map String.ofList

/-- The text that a text with escapes stands for, or the text itself. -/
def decode (s : String) : String :=
  (decode? s).getD s

end PageMigration.Percent
