import PageMigration.Number.Digits
import PageMigration.Xml.Name

/-!
# Character references

An ampersand begins a reference, which stands for a character by its number or by one of five
names.  There are no other names.

## Main definitions

* `Xml.readReference?` : the character that a reference stands for.
* `Xml.textOf?` : a piece of text with its references resolved and its line ends made uniform.
* `Xml.attributeOf?` : the value of an attribute likewise, with blanks in place of line ends.
-/

namespace PageMigration.Xml

/-- The character with a number of thirty-two bits.  A number that no character has stands for
the replacement character. -/
def characterOfNumber? (n : Nat) : Option Char :=
  if 0xFFFFFFFF < n then none
  else
    let c := if n.isValidChar then Char.ofNat n else '\uFFFD'
    if isCharacter c then some c else none

/-- The character that a reference by number stands for, after its number sign, and what
follows. -/
def readNumber? (s : List Char) : Option (Char × List Char) :=
  let (base, s) : Nat × List Char :=
    match s with
    | 'x' :: s => (16, s)
    | s => (10, s)
  let isDigit := Digits.isDigitIn base
  let digits := s.takeWhile isDigit
  if digits.isEmpty then none
  else (characterOfNumber? (Digits.ofBase base digits)).map fun c => (c, s.dropWhile isDigit)

/-- The characters that have names. -/
def namedCharacter? (name : List Char) : Option Char :=
  [("quot".toList, '"'), ("amp".toList, '&'), ("apos".toList, '\''), ("lt".toList, '<'),
   ("gt".toList, '>')].lookup name

/-- The character that a reference stands for, after its ampersand, and what follows its
semicolon. -/
def readReference? (s : List Char) : Option (Char × List Char) :=
  let read : Option (Char × List Char) :=
    match s with
    | '#' :: s => readNumber? s
    | s => (readName? s).bind fun (name, s) => (namedCharacter? name).map fun c => (c, s)
  read.bind fun (c, s) =>
    match s with
    | ';' :: s => some (c, s)
    | _ => none

/-- One character of a piece of text: as it stands there, or by reference. -/
inductive Glyph where
  | plain (c : Char)
  | referred (c : Char)
  deriving DecidableEq, Repr

/-- The characters of a piece of text, if all references in it can be resolved.  The first
argument bounds their number. -/
def glyphsFrom? : Nat → List Char → Option (List Glyph)
  | _, [] => some []
  | 0, _ :: _ => none
  | fuel + 1, c :: s =>
      if c = '&' then
        (readReference? s).bind fun (c, s) => (glyphsFrom? fuel s).map (.referred c :: ·)
      else (glyphsFrom? fuel s).map (.plain c :: ·)

/-- The characters of a piece of text, if all references in it can be resolved. -/
def glyphs? (s : List Char) : Option (List Glyph) :=
  glyphsFrom? s.length s

/-- A text, the last character first, after a character as it stands in the text, which is the
last one or not.  A carriage return with or without a line feed becomes a line feed. -/
def pushPlain (c : Char) (isLast : Bool) (reversed : List Char) : List Char :=
  let ends := isLast && c = '\r'
  match reversed with
  | '\r' :: before =>
      if ends then '\n' :: '\n' :: before
      else if c = '\n' then '\n' :: before
      else c :: '\n' :: before
  | _ => (if ends then '\n' else c) :: reversed

/-- The characters of a piece of text with uniform line ends, after those of `reversed`.  A
character after a reference is taken as it is. -/
def uniformLines (reversed : List Char) (afterReference : Bool) : List Glyph → List Char
  | [] => reversed.reverse
  | .referred c :: rest => uniformLines (c :: reversed) true rest
  | .plain c :: rest =>
      if afterReference then uniformLines (c :: reversed) false rest
      else uniformLines (pushPlain c rest.isEmpty reversed) false rest

/-- A piece of text with its references resolved and its line ends made uniform. -/
def textOf? (s : List Char) : Option (List Char) :=
  (glyphs? s).map (uniformLines [] false)

/-- Text without references, with its line ends made uniform. -/
def literalText (s : List Char) : List Char :=
  uniformLines [] false (s.map .plain)

/-- The value of an attribute with its references resolved.  A line end counts as one blank. -/
def attributeChars : List Glyph → List Char
  | [] => []
  | .referred c :: rest => c :: attributeChars rest
  | .plain '\r' :: .plain '\n' :: rest => ' ' :: attributeChars rest
  | .plain c :: rest => (if isSpace c then ' ' else c) :: attributeChars rest

/-- The value of an attribute as written, with its references resolved and each line end made a
blank. -/
def attributeOf? (s : List Char) : Option (List Char) :=
  (glyphs? s).map attributeChars

end PageMigration.Xml
