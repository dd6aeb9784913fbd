import PageMigration.Chars.Ranges
import PageMigration.Chars.Search

/-!
# Characters and names of XML

## Main definitions

* `Xml.isSpace`, `Xml.isCharacter` : blanks, and what a document may hold.
* `Xml.QualifiedName` : a name with the qualifier before its colon.
* `Xml.readName?`, `Xml.readQualifiedName?` : the name at the start of a text.
-/

namespace PageMigration.Xml

/-- The blanks of a document. -/
def isSpace (c : Char) : Bool :=
  c = ' ' || c = '\t' || c = '\n' || c = '\r'

/-- A character that a document may hold. -/
def isCharacter (c : Char) : Bool :=
  if c.toNat < 0x20 then isSpace c else c.toNat != 0xFFFE && c.toNat != 0xFFFF

/-- The characters outside ASCII that a name may start with, as ranges of code points. -/
def startRanges : List (Nat × Nat) :=
  [(0xC0, 0xD6), (0xD8, 0xF6), (0xF8, 0x2FF), (0x370, 0x37D), (0x37F, 0x1FFF), (0x200C, 0x200D),
   (0x2070, 0x218F), (0x2C00, 0x2FEF), (0x3001, 0xD7FF), (0xF900, 0xFDCF), (0xFDF0, 0xFFFD),
   (0x10000, 0xEFFFF)]

/-- The further characters outside ASCII that a name may hold. -/
def furtherRanges : List (Nat × Nat) :=
  [(0xB7, 0xB7), (0x300, 0x36F), (0x203F, 0x2040)]

/-- A character that a name may start with. -/
def startsName (c : Char) : Bool :=
  c.isAlpha || c = ':' || c = '_' || Chars.inRanges startRanges c

/-- A character that a name may hold. -/
def inName (c : Char) : Bool :=
  startsName c || c.isDigit || c = '-' || c = '.' || Chars.inRanges furtherRanges c

/-- The name at the start of a text and what follows it. -/
def readName? : List Char → Option (List Char × List Char)
  | [] => none
  | c :: s => if startsName c then some (c :: s.takeWhile inName, s.dropWhile inName) else none

/-- A name, with the qualifier that stands before its colon, or nothing. -/
structure QualifiedName where
  qualifier : String
  name : String
  deriving DecidableEq, Repr

/-- A text that begins as a name does. -/
def beginsName : List Char → Bool
  | [] => false
  | c :: _ => startsName c

/-- The qualified name at the start of a text and what follows it.  A name has one colon at
most. -/
def readQualifiedName? (s : List Char) : Option (QualifiedName × List Char) :=
  let word := s.takeWhile inName
  let rest := s.dropWhile inName
  match Chars.splitOn ':' word with
  | [name] =>
      if beginsName name then some (⟨"", String.ofList name⟩, rest) else none
  | [qualifier, name] =>
      if (qualifier.isEmpty || beginsName qualifier) && beginsName name then
        some (⟨String.ofList qualifier, String.ofList name⟩, rest)
      else none
  | _ => none

end PageMigration.Xml
