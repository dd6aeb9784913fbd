import PageMigration.Chars.Blank
import PageMigration.Chars.Case
import PageMigration.Chars.Search

/-!
# Strings as texts

The operations on lists of characters that the domain uses, said of strings.

## Main definitions

* `Text.trim`, `Text.isBlank`, `Text.sameName`, `Text.lower` : blanks and case.
* `Text.cut?`, `Text.splitOn`, `Text.replaceAll`, `Text.join` : pieces of a string.
-/

namespace PageMigration.Text

/-- A string without the blanks at its ends. -/
def trim (s : String) : String :=
  String.ofList (Chars.trim s.toList)

@[simp] theorem trim_trim (s : String) : trim (trim s) = trim s := by
  simp [trim, Chars.trim_trim]

/-- A string that holds nothing but blanks. -/
def isBlank (s : String) : Bool :=
  Chars.blank s.toList

/-- A string with its ASCII capitals made small. -/
def lower (s : String) : String :=
  String.ofList (Chars.lower s.toList)

/-- Equality of two strings up to the case of ASCII letters. -/
def sameName (a b : String) : Bool :=
  Chars.sameName a.toList b.toList

@[simp] theorem sameName_self (a : String) : sameName a a = true := by
  simp [sameName]

theorem sameName_comm (a b : String) : sameName a b = sameName b a :=
  Chars.sameName_comm ..

theorem sameName_trans {a b c : String} (h : sameName a b) (k : sameName b c) :
    sameName a c :=
  Chars.sameName_trans h k

/-- A string without its blanks, unless nothing is left of it. -/
def nonblank? (s : String) : Option String :=
  let s := trim s
  if s.isEmpty then none else some s

/-- The two sides of the first separator. -/
def cut? (sep : Char) (s : String) : Option (String × String) :=
  (Chars.cut? sep s.toList).map fun (a, b) => (String.ofList a, String.ofList b)

/-- The two sides of the last separator. -/
def cutLast? (sep : Char) (s : String) : Option (String × String) :=
  (Chars.cutLast? sep s.toList).map fun (a, b) => (String.ofList a, String.ofList b)

/-- A string is cut at the last separator. -/
theorem cutLast?_of_toList_eq {sep : Char} {s : String} {a b : List Char}
    (h : s.toList = a ++ sep :: b) (hb : sep ∉ b) :
    cutLast? sep s = some (String.ofList a, String.ofList b) := by
  rw [cutLast?, h, Chars.cutLast?_append a hb]
  rfl

/-- What follows a given beginning, if the string has it. -/
def stripStart? (start s : String) : Option String :=
  (Chars.stripStart? start.toList s.toList).map String.ofList

/-- A string that begins with a given one. -/
def startsWith (start s : String) : Bool :=
  start.toList.isPrefixOf s.toList

/-- A string that ends with a given one. -/
def endsWith (final s : String) : Bool :=
  final.toList.isSuffixOf s.toList

/-- A string that begins with a given one up to the case of ASCII letters. -/
def startsWithName (start s : String) : Bool :=
  (Chars.lower start.toList).isPrefixOf (Chars.lower s.toList)

/-- A string that holds a given one. -/
def holds (piece s : String) : Bool :=
  Chars.holds piece.toList s.toList

/-- The pieces of a string between copies of one separator, at least one. -/
def splitOn (sep : Char) (s : String) : List String :=
  (Chars.splitOn sep s.toList).map String.ofList

/-- The pieces of a string between occurrences of a nonempty separator, at least one. -/
def splitAtAll (sep s : String) : List String :=
  (Chars.splitAtAll sep.toList s.toList).map String.ofList

/-- The string with every occurrence of a nonempty piece replaced, from left to right. -/
def replaceAll (piece by_ s : String) : String :=
  String.ofList (Chars.replaceAll piece.toList by_.toList s.toList)

/-- A string without the copies of a character at its end. -/
def trimEndOf (c : Char) (s : String) : String :=
  String.ofList (Chars.trimEndWhere (· == c) s.toList)

/-- A string without the copies of a character at its start. -/
def trimStartOf (c : Char) (s : String) : String :=
  String.ofList (s.toList.dropWhile (· == c))

/-- Strings written one after the other with a separator between them. -/
def join (sep : String) (parts : List String) : String :=
  sep.intercalate parts

end PageMigration.Text
