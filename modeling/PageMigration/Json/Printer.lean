import PageMigration.Json.Number

/-!
# Writing JSON

A value is written without blanks, or indented by two blanks for each level.  In strings the
quote, the backslash and the control characters are escaped, with a short form where there is
one.

## Main definitions

* `Json.quoted` : a string between quotes.
* `Json.compact` : a value without blanks.
* `Json.pretty` : a value over several lines.
-/

namespace PageMigration.Json

/-- A character as it stands in a string. -/
def escapedChar (c : Char) : List Char :=
  if c = '"' then ['\\', '"']
  else if c = '\\' then ['\\', '\\']
  else if c = '\x08' then ['\\', 'b']
  else if c = '\t' then ['\\', 't']
  else if c = '\n' then ['\\', 'n']
  else if c = '\x0c' then ['\\', 'f']
  else if c = '\r' then ['\\', 'r']
  else if c.toNat < 0x20 then
    ['\\', 'u', '0', '0', Nat.digitChar (c.toNat / 16), Nat.digitChar (c.toNat % 16)]
  else [c]

/-- A text as it stands in a string. -/
def escaped (s : List Char) : List Char :=
  s.flatMap escapedChar

/-- A string between quotes. -/
def quoted (s : String) : List Char :=
  '"' :: (escaped s.toList ++ ['"'])

/-- The text of an integer. -/
def intText (n : Int) : List Char :=
  if n < 0 then '-' :: Nat.toDigits 10 n.natAbs else Nat.toDigits 10 n.natAbs

mutual

/-- A value without blanks. -/
def compactChars : Json → List Char
  | .null => "null".toList
  | .bool true => "true".toList
  | .bool false => "false".toList
  | .int n => intText n
  | .double x => doubleText x
  | .string s => quoted s
  | .array [] => "[]".toList
  | .array (v :: vs) => '[' :: (compactChars v ++ compactElements vs)
  | .object [] => ['\x7b', '\x7d']
  | .object ((name, v) :: fs) =>
      '\x7b' :: (quoted name ++ ':' :: (compactChars v ++ compactFields fs))

/-- The elements of an array after the first one, and its end. -/
def compactElements : List Json → List Char
  | [] => [']']
  | v :: vs => ',' :: (compactChars v ++ compactElements vs)

/-- The fields of an object after the first one, and its end. -/
def compactFields : List (String × Json) → List Char
  | [] => ['\x7d']
  | (name, v) :: fs => ',' :: (quoted name ++ ':' :: (compactChars v ++ compactFields fs))

end

/-- A line end and the indentation of a level. -/
def newline (level : Nat) : List Char :=
  '\n' :: List.replicate (2 * level) ' '

mutual

/-- A value over several lines, at a given level. -/
def prettyChars (level : Nat) : Json → List Char
  | .array (v :: vs) =>
      '[' :: (newline (level + 1) ++ prettyChars (level + 1) v ++ prettyElements level vs)
  | .object ((name, v) :: fs) =>
      '\x7b' :: (newline (level + 1) ++ quoted name ++ ':' :: ' ' ::
        (prettyChars (level + 1) v ++ prettyFields level fs))
  | v => compactChars v

/-- The elements of an array after the first one, and its end. -/
def prettyElements (level : Nat) : List Json → List Char
  | [] => newline level ++ [']']
  | v :: vs =>
      ',' :: (newline (level + 1) ++ prettyChars (level + 1) v ++ prettyElements level vs)

/-- The fields of an object after the first one, and its end. -/
def prettyFields (level : Nat) : List (String × Json) → List Char
  | [] => newline level ++ ['\x7d']
  | (name, v) :: fs =>
      ',' :: (newline (level + 1) ++ quoted name ++ ':' :: ' ' ::
        (prettyChars (level + 1) v ++ prettyFields level fs))

end

/-- A value without blanks. -/
def compact (v : Json) : String :=
  String.ofList (compactChars v)

/-- A value over several lines. -/
def pretty (v : Json) : String :=
  String.ofList (prettyChars 0 v)

end PageMigration.Json
