import PageMigration.Html.Token

/-!
# Escaped text

Characters that have a meaning in markup are written as character references.

## Main definitions

* `Html.escapeAttribute`, `Html.escapeText` : escaped forms for attributes and for text.
* `Html.escapeForJson` : the escaped form for an attribute that is kept in a string of JSON.
* `Html.unescape` : a text with its character references replaced by what they stand for.
-/

namespace PageMigration.Html

/-- The escaped form of a character between quotes. -/
def escapeAttributeChar (c : Char) : List Char :=
  match c with
  | '&' => "&amp;".toList
  | '<' => "&lt;".toList
  | '>' => "&gt;".toList
  | '"' => "&quot;".toList
  | '\'' => "&#x27;".toList
  | c => [c]

/-- The escaped form of a text between quotes. -/
def escapeAttribute (s : List Char) : List Char :=
  s.flatMap escapeAttributeChar

/-- The escaped form of a character between quotes, where the text itself is kept in a string of
JSON: a quote is escaped for that string, and colons and at signs are written as references. -/
def escapeForJsonChar (c : Char) : List Char :=
  match c with
  | '"' => ['\\', '"']
  | ':' => "&#58;".toList
  | '@' => "&#64;".toList
  | c => escapeAttributeChar c

/-- The escaped form of a text between quotes that is kept in a string of JSON. -/
def escapeForJson (s : List Char) : List Char :=
  s.flatMap escapeForJsonChar

/-- The escaped form of a character outside tags. -/
def escapeTextChar (c : Char) : List Char :=
  match c with
  | '&' => "&amp;".toList
  | '<' => "&lt;".toList
  | '>' => "&gt;".toList
  | c => [c]

/-- The escaped form of a text outside tags. -/
def escapeText (s : List Char) : List Char :=
  s.flatMap escapeTextChar

/-- The character of a number that is one of a character. -/
def scalar? (n : Nat) : Option Char :=
  if n < 0xD800 ∨ (0xDFFF < n ∧ n ≤ 0x10FFFF) then some (Char.ofNat n) else none

/-- The characters that a whole reference stands for, given what is between its ampersand and its
semicolon. -/
def wholeReference? (body : List Char) : Option (List Char) :=
  match body with
  | '#' :: digits =>
      let (base, digits) : Nat × List Char :=
        match digits with
        | 'x' :: digits => (16, digits)
        | 'X' :: digits => (16, digits)
        | digits => (10, digits)
      if digits.isEmpty || !digits.all (Digits.isDigitIn base) then none
      else (scalar? (Digits.ofBase base digits)).map fun c => [c]
  | body => namedCharacter? (String.ofList body)

/-- A text with its references replaced, with `skip` characters of the last one still to be passed
over.  A reference needs its semicolon. -/
def unescapeFrom : Nat → List Char → List Char
  | _, [] => []
  | skip + 1, _ :: s => unescapeFrom skip s
  | 0, c :: s =>
      if c = '&' then
        let body := s.takeWhile fun d => d != ';' && d != '&'
        match (s.drop body.length).head?, wholeReference? body with
        | some ';', some chars => chars ++ unescapeFrom (body.length + 1) s
        | _, _ => c :: unescapeFrom 0 s
      else c :: unescapeFrom 0 s

/-- A text with its references replaced by what they stand for. -/
def unescape (s : List Char) : List Char :=
  unescapeFrom 0 s

end PageMigration.Html
