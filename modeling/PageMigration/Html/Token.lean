import PageMigration.Chars.Search
import PageMigration.Html.NamedCharacter
import PageMigration.Number.Digits

/-!
# Tokens of markup

A text of markup is read as a sequence of tokens: characters, tags, comments and document types.
How the text is read depends on the element that is open, since the content of some elements is
plain text up to their end tag.  Every text has a reading; what fits no rule stands for itself.

## Main definitions

* `Html.Token` : one token.
* `Html.TextMode` : how text is read.
* `Html.nextToken` : the first token of a text, and what follows it.
-/

namespace PageMigration.Html

/-- An attribute of a tag. -/
structure Attribute where
  name : List Char
  value : List Char
  deriving DecidableEq, Repr

/-- A start tag. -/
structure Tag where
  name : String
  attributes : List Attribute := []
  selfClosing : Bool := false
  deriving DecidableEq, Repr

/-- One token of markup. -/
inductive Token where
  | text (chars : List Char)
  | startTag (tag : Tag)
  | endTag (name : String)
  | comment
  | documentType
  | endOfText
  deriving DecidableEq, Repr

/-- How text is read. -/
inductive TextMode where
  /-- Markup. -/
  | markup
  /-- Text with named characters, up to the end tag of an element. -/
  | escapable (element : String)
  /-- Plain text up to the end tag of an element. -/
  | raw (element : String)
  /-- The text of a script, up to its end tag outside hidden comments. -/
  | script
  /-- Plain text up to the end. -/
  | plain
  deriving DecidableEq, Repr

/-- The blanks of markup. -/
def isSpace (c : Char) : Bool :=
  c = '\t' || c = '\n' || c = '\x0c' || c = '\r' || c = ' '

/-- A character in a name or a value; the zero character is replaced. -/
def replaceNul (c : Char) : Char :=
  if c = '\x00' then '\uFFFD' else c

/-! ### Character references -/

/-- The characters that numbers of the second control block stand for. -/
def windowsCharacters : List Nat :=
  [0x20AC, 0x81, 0x201A, 0x192, 0x201E, 0x2026, 0x2020, 0x2021, 0x2C6, 0x2030, 0x160, 0x2039,
   0x152, 0x8D, 0x17D, 0x8F, 0x90, 0x2018, 0x2019, 0x201C, 0x201D, 0x2022, 0x2013, 0x2014, 0x2DC,
   0x2122, 0x161, 0x203A, 0x153, 0x9D, 0x17E, 0x178]

/-- The character that a number stands for. -/
def characterOfNumber (n : Nat) : Char :=
  if n = 0 ∨ 0x10FFFF < n ∨ (0xD800 ≤ n ∧ n ≤ 0xDFFF) then '\uFFFD'
  else if 0x80 ≤ n ∧ n ≤ 0x9F then Char.ofNat (windowsCharacters[n - 0x80]?.getD n)
  else Char.ofNat n

/-- A text without a semicolon at its start. -/
def dropSemicolon : List Char → List Char
  | ';' :: s => s
  | s => s

/-- The character that a number after an ampersand and a number sign stands for. -/
def numericReference? (s : List Char) : Option (List Char × List Char) :=
  let (base, s) : Nat × List Char :=
    match s with
    | 'x' :: s => (16, s)
    | 'X' :: s => (16, s)
    | s => (10, s)
  let isDigit := Digits.isDigitIn base
  let digits := s.takeWhile isDigit
  if digits.isEmpty then none
  else
    some ([characterOfNumber (Digits.ofBase base digits)], dropSemicolon (s.dropWhile isDigit))

/-- The longest old name at the start of a text, among those of at most a given length. -/
def oldReference? (s : List Char) : Nat → Option (List Char × List Char)
  | 0 => none
  | k + 1 =>
      let name := String.ofList (s.take (k + 1))
      if standsAlone name then (namedCharacter? name).map fun chars => (chars, s.drop (k + 1))
      else oldReference? s k

/-- The characters that a name after an ampersand stands for.  In an attribute, an old name that
an equality sign, a letter or a digit follows stands for itself. -/
def namedReference? (inAttribute : Bool) (s : List Char) : Option (List Char × List Char) :=
  let word := s.takeWhile Char.isAlphanum
  let rest := s.drop word.length
  let whole : Option (List Char × List Char) :=
    match rest with
    | ';' :: rest => (namedCharacter? (String.ofList word)).map fun chars => (chars, rest)
    | _ => none
  whole.or <|
    (oldReference? s (min word.length 32)).filter fun r =>
      !(inAttribute && r.2.head?.any fun c => c = '=' || c.isAlphanum)

/-- The characters that a reference stands for whose ampersand has been read. -/
def reference? (inAttribute : Bool) : List Char → Option (List Char × List Char)
  | '#' :: s => numericReference? s
  | s => namedReference? inAttribute s

/-! ### Tags -/

/-- The value of an attribute up to a character at which it stops, and what follows; nothing where
the text ends before. -/
def readValue? (stops : Char → Bool) : Nat → List Char → Option (List Char × List Char)
  | 0, _ => none
  | _, [] => none
  | fuel + 1, c :: s =>
      if stops c then some ([], c :: s)
      else if c = '&' then
        match reference? true s with
        | some (chars, s) => (readValue? stops fuel s).map fun (v, s) => (chars ++ v, s)
        | none => (readValue? stops fuel s).map fun (v, s) => (c :: v, s)
      else (readValue? stops fuel s).map fun (v, s) => (replaceNul c :: v, s)

/-- The value of an attribute whose equality sign has been read, and what follows. -/
def readAttributeValue? (s : List Char) : Option (List Char × List Char) :=
  match s.dropWhile isSpace with
  | '"' :: s => (readValue? (· == '"') (s.length + 1) s).map fun (v, s) => (v, s.drop 1)
  | '\'' :: s => (readValue? (· == '\'') (s.length + 1) s).map fun (v, s) => (v, s.drop 1)
  | s => readValue? (fun c => isSpace c || c == '>') (s.length + 1) s

/-- A character at which the name of an attribute ends. -/
def endsAttributeName (c : Char) : Bool :=
  isSpace c || c == '/' || c == '>' || c == '='

/-- Attributes with one put in front of them, of which a later one of the same name is left
out. -/
def consAttribute (a : Attribute) (rest : List Attribute) : List Attribute :=
  a :: rest.filter fun b => b.name != a.name

/-- The attributes of a tag, whether it closes itself, and what follows the tag; nothing where the
text ends before. -/
def readAttributes? : Nat → List Char → Option (List Attribute × Bool × List Char)
  | 0, _ => none
  | fuel + 1, s =>
      match s.dropWhile isSpace with
      | [] => none
      | '>' :: s => some ([], false, s)
      | '/' :: '>' :: s => some ([], true, s)
      | '/' :: s => readAttributes? fuel s
      | c :: s =>
          let name := (c :: s.takeWhile fun d => !endsAttributeName d).map
            fun d => replaceNul d.toLower
          let rest := s.dropWhile fun d => !endsAttributeName d
          match rest.dropWhile isSpace with
          | '=' :: rest =>
              (readAttributeValue? rest).bind fun (value, rest) =>
                (readAttributes? fuel rest).map fun (attributes, rest) =>
                  (consAttribute ⟨name, value⟩ attributes, rest)
          | _ =>
              (readAttributes? fuel rest).map fun (attributes, rest) =>
                (consAttribute ⟨name, []⟩ attributes, rest)

/-- The name of a tag and what follows it. -/
def readTagName (s : List Char) : String × List Char :=
  let inName (c : Char) : Bool := !(isSpace c || c == '/' || c == '>')
  (String.ofList ((s.takeWhile inName).map fun c => replaceNul c.toLower), s.dropWhile inName)

/-- The tag whose opening mark has been read, and what follows it. -/
def readTag (isEnd : Bool) (s : List Char) : Token × List Char :=
  let (name, s) := readTagName s
  match readAttributes? (s.length + 1) s with
  | some (attributes, selfClosing, rest) =>
      if isEnd then (.endTag name, rest) else (.startTag { name, attributes, selfClosing }, rest)
  | none => (.endOfText, [])

/-- What follows the end of a comment. -/
def afterComment : List Char → List Char
  | [] => []
  | c :: s =>
      match Chars.stripStart? "-->".toList (c :: s) with
      | some rest => rest
      | none =>
          match Chars.stripStart? "--!>".toList (c :: s) with
          | some rest => rest
          | none => afterComment s

/-- What follows a comment whose opening mark has been read. -/
def skipComment (s : List Char) : List Char :=
  match s with
  | '>' :: rest => rest
  | '-' :: '>' :: rest => rest
  | s => afterComment s

/-- What follows the first closing mark of a tag. -/
def afterMark (s : List Char) : List Char :=
  (s.dropWhile (· != '>')).drop 1

/-- What follows a given text up to the case of ASCII letters. -/
def stripName? (name : List Char) (s : List Char) : Option (List Char) :=
  if (s.take name.length).map Char.toLower = name then some (s.drop name.length) else none

/-- The section of plain text whose opening mark has been read, and what follows it. -/
def readSection : List Char → List Char × List Char
  | [] => ([], [])
  | c :: s =>
      match Chars.stripStart? "]]>".toList (c :: s) with
      | some rest => ([], rest)
      | none =>
          let (chars, rest) := readSection s
          (c :: chars, rest)

/-- The token whose first character is an opening mark and an exclamation mark. -/
def readDeclaration (foreign : Bool) (s : List Char) : Token × List Char :=
  match s with
  | '-' :: '-' :: s => (.comment, skipComment s)
  | s =>
      match stripName? "doctype".toList s with
      | some s => (.documentType, afterMark s)
      | none =>
          match if foreign then Chars.stripStart? "[CDATA[".toList s else none with
          | some s =>
              let (chars, rest) := readSection s
              (.text chars, rest)
          | none => (.comment, afterMark s)

/-- The first token of markup, given its first character and what follows. -/
def readMarkup (foreign : Bool) (c : Char) (s : List Char) : Token × List Char :=
  if c = '&' then
    match reference? false s with
    | some (chars, rest) => (.text chars, rest)
    | none => (.text ['&'], s)
  else if c = '<' then
    match s with
    | [] => (.text ['<'], [])
    | d :: s' =>
        if d = '!' then readDeclaration foreign s'
        else if d = '?' then (.comment, afterMark s)
        else if d = '/' then
          match s' with
          | [] => (.text ['<', '/'], [])
          | '>' :: rest => (.text [], rest)
          | e :: _ => if e.isAlpha then readTag true s' else (.comment, afterMark s')
        else if d.isAlpha then readTag false s
        else (.text ['<'], s)
  else (.text [c], s)

/-! ### Plain text in elements -/

/-- What follows the name in an end tag of an element at the start of a text. -/
def endTagAt? (element : String) (s : List Char) : Option (List Char) :=
  match s with
  | '<' :: '/' :: s =>
      (stripName? element.toList s).filter fun rest =>
        rest.head?.any fun c => isSpace c || c == '/' || c == '>'
  | _ => none

/-- The text up to the end tag of an element, and what follows it. -/
def readRaw (element : String) : List Char → List Char × List Char
  | [] => ([], [])
  | c :: s =>
      if (endTagAt? element (c :: s)).isSome then ([], c :: s)
      else
        let (chars, rest) := readRaw element s
        (replaceNul c :: chars, rest)

/-- Where the text of a script stands. -/
inductive ScriptState where
  | plain
  /-- In a hidden comment, after so many hyphens, of which two count. -/
  | hidden (hyphens : Nat)
  /-- In a script inside a hidden comment, after so many hyphens. -/
  | nested (hyphens : Nat)
  deriving DecidableEq, Repr

/-- Whether the name of the script element and its end stand at the start of a text. -/
def startsScript (s : List Char) : Bool :=
  match stripName? "script".toList s with
  | some rest => rest.head?.any fun c => isSpace c || c == '/' || c == '>'
  | none => false

/-- The state of a script after its first character, where a given text follows. -/
def ScriptState.step (state : ScriptState) (c : Char) (s : List Char) : ScriptState :=
  match state with
  | .plain => if c = '<' && "!--".toList.isPrefixOf s then .hidden 0 else .plain
  | .hidden n =>
      if c = '-' then .hidden (min 2 (n + 1))
      else if c = '>' && n == 2 then .plain
      else if c = '<' && startsScript s then .nested 0
      else .hidden 0
  | .nested n =>
      if c = '-' then .nested (min 2 (n + 1))
      else if c = '>' && n == 2 then .plain
      else if c = '<' && (s.head? == some '/') && startsScript (s.drop 1) then .hidden 0
      else .nested 0

/-- The text of a script up to its end tag, and what follows it. -/
def readScript (state : ScriptState) : List Char → List Char × List Char
  | [] => ([], [])
  | c :: s =>
      let ends : Bool := match state with
        | .nested _ => false
        | _ => (endTagAt? "script" (c :: s)).isSome
      if ends then ([], c :: s)
      else
        let (chars, rest) := readScript (state.step c s) s
        (replaceNul c :: chars, rest)

/-- The end tag at the start of a text, or the text before it. -/
def endTagOr (element : String) (s : List Char) (text : Token × List Char) : Token × List Char :=
  if (endTagAt? element s).isSome then readTag true (s.drop 2) else text

/-- The first token of a text and what follows it.  In foreign content a section of plain text is
understood. -/
def nextToken (mode : TextMode) (foreign : Bool) (s : List Char) : Token × List Char :=
  match s with
  | [] => (.endOfText, [])
  | c :: rest =>
      match mode with
      | .markup => readMarkup foreign c rest
      | .plain => (.text (s.map replaceNul), [])
      | .raw element =>
          let (chars, after) := readRaw element s
          endTagOr element s (.text chars, after)
      | .script =>
          let (chars, after) := readScript .plain s
          endTagOr "script" s (.text chars, after)
      | .escapable element =>
          endTagOr element s <|
            if c = '&' then
              match reference? false rest with
              | some (chars, rest) => (.text chars, rest)
              | none => (.text ['&'], rest)
            else (.text [replaceNul c], rest)

end PageMigration.Html
