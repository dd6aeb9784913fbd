import PageMigration.Xml.Name

/-!
# Tokens of XML

A document is a sequence of tags, texts, comments and instructions.  A document type is refused,
and so is a declaration anywhere but at the start.

## Main definitions

* `Xml.Token` : one token, with texts and values as written.
* `Xml.readToken?` : the token at the start of a text.
* `Xml.tokens?` : the tokens of a document.
-/

namespace PageMigration.Xml

/-- An attribute with its value as written. -/
structure RawAttribute where
  name : QualifiedName
  value : List Char
  deriving DecidableEq, Repr

/-- One token of a document. -/
inductive Token where
  | startTag (name : QualifiedName) (attributes : List RawAttribute) (closed : Bool)
  | endTag (name : QualifiedName)
  | text (raw : List Char)
  | literal (raw : List Char)
  | comment (content : List Char)
  | instruction (target content : List Char)
  deriving DecidableEq, Repr

/-- What a document may hold, up to a given end, and what follows that end. -/
def readUntil? (final : String) (s : List Char) : Option (List Char × List Char) :=
  (Chars.cutAt? final.toList s).filter fun (content, _) => content.all isCharacter

/-- A text without the blanks at its start. -/
def skipSpaces (s : List Char) : List Char :=
  s.dropWhile isSpace

/-! ### Tags -/

/-- The value of an attribute, given what begins with its quote, and what follows. -/
def readQuoted? : List Char → Option (List Char × List Char)
  | [] => none
  | quote :: s =>
      if quote = '"' ∨ quote = '\'' then
        match Chars.cut? quote s with
        | some (value, rest) =>
            if value.all fun c => isCharacter c && c != '<' then some (value, rest) else none
        | none => none
      else none

/-- The attribute at the start of a text and what follows it. -/
def readAttribute? (s : List Char) : Option (RawAttribute × List Char) :=
  (readQualifiedName? s).bind fun (name, s) =>
    match skipSpaces s with
    | '=' :: s => (readQuoted? (skipSpaces s)).map fun (value, s) => (⟨name, value⟩, s)
    | _ => none

/-- The attributes up to the end of a start tag, whether the tag is an end tag as well, and what
follows it.  Each attribute has a blank before it.  The first argument bounds their number. -/
def readAttributes? : Nat → List Char → Option (List RawAttribute × Bool × List Char)
  | 0, _ => none
  | fuel + 1, s =>
      match skipSpaces s with
      | '/' :: '>' :: rest => some ([], true, rest)
      | '>' :: rest => some ([], false, rest)
      | next =>
          if next.length < s.length then
            (readAttribute? next).bind fun (a, rest) =>
              (readAttributes? fuel rest).map fun (as, closed, rest) => (a :: as, closed, rest)
          else none

/-- The start tag after its opening mark and what follows it. -/
def readStartTag? (s : List Char) : Option (Token × List Char) :=
  (readQualifiedName? s).bind fun (name, s) =>
    (readAttributes? (s.length + 1) s).map fun (attributes, closed, s) =>
      (.startTag name attributes closed, s)

/-- The end tag after its opening marks and what follows it. -/
def readEndTag? (s : List Char) : Option (Token × List Char) :=
  (readQualifiedName? s).bind fun (name, s) =>
    match skipSpaces s with
    | '>' :: s => some (.endTag name, s)
    | _ => none

/-! ### Comments, instructions and texts -/

/-- The comment after its opening marks and what follows it.  Two hyphens end a comment. -/
def readComment? (s : List Char) : Option (Token × List Char) :=
  (readUntil? "-->" s).bind fun (content, s) =>
    if Chars.holds "--".toList content || content.getLast? = some '-' then none
    else some (.comment content, s)

/-- The instruction after its opening marks and what follows it. -/
def readInstruction? (s : List Char) : Option (Token × List Char) :=
  if "xml ".toList.isPrefixOf s then none
  else
    (readName? s).bind fun (target, s) =>
      (readUntil? "?>" (skipSpaces s)).map fun (content, s) => (.instruction target content, s)

/-- The text at the start of a document and what follows it. -/
def readText? (s : List Char) : Option (Token × List Char) :=
  let raw := s.takeWhile (· != '<')
  if raw.all isCharacter && !Chars.holds "]]>".toList raw then
    some (.text raw, s.dropWhile (· != '<'))
  else none

/-- The token at the start of a text that is not empty, and what follows it. -/
def readToken? (s : List Char) : Option (Token × List Char) :=
  match s with
  | '<' :: '!' :: '-' :: '-' :: s => readComment? s
  | '<' :: '!' :: s =>
      (Chars.stripStart? "[CDATA[".toList s).bind fun s =>
        (readUntil? "]]>" s).map fun (raw, s) => (.literal raw, s)
  | '<' :: '?' :: s => readInstruction? s
  | '<' :: '/' :: s => readEndTag? s
  | '<' :: s => readStartTag? s
  | s => readText? s

/-! ### Documents -/

/-- A text after the blanks that have to stand at its start, unless a declaration ends there. -/
def skipDeclarationSpaces? (s : List Char) : Option (List Char) :=
  match s with
  | [] => some []
  | '?' :: '>' :: _ => some s
  | c :: _ => if isSpace c then some (skipSpaces s) else none

/-- A text after an attribute of a declaration, if it is the next one. -/
def skipDeclared? (name : String) (s : List Char) : Option (List Char) :=
  if name.toList.isPrefixOf s then (readAttribute? s).map Prod.snd else some s

/-- A document after its declaration, if it begins with one.  The version comes first. -/
def skipDeclaration? (s : List Char) : Option (List Char) :=
  match Chars.stripStart? "<?xml ".toList s with
  | none => some s
  | some s => do
      let s := skipSpaces s
      if ¬ "version".toList.isPrefixOf s then none
      let s ← skipDeclared? "version" s
      let s ← skipDeclarationSpaces? s
      let hasEncoding := "encoding".toList.isPrefixOf s
      let s ← skipDeclared? "encoding" s
      let s ← if hasEncoding then skipDeclarationSpaces? s else some s
      let s ← skipDeclared? "standalone" s
      Chars.stripStart? "?>".toList (skipSpaces s)

/-- The tokens of a text. -/
def tokensFrom? (s : List Char) : Option (List Token) :=
  match s with
  | [] => some []
  | c :: s =>
      match readToken? (c :: s) with
      | some (token, rest) =>
          if rest.length ≤ s.length then (tokensFrom? rest).map (token :: ·) else none
      | none => none
termination_by s.length

/-- The tokens of a document, which may begin with a byte order mark. -/
def tokens? (document : List Char) : Option (List Token) :=
  let s := match document with
    | '\uFEFF' :: s => s
    | s => s
  (skipDeclaration? s).bind tokensFrom?

end PageMigration.Xml
