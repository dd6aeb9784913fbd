import PageMigration.Chars.Case
import PageMigration.Xml.Reference

/-!
# Outlines of XML

Files written by hand are read with less care than documents: a file is read up to the end of its
first element, names may be of any form, and the attributes of an element are only read when they
are asked for.  Comments, instructions and document types are passed over.

## Main definitions

* `Xml.Item` : an element or a text.
* `Xml.outlineOf?` : the first element of a file.
* `Xml.rawAttributes?` : the attributes of an element.
* `Xml.unescape?` : the value of an attribute.
-/

namespace PageMigration.Xml

/-! ### References -/

/-- The character that a number stands for, if there is one. -/
def scalarOfDigits? (base : Nat) (digits : List Char) : Option Char :=
  if digits.isEmpty || !digits.all (Digits.isDigitIn base) then none
  else
    let n := Digits.ofBase base digits
    if n = 0 ∨ ¬ n.isValidChar then none else some (Char.ofNat n)

/-- The character that a reference stands for, given what is between its ampersand and its
semicolon. -/
def referredCharacter? : List Char → Option Char
  | '#' :: 'x' :: digits => scalarOfDigits? 16 digits
  | '#' :: digits => scalarOfDigits? 10 digits
  | name => namedCharacter? name

/-- What is between an ampersand and its semicolon, and what follows it. -/
def readReferenceBody? (s : List Char) : Option (List Char × List Char) :=
  (Chars.cut? ';' s).filter fun (body, _) => !body.contains '&'

/-- A text with its references resolved.  The first argument bounds the number of characters. -/
def unescapeFrom? : Nat → List Char → Option (List Char)
  | _, [] => some []
  | 0, _ :: _ => none
  | fuel + 1, c :: s =>
      if c = '&' then do
        let (body, rest) ← readReferenceBody? s
        let c ← referredCharacter? body
        let rest ← unescapeFrom? fuel rest
        some (c :: rest)
      else (unescapeFrom? fuel s).map (c :: ·)

/-- The value of an attribute with its references resolved. -/
def unescape? (s : List Char) : Option String :=
  (unescapeFrom? s.length s).map String.ofList

/-! ### Attributes -/

/-- Attributes with their values as written, after attributes of the names `seen`.  No two have
one name.  The first argument bounds their number. -/
def rawAttributesFrom? (seen : List (List Char)) :
    Nat → List Char → Option (List (List Char × List Char))
  | 0, _ => none
  | fuel + 1, s =>
      match s.dropWhile isSpace with
      | [] => some []
      | first :: s => do
          let stops (c : Char) : Bool := c == '=' || isSpace c
          let name := first :: s.takeWhile fun c => !stops c
          let rest ← Chars.stripStart? ['='] ((s.dropWhile fun c => !stops c).dropWhile isSpace)
          if seen.contains name then none
          let (value, rest) ← match rest.dropWhile isSpace with
            | '"' :: rest => Chars.cut? '"' rest
            | '\'' :: rest => Chars.cut? '\'' rest
            | _ => none
          let more ← rawAttributesFrom? (name :: seen) fuel rest
          some ((name, value) :: more)

/-- The attributes in the tag of an element, with their values as written. -/
def rawAttributes? (tag : List Char) : Option (List (List Char × List Char)) :=
  rawAttributesFrom? [] (tag.length + 1) tag

/-! ### Items -/

/-- A part of a file. -/
inductive Item where
  /-- An element with what its tag holds after the name. -/
  | element (name tag : List Char) (children : List Item)
  /-- A text, or nothing if a reference in it stands for no character. -/
  | text (content : Option (List Char))
  deriving Repr

/-- Whether an item is a text of nothing but blanks. -/
def Item.isBlank : Item → Bool
  | .text (some content) => content.all isSpace
  | _ => false

/-- What a piece of a file is. -/
inductive Piece where
  | opening (name tag : List Char) (closed : Bool)
  | closing (name : List Char)
  | text (content : Option (List Char))
  | passedOver
  deriving Repr

/-- What is in a tag, up to the first closing bracket outside quotes, and what follows it. -/
def readTag? (quote : Option Char) : List Char → Option (List Char × List Char)
  | [] => none
  | c :: s =>
      match quote with
      | some q => (readTag? (if c = q then none else quote) s).map fun (t, r) => (c :: t, r)
      | none =>
          if c = '>' then some ([], s)
          else
            let quote := if c = '"' ∨ c = '\'' then some c else none
            (readTag? quote s).map fun (t, r) => (c :: t, r)

/-- The opening tag after its bracket, and what follows it. -/
def readOpening? (s : List Char) : Option (Piece × List Char) :=
  (readTag? none s).map fun (content, rest) =>
    let closed := content.getLast? = some '/'
    let content := if closed then content.dropLast else content
    let inName (c : Char) : Bool := !isSpace c
    (.opening (content.takeWhile inName) (content.dropWhile inName) closed, rest)

/-- The closing tag after its bracket and slash, and what follows it. -/
def readClosing? (s : List Char) : Option (Piece × List Char) :=
  (readTag? none s).map fun (name, rest) => (.closing (Chars.trimEndWhere isSpace name), rest)

/-- What follows the declarations of a document type, after the bracket that begins them.  The
first argument bounds their number. -/
def skipDeclarations? : Nat → List Char → Option (List Char)
  | 0, _ => none
  | fuel + 1, s =>
      match s.dropWhile fun c => c != ']' && c != '<' with
      | [] => none
      | '<' :: '!' :: '-' :: '-' :: s =>
          (Chars.cutAt? "-->".toList s).bind fun (_, s) => skipDeclarations? fuel s
      | '<' :: '?' :: s => (Chars.cutAt? "?>".toList s).bind fun (_, s) => skipDeclarations? fuel s
      | '<' :: s => (readTag? none s).bind fun (_, s) => skipDeclarations? fuel s
      | _ :: s => some s

/-- What follows a document type, after its keyword.  It has a name. -/
def skipDocumentType? (s : List Char) : Option (List Char) :=
  let ends (c : Char) : Bool := c == '>' || c == '['
  let before := s.takeWhile fun c => !ends c
  match s.dropWhile fun c => !ends c with
  | '>' :: rest => if before.all isSpace then none else some rest
  | '[' :: rest =>
      (skipDeclarations? (rest.length + 1) rest).bind fun rest =>
        (Chars.cut? '>' rest).map Prod.snd
  | _ => none

/-- The piece at the start of a text that is not empty, and what follows it. -/
def readPiece? (s : List Char) : Option (Piece × List Char) :=
  match s with
  | '<' :: '!' :: '-' :: '-' :: s =>
      (Chars.cutAt? "-->".toList s).map fun (_, s) => (.passedOver, s)
  | '<' :: '!' :: '[' :: s =>
      (Chars.stripStart? "CDATA[".toList s).bind fun s =>
        (Chars.cutAt? "]]>".toList s).map fun (content, s) => (.text (some content), s)
  | '<' :: '!' :: s =>
      if Chars.lower (s.take 7) = "doctype".toList then
        (skipDocumentType? (s.drop 7)).map fun s => (.passedOver, s)
      else none
  | '<' :: '?' :: '>' :: _ => none
  | '<' :: '?' :: s => (Chars.cutAt? "?>".toList s).map fun (_, s) => (.passedOver, s)
  | '<' :: '/' :: s => readClosing? s
  | '<' :: s => readOpening? s
  | '&' :: s =>
      (readReferenceBody? s).bind fun (body, s) =>
        if body.contains '<' then none
        else some (.text ((referredCharacter? body).map fun c => [c]), s)
  | s =>
      let inText (c : Char) : Bool := c != '<' && c != '&'
      some (.text (some (s.takeWhile inText)), s.dropWhile inText)

/-- An element whose end has not been read, with what it holds so far, the last item first. -/
structure OpenItem where
  name : List Char
  tag : List Char
  reversed : List Item := []

/-- The element with what it holds. -/
def OpenItem.close (e : OpenItem) : Item :=
  .element e.name e.tag e.reversed.reverse

/-- Items, the last one first, after one more.  Texts that touch are one text. -/
def pushItem (item : Item) (reversed : List Item) : List Item :=
  match item, reversed with
  | .text b, .text a :: rest => .text (a.bind fun a => b.map (a ++ ·)) :: rest
  | item, reversed => item :: reversed

/-- What reading goes on with after a piece: the open elements, or the first element of the file
once it has ended. -/
inductive Progress where
  | going (path : List OpenItem)
  | done (root : Item)

/-- The open elements after an item is added to the innermost one. -/
def addItem? (item : Item) : List OpenItem → Option Progress
  | e :: path => some (.going ({ e with reversed := pushItem item e.reversed } :: path))
  | [] =>
      match item with
      | .element .. => some (.done item)
      | .text _ => if item.isBlank then some (.going []) else none

/-- What reading goes on with after a piece. -/
def afterPiece? (path : List OpenItem) : Piece → Option Progress
  | .opening name tag closed =>
      let e : OpenItem := { name, tag }
      if closed then addItem? e.close path else some (.going (e :: path))
  | .closing name =>
      match path with
      | e :: path => if e.name = name then addItem? e.close path else none
      | [] => none
  | .text content => addItem? (.text content) path
  | .passedOver => some (.going path)

/-- The first element of a text, given the elements that are open. -/
def outlineFrom? (path : List OpenItem) (s : List Char) : Option Item :=
  match s with
  | [] => none
  | c :: s =>
      match readPiece? (c :: s) with
      | none => none
      | some (piece, rest) =>
          match afterPiece? path piece with
          | none => none
          | some (.done root) => some root
          | some (.going path) => if rest.length ≤ s.length then outlineFrom? path rest else none
termination_by s.length

/-- The first element of a file, which may begin with a byte order mark. -/
def outlineOf? (file : String) : Option Item :=
  match file.toList with
  | '\uFEFF' :: s => outlineFrom? [] s
  | s => outlineFrom? [] s

end PageMigration.Xml
