import PageMigration.Html.Tree

/-!
# Building trees of markup

Tokens are put into a tree by rules that depend on the open elements.  The rules close elements
that cannot hold what comes next, reopen formatting elements that were closed by others, and put
content that a table cannot hold before the table.

The state of the construction and its elementary steps are in this file; the rules themselves are
in `PageMigration.Html.Rules`.

## Main definitions

* `Html.Builder` : the state of the construction.
* `Html.Build` : a step that changes the state.
* `Html.Build.insertElement` : a new element at the place for the next node.
* `Html.Build.adopt` : the treatment of a formatting element that ends out of order.
-/

namespace PageMigration.Html

/-- Which rules apply to the next token. -/
inductive InsertionMode where
  | body | text | table | tableText | caption | columnGroup | tableBody | row | cell | select
  | selectInTable | template
  deriving DecidableEq, Repr

/-- A formatting element that is to be reopened, or the start of an element that keeps them
apart. -/
inductive FormattingEntry where
  | marker
  | element (id : Nat) (tag : Tag)
  deriving DecidableEq, Repr

/-- The state of the construction of a tree. -/
structure Builder where
  tree : Tree
  /-- The open elements, the innermost first. -/
  stack : List Nat
  /-- The formatting elements, the latest first. -/
  formatting : List FormattingEntry := []
  mode : InsertionMode := .body
  /-- The mode to go back to after plain text or the text of a table. -/
  returnMode : InsertionMode := .body
  templateModes : List InsertionMode := []
  form : Option Nat := none
  /-- Whether content is put before the table that cannot hold it. -/
  fostering : Bool := false
  /-- The text of a table that is not placed yet, the last character first. -/
  pending : List Char := []
  /-- Whether a line feed that comes next is left out. -/
  skipsNewline : Bool := false
  textMode : TextMode := .markup

/-- A step of the construction. -/
abbrev Build := StateM Builder

/-- A name that is in a list. -/
def Element.isOneOf (e : Element) (names : List String) : Bool :=
  e.vocabulary == .html && names.contains e.name

/-! ### Sets of elements -/

/-- The elements of mathematical markup that hold text of the page. -/
def isMathText (e : Element) : Bool :=
  e.vocabulary == .mathMl && ["mi", "mo", "mn", "ms", "mtext"].contains e.name

/-- The elements of graphics markup that hold markup of the page. -/
def isGraphicsText (e : Element) : Bool :=
  e.vocabulary == .svg && ["foreignobject", "desc", "title"].contains e.name

/-- The elements that bound the search for an open element. -/
def boundsScope (e : Element) : Bool :=
  e.isOneOf ["applet", "caption", "html", "table", "td", "th", "marquee", "object", "template"] ||
    isMathText e || isGraphicsText e

/-- The elements that bound the search for an open list item. -/
def boundsItemScope (e : Element) : Bool :=
  boundsScope e || e.isOneOf ["ol", "ul"]

/-- The elements that bound the search for an open paragraph. -/
def boundsButtonScope (e : Element) : Bool :=
  boundsScope e || e.isOneOf ["button"]

/-- The elements that bound the search for an open part of a table. -/
def boundsTableScope (e : Element) : Bool :=
  e.isOneOf ["html", "table", "template"]

/-- The elements that bound the search for an open selection. -/
def boundsSelectScope (e : Element) : Bool :=
  !e.isOneOf ["optgroup", "option"]

/-- The elements whose end may be left out. -/
def impliedEnds : List String :=
  ["dd", "dt", "li", "option", "optgroup", "p", "rb", "rp", "rt", "rtc"]

/-- The elements whose end may be left out at the end of a template. -/
def allImpliedEnds : List String :=
  impliedEnds ++ ["caption", "colgroup", "tbody", "td", "tfoot", "th", "thead", "tr"]

/-- The elements that end tags of other elements do not close. -/
def isSpecial (e : Element) : Bool :=
  e.isOneOf ["address", "applet", "area", "article", "aside", "base", "basefont", "bgsound",
    "blockquote", "body", "br", "button", "caption", "center", "col", "colgroup", "dd", "details",
    "dir", "div", "dl", "dt", "embed", "fieldset", "figcaption", "figure", "footer", "form",
    "frame", "frameset", "h1", "h2", "h3", "h4", "h5", "h6", "head", "header", "hgroup", "hr",
    "html", "iframe", "img", "input", "isindex", "li", "link", "listing", "main", "marquee",
    "menu", "meta", "nav", "noembed", "noframes", "noscript", "object", "ol", "p", "param",
    "plaintext", "pre", "script", "section", "select", "source", "style", "summary", "table",
    "tbody", "td", "template", "textarea", "tfoot", "th", "thead", "title", "tr", "track", "ul",
    "wbr", "xmp"]

/-- The headings. -/
def headings : List String := ["h1", "h2", "h3", "h4", "h5", "h6"]

namespace Builder

variable (b : Builder)

/-- The element that a node is; the document counts as the root element. -/
def elementOf (id : Nat) : Element :=
  (b.tree.element? id).getD { name := "html" }

/-- The innermost open element. -/
def current : Nat :=
  b.stack.head?.getD 0

/-- The element that the innermost open node is. -/
def currentElement : Element :=
  b.elementOf b.current

/-- Whether the innermost open element has one of several names. -/
def currentIs (names : List String) : Bool :=
  b.currentElement.isOneOf names

/-- Whether an open element satisfies a condition, with no element that bounds the search inside
it. -/
def inScope (bounds : Element → Bool) (wanted : Nat → Element → Bool) : List Nat → Bool
  | [] => false
  | id :: rest =>
      let e := b.elementOf id
      wanted id e || (!bounds e && inScope bounds wanted rest)

/-- Whether an element of a name is open within given bounds. -/
def hasInScope (bounds : Element → Bool) (name : String) : Bool :=
  b.inScope bounds (fun _ e => e.isOneOf [name]) b.stack

/-- Whether an element of a name is open. -/
def hasOpen (name : String) : Bool :=
  b.stack.any fun id => (b.elementOf id).isOneOf [name]

/-- Where the next node goes: at the end of a node, or before a table that has a parent and
otherwise at the end of another node. -/
inductive Place where
  | atEnd (parent : Nat)
  | beforeTable (table above : Nat)

/-- The node that holds what is inside an element: a template has one of its own. -/
def insideOf (id : Nat) : Nat :=
  if (b.elementOf id).isOneOf ["template"] then (b.tree.childrenOf id).head?.getD id else id

/-- The place for content that a table cannot hold. -/
def fosterPlace : List Nat → Place
  | [] => .atEnd (b.stack.getLast?.getD 0)
  | id :: rest =>
      if (b.elementOf id).isOneOf ["template"] then .atEnd (b.insideOf id)
      else if (b.elementOf id).isOneOf ["table"] then .beforeTable id (rest.head?.getD 0)
      else fosterPlace rest

/-- The place for a node that is to go into an element. -/
def placeIn (target : Nat) : Place :=
  if b.fostering &&
      (b.elementOf target).isOneOf ["table", "tbody", "tfoot", "thead", "tr"] then
    b.fosterPlace b.stack
  else .atEnd (b.insideOf target)

/-- The mode that fits the open elements, from the innermost one on. -/
def modeFor : List Nat → InsertionMode
  | [] => .body
  | [_] => .body
  | id :: rest =>
      let e := b.elementOf id
      if e.isOneOf ["select"] then
        match rest.find? fun a => (b.elementOf a).isOneOf ["template", "table"] with
        | some a => if (b.elementOf a).isOneOf ["table"] then .selectInTable else .select
        | none => .select
      else if e.isOneOf ["td", "th"] then .cell
      else if e.isOneOf ["tr"] then .row
      else if e.isOneOf ["tbody", "thead", "tfoot"] then .tableBody
      else if e.isOneOf ["caption"] then .caption
      else if e.isOneOf ["colgroup"] then .columnGroup
      else if e.isOneOf ["table"] then .table
      else if e.isOneOf ["template"] then b.templateModes.head?.getD .body
      else modeFor rest

/-- The mode that fits the open elements. -/
def fittingMode : InsertionMode :=
  b.modeFor b.stack

/-- The formatting entries after the last marker, the latest first. -/
def recentFormatting : List FormattingEntry :=
  b.formatting.takeWhile (· != .marker)

end Builder

namespace Build

/-- The value of a question about the state. -/
def ask {α : Type} (f : Builder → α) : Build α := do
  return f (← get)

/-- The innermost open element is closed. -/
def pop : Build Unit :=
  modify fun b => { b with stack := b.stack.tail }

/-- An element is opened. -/
def push (id : Nat) : Build Unit :=
  modify fun b => { b with stack := id :: b.stack }

/-- The mode changes. -/
def setMode (mode : InsertionMode) : Build Unit :=
  modify fun b => { b with mode }

/-- Open elements without those up to and including the first that satisfies a condition. -/
def dropThrough (p : Nat → Bool) : List Nat → List Nat
  | [] => []
  | id :: rest => if p id then rest else dropThrough p rest

/-- Elements are closed up to and including the first that has one of several names. -/
def popThrough (names : List String) : Build Unit :=
  modify fun b =>
    { b with stack := dropThrough (fun id => (b.elementOf id).isOneOf names) b.stack }

/-- Elements are closed up to the first that has one of several names. -/
def popTo (names : List String) : Build Unit :=
  modify fun b =>
    { b with stack := b.stack.dropWhile fun id => !(b.elementOf id).isOneOf names }

/-- Elements are closed whose end may be left out. -/
def closeImplied (names : List String) : Build Unit :=
  modify fun b => { b with stack := b.stack.dropWhile fun id => (b.elementOf id).isOneOf names }

/-- Elements are closed whose end may be left out, but for those of one name. -/
def closeImpliedExcept (name : String) : Build Unit :=
  closeImplied (impliedEnds.filter (· != name))

/-- An open paragraph is closed. -/
def closeParagraph : Build Unit := do
  closeImpliedExcept "p"
  popThrough ["p"]

/-- An open paragraph that is not outside a button is closed. -/
def closeParagraphInScope : Build Unit := do
  if ← ask (·.hasInScope boundsButtonScope "p") then closeParagraph

/-- A node goes to a place. -/
def put (place : Builder.Place) (id : Nat) : Build Unit :=
  modify fun b =>
    match place with
    | .atEnd parent => { b with tree := b.tree.append parent id }
    | .beforeTable table above =>
        if (b.tree.parentOf? table).isSome then
          { b with tree := b.tree.insertBefore table id }
        else { b with tree := b.tree.append above id }

/-- A new element that has no place yet. -/
def makeElement (e : Element) : Build Nat :=
  modifyGet fun b =>
    let (tree, id) := b.tree.makeElement e
    (id, { b with tree })

/-- A new element at the place for the next node. -/
def insertElement (e : Element) (opens : Bool) : Build Nat := do
  let id ← makeElement e
  let b ← get
  put (b.placeIn b.current) id
  if opens then push id
  return id

/-- A new element for a tag, which is opened. -/
def insertTag (tag : Tag) : Build Unit := do
  let _ ← insertElement { name := tag.name, attributes := tag.attributes } true

/-- A new element for a tag that has no content. -/
def insertEmpty (tag : Tag) : Build Unit := do
  let _ ← insertElement { name := tag.name, attributes := tag.attributes } false

/-- A new element that the text leaves out. -/
def insertMissing (name : String) : Build Unit :=
  insertTag { name }

/-- A new element whose content is plain text. -/
def insertPlain (tag : Tag) (mode : TextMode) : Build Unit := do
  insertTag tag
  modify fun b => { b with returnMode := b.mode, mode := .text, textMode := mode }

/-- A comment at the place for the next node. -/
def insertComment : Build Unit := do
  let id ← modifyGet fun b =>
    let (tree, id) := b.tree.make .comment
    (id, { b with tree })
  let b ← get
  put (b.placeIn b.current) id

/-- A character at the place for the next node. -/
def insertChar (c : Char) : Build Unit :=
  modify fun b =>
    match b.placeIn b.current with
    | .atEnd parent => { b with tree := b.tree.appendText parent c }
    | .beforeTable table above =>
        if (b.tree.parentOf? table).isSome then
          { b with tree := b.tree.insertTextBefore table c }
        else { b with tree := b.tree.appendText above c }

/-! ### Formatting elements -/

/-- An entry that needs no reopening. -/
def isMarkerOrOpen (stack : List Nat) : FormattingEntry → Bool
  | .marker => true
  | .element id _ => stack.contains id

/-- Entries, the earliest first, are reopened one after the other; the reopened ones are
returned, the latest first, before those given. -/
def reopen (done : List FormattingEntry) : List FormattingEntry → Build (List FormattingEntry)
  | [] => return done
  | .marker :: rest => reopen (.marker :: done) rest
  | .element _ tag :: rest => do
      let id ← insertElement { name := tag.name, attributes := tag.attributes } true
      reopen (.element id tag :: done) rest

/-- Formatting elements that were closed by others are reopened. -/
def reopenFormatting : Build Unit := do
  let b ← get
  let closed := b.formatting.takeWhile fun e => !isMarkerOrOpen b.stack e
  if !closed.isEmpty then
    let formatting ← reopen (b.formatting.drop closed.length) closed.reverse
    modify fun b => { b with formatting }

/-- Tags of one element with the same attributes in some order. -/
def sameTag (a b : Tag) : Bool :=
  a.name == b.name && a.attributes.length == b.attributes.length &&
    a.attributes.all fun x => b.attributes.contains x

/-- The place of the earliest entry after the last marker that has a tag like a given one, if
there are at least three. -/
def crowded? (tag : Tag) (entries : List FormattingEntry) : Option Nat :=
  let places := entries.zipIdx.filterMap fun (e, i) =>
    match e with
    | .element _ t => if sameTag tag t then some i else none
    | .marker => none
  if 3 ≤ places.length then places.getLast? else none

/-- A new formatting element.  Of entries alike three at most are kept. -/
def insertFormatting (tag : Tag) : Build Unit := do
  modify fun b =>
    match crowded? tag b.recentFormatting with
    | some i => { b with formatting := b.formatting.eraseIdx i }
    | none => b
  let id ← insertElement { name := tag.name, attributes := tag.attributes } true
  modify fun b => { b with formatting := .element id tag :: b.formatting }

/-- A marker is put after the formatting elements. -/
def addMarker : Build Unit :=
  modify fun b => { b with formatting := .marker :: b.formatting }

/-- The formatting elements up to the last marker are forgotten. -/
def clearToMarker : Build Unit :=
  modify fun b => { b with formatting := (b.formatting.dropWhile (· != .marker)).tail }

/-- The formatting entry of a node. -/
def isEntryOf (id : Nat) : FormattingEntry → Bool
  | .element i _ => i == id
  | .marker => false

/-- A node is no longer a formatting element. -/
def forgetFormatting (id : Nat) : Build Unit :=
  modify fun b => { b with formatting := b.formatting.eraseP (isEntryOf id) }

/-- A node is no longer an open element. -/
def removeOpen (id : Nat) : Build Unit :=
  modify fun b => { b with stack := b.stack.erase id }

/-- Open elements up to the one that an end tag closes, if no special element comes before. -/
def matching? (b : Builder) (name : String) : List Nat → Option (Nat × List Nat)
  | [] => none
  | id :: rest =>
      let e := b.elementOf id
      if e.isOneOf [name] then some (id, rest)
      else if isSpecial e then none
      else matching? b name rest

/-- An end tag closes the innermost element of its name, unless a special element is open
inside. -/
def closeOrdinary (name : String) : Build Unit := do
  let b ← get
  match matching? b name b.stack with
  | some (_, rest) =>
      modify fun b => { b with stack := rest }
  | none => return ()

/-- A list with an item put before another, or at the end. -/
def insertAbove (item below : Nat) : List Nat → List Nat
  | [] => [item]
  | x :: rest => if x = below then item :: x :: rest else x :: insertAbove item below rest

/-- Replacement of the entry of a node. -/
def replaceEntry (id : Nat) (entry : FormattingEntry) (entries : List FormattingEntry) :
    List FormattingEntry :=
  entries.map fun e => if isEntryOf id e then entry else e

/-- Entries with a new one made just after the entry of a node. -/
def insertAfterEntry (id : Nat) (entry : FormattingEntry) :
    List FormattingEntry → List FormattingEntry
  | [] => [entry]
  | e :: rest => if isEntryOf id e then entry :: e :: rest else e :: insertAfterEntry id entry rest

/-- Where the entry of the reopened formatting element goes: in place of the old one, or after
the entry of a node. -/
inductive Bookmark where
  | replace
  | after (id : Nat)

/-- The elements between a formatting element and the block that stays open are reopened around
that block, or closed where they are no formatting elements or too many.  The arguments are the
number of elements seen, the block, the node that holds it so far, the bookmark and the elements
in question, the innermost first. -/
def rewrap (block : Nat) : Nat → Nat → Bookmark → List Nat → Build (Nat × Bookmark)
  | _, last, mark, [] => return (last, mark)
  | seen, last, mark, id :: rest => do
      let b ← get
      match b.formatting.find? (isEntryOf id) with
      | some (.element _ tag) =>
          if 3 ≤ seen then
            forgetFormatting id
            removeOpen id
            rewrap block (seen + 1) last mark rest
          else
            let new ← makeElement { name := tag.name, attributes := tag.attributes }
            modify fun b => { b with
              stack := b.stack.map fun x => if x = id then new else x
              formatting := replaceEntry id (.element new tag) b.formatting }
            let mark := if last = block then .after new else mark
            modify fun b => { b with tree := b.tree.append new last }
            rewrap block (seen + 1) new mark rest
      | _ =>
          removeOpen id
          rewrap block (seen + 1) last mark rest

/-- One round of the treatment of a formatting element that ends out of order; whether another
round is due. -/
def adoptOnce (name : String) : Build Bool := do
  let b ← get
  let entry := b.recentFormatting.find? fun e =>
    match e with
    | .element _ tag => tag.name == name
    | .marker => false
  match entry with
  | some (.element id tag) =>
      if ¬ b.stack.contains id then
        forgetFormatting id
        return false
      else if ¬ b.inScope boundsScope (fun i _ => i == id) b.stack then return false
      else
        let inside := (b.stack.takeWhile (· != id))
        let above := (b.stack.dropWhile (· != id)).tail
        match inside.reverse.find? fun i => isSpecial (b.elementOf i) with
        | none =>
            modify fun b => { b with stack := above }
            forgetFormatting id
            return false
        | some block =>
            let between := (inside.dropWhile (· != block)).tail
            let (last, mark) ← rewrap block 0 block .replace between
            let b ← get
            put (b.placeIn (above.head?.getD 0)) last
            let new ← makeElement { name := tag.name, attributes := tag.attributes }
            modify fun b => { b with
              tree := (b.tree.moveChildren (b.insideOf block) new).append (b.insideOf block) new }
            match mark with
            | .replace =>
                modify fun b => { b with
                  formatting := replaceEntry id (.element new tag) b.formatting }
            | .after i =>
                modify fun b => { b with
                  formatting := insertAfterEntry i (.element new tag) b.formatting }
                forgetFormatting id
            removeOpen id
            modify fun b => { b with stack := insertAbove new block b.stack }
            return true
  | _ =>
      closeOrdinary name
      return false

/-- Several rounds of the treatment of a formatting element that ends out of order. -/
def adoptRounds (name : String) : Nat → Build Unit
  | 0 => return ()
  | rounds + 1 => do
      if ← adoptOnce name then adoptRounds name rounds

/-- The treatment of a formatting element that ends, which may be out of order. -/
def adopt (name : String) : Build Unit := do
  let b ← get
  if b.currentIs [name] && !b.formatting.any (isEntryOf b.current) then pop
  else adoptRounds name 8

/-- An anchor that is still open ends where another begins. -/
def closeOpenAnchor : Build Unit := do
  let b ← get
  let entry := b.recentFormatting.find? fun e =>
    match e with
    | .element id _ => (b.elementOf id).isOneOf ["a"]
    | .marker => false
  match entry with
  | some (.element id _) =>
      adopt "a"
      forgetFormatting id
      removeOpen id
  | _ => return ()

end Build

end PageMigration.Html
