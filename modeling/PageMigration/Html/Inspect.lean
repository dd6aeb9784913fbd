import PageMigration.Chars.Blank
import PageMigration.Html.Rules

/-!
# What markup holds

Questions about fragments of markup: the scripts, images and links in them, and their text.

## Main definitions

* `Html.containsScript` : whether a fragment has a script.
* `Html.images`, `Html.anchors` : the images and the links of a fragment.
* `Html.plainText` : the words of a fragment.
* `Html.isEmptyParagraph` : whether a fragment shows nothing.
-/

namespace PageMigration.Html

/-- The value of an attribute. -/
def Element.attribute? (e : Element) (name : String) : Option String :=
  (e.attributes.find? fun a => a.name == name.toList).map fun a => String.ofList a.value

namespace Tree

/-- The elements of a tree that satisfy a condition, in the order in which they were made. -/
def select (t : Tree) (wanted : Element → Bool) : List (Nat × Element) :=
  (List.range t.size).filterMap fun id =>
    match t.element? id with
    | some e => if (t.parentOf? id).isSome && wanted e then some (id, e) else none
    | none => none

/-- The elements below a node that satisfy a condition, in document order. -/
def selectBelow (t : Tree) (id : Nat) (wanted : Element → Bool) : List (Nat × Element) :=
  (t.descendants id).filterMap fun id =>
    (t.element? id).bind fun e => if wanted e then some (id, e) else none

/-- The text below a node. -/
def textBelow (t : Tree) (id : Nat) : List Char :=
  (t.texts id).flatten

end Tree

/-- An image of a fragment. -/
structure ImageRef where
  src : String
  alt : String
  deriving DecidableEq, Repr

/-- A link of a fragment. -/
structure AnchorRef where
  href : String
  text : String
  deriving DecidableEq, Repr

/-- An image with a source. -/
def isImage (e : Element) : Bool :=
  e.name == "img" && (e.attribute? "src").isSome

/-- An anchor with a target. -/
def isAnchor (e : Element) : Bool :=
  e.name == "a" && (e.attribute? "href").isSome

/-- Whether a fragment has a script. -/
def containsScript (markup : String) : Bool :=
  !Chars.blank markup.toList &&
    !((parseFragment markup).select fun e => e.name == "script").isEmpty

/-- The images of a fragment. -/
def images (markup : String) : List ImageRef :=
  ((parseFragment markup).select isImage).map fun (_, e) =>
    { src := (e.attribute? "src").getD "", alt := (e.attribute? "alt").getD "" }

/-- The links of a fragment. -/
def anchors (markup : String) : List AnchorRef :=
  let t := parseFragment markup
  (t.select isAnchor).map fun (id, e) =>
    { href := (e.attribute? "href").getD "", text := String.ofList (Chars.trim (t.textBelow id)) }

/-- The words of a fragment, with one blank between them. -/
def plainText (markup : String) : String :=
  let t := parseFragment markup
  " ".intercalate (((t.texts rootElement).flatMap Chars.words).map String.ofList)

/-- Elements that show something without text. -/
def isMedia (e : Element) : Bool :=
  ["img", "iframe", "video", "object", "embed"].contains e.name

/-- Whether a fragment shows nothing: no media, and no text but blanks. -/
def isEmptyParagraph (markup : String) : Bool :=
  let t := parseFragment markup
  (t.select isMedia).isEmpty && Chars.blank (t.textBelow rootElement)

end PageMigration.Html
