import PageMigration.Chars.Pattern
import PageMigration.Html.Escape

/-!
# Rich text

Rich text of a classic page is brought into the form that a modern page can show: scripts, styles,
fonts and classes go, bold and italic text gets its modern tags, images and embedded frames go or
leave a placeholder, and empty paragraphs go.

## Main definitions

* `RichText.scriptBlock`, `RichText.styleBlock`, `RichText.fontTag`, `RichText.imageTag`,
  `RichText.frameBlock` : what is taken out.
* `RichText.normalize` : rich text in the modern form.
-/

namespace PageMigration.RichText

open Pattern

/-- The characters up to the end of a tag. -/
def tagRest : Pattern :=
  many (· != '>')

/-- The start tag of an element. -/
def startTag (name : String) : Pattern :=
  all [word "<", word name, edge, tagRest, word ">"]

/-- An element with its content. -/
def block (name : String) : Pattern :=
  all [startTag name, anything, word "</", word name, word ">"]

/-- A script. -/
def scriptBlock : Pattern := block "script"

/-- A style sheet. -/
def styleBlock : Pattern := block "style"

/-- The tags of fonts. -/
def fontTag : Pattern :=
  all [word "<", optional (word "/"), word "font", edge, tagRest, word ">"]

/-- A text in quotes of one kind. -/
def quoted (quote : Char) : Pattern :=
  all [letter quote, many (· != quote), letter quote]

/-- An equality sign between optional blanks. -/
def equals : Pattern :=
  all [many Chars.isBlank, word "=", many Chars.isBlank]

/-- The piece that gives an element classes. -/
def classAttribute : Pattern :=
  all [some_ Chars.isBlank, word "class", equals,
    any [quoted '"', quoted '\'', some_ fun c => !Chars.isBlank c && c != '>']]

/-- The tags of an element without regard to their attributes. -/
def plainTag (name : String) : Pattern :=
  all [word "<", optional (word "/"), word name, optional (seq (one Chars.isBlank) tagRest),
    word ">"]

/-- An image. -/
def imageTag : Pattern := startTag "img"

/-- An embedded frame, with its content or closed at once. -/
def frameBlock : Pattern :=
  either (block "iframe") (all [word "<", word "iframe", edge, tagRest, word "/>"])

/-- The piece that gives an element its source. -/
def sourceAttribute : Pattern :=
  all [one Chars.isBlank, word "src", equals, either (quoted '"') (quoted '\'')]

/-- What an empty paragraph may hold. -/
def emptyContent : Pattern :=
  any [one Chars.isBlank, word "&nbsp;", word "&#160;",
    all [word "<br", many Chars.isBlank, optional (word "/"), word ">"]]

/-- A paragraph without anything to see. -/
def emptyParagraph : Pattern :=
  all [startTag "p", star true emptyContent, word "</p>"]

/-- The tag of another element in place of a start or end tag. -/
def renamed (name : String) (tag : List Char) : List Char :=
  match tag with
  | '<' :: '/' :: _ => '<' :: '/' :: (name.toList ++ ['>'])
  | _ => '<' :: (name.toList ++ ['>'])

/-- The source that a tag names, without its quotes. -/
def sourceOf (tag : List Char) : List Char :=
  match sourceAttribute.find? tag with
  | some piece =>
      ((piece.dropWhile fun c => c != '"' && c != '\'').drop 1).dropLast
  | none => []

/-- What is left in place of media: their kind and source in a paragraph. -/
def placeholder (kind : String) (tag : List Char) : List Char :=
  "<p>[".toList ++ kind.toList ++ ": ".toList ++
    Html.escapeText (Html.unescape (sourceOf tag)) ++ "]</p>".toList

/-- Rich text without scripts, styles, fonts and classes, with modern tags for bold and italic
text. -/
def restyle (s : List Char) : List Char :=
  let s := scriptBlock.removeAll s
  let s := styleBlock.removeAll s
  let s := fontTag.removeAll s
  let s := classAttribute.removeAll s
  let s := (plainTag "b").replaceAll (renamed "strong") s
  (plainTag "i").replaceAll (renamed "em") s

/-- Rich text with its images and frames taken out, or replaced by placeholders. -/
def withoutMedia (usePlaceholders : Bool) (s : List Char) : List Char :=
  if usePlaceholders then
    frameBlock.replaceAll (placeholder "Embed") (imageTag.replaceAll (placeholder "Image") s)
  else frameBlock.removeAll (imageTag.removeAll s)

/-- Rich text in the modern form. -/
def normalize (html : String) (usePlaceholders : Bool) : String :=
  String.ofList <| Chars.trim <| emptyParagraph.removeAll <|
    withoutMedia usePlaceholders (restyle html.toList)

end PageMigration.RichText
