import PageMigration.WebPart.PropertyBag

/-!
# Content units

A content unit is one web part of a page, or the fields of a publishing page, while it is being
moved: its type, the kind of part it came from, and its properties.

## Main definitions

* `WebPartKind` : the kinds of web part.
* `ContentUnit` : a part with its properties.
-/

namespace PageMigration

/-- The kind of part that a unit came from. -/
inductive WebPartKind where
  /-- A part rendered by the server, with a fixed set of properties. -/
  | classic
  /-- A part rendered by scripts in the page. -/
  | clientSide
  /-- A part that another host renders. -/
  | addIn
  deriving DecidableEq, Repr

/-- Parts that tolerate placeholders that their mapping does not declare. -/
def WebPartKind.isLooselyTyped : WebPartKind → Bool
  | classic => false
  | clientSide | addIn => true

/-- One web part, or the fields of one page. -/
structure ContentUnit where
  typeName : String
  kind : WebPartKind := .classic
  properties : PropertyBag := {}
  deriving DecidableEq, Repr

end PageMigration
