import PageMigration.Chars.Blank
import PageMigration.Xml.Node

/-!
# Likeness of elements

Two elements are alike if they have the same names, the same attributes in the same order, and
the same texts without the blanks around them, in the same places.  Blank texts, comments and
instructions do not count.

## Main definitions

* `Xml.Node.marks` : what counts of a node, in document order.
* `Xml.Node.alike` : equality of what counts.
* `Xml.Node.firstNamed?` : the first element of a given name.
-/

namespace PageMigration.Xml

/-- One mark of the outline of a tree. -/
inductive Mark where
  | opens (name : String) (attributes : List (String × String))
  | text (content : String)
  | closes
  deriving DecidableEq, Repr

namespace Node

mutual

/-- What counts of a node, in document order. -/
def marks : Node → List Mark
  | .element name attributes children =>
      .opens name attributes :: (marksOfAll children ++ [.closes])
  | .text content =>
      let visible := Chars.trim content.toList
      if visible.isEmpty then [] else [.text (String.ofList visible)]
  | .comment _ => []
  | .instruction .. => []

/-- What counts of nodes, one after the other. -/
def marksOfAll : List Node → List Mark
  | [] => []
  | node :: rest => node.marks ++ marksOfAll rest

end

/-- Equality of what counts of two nodes. -/
def alike (a b : Node) : Bool :=
  a.marks = b.marks

mutual

/-- The first element of a given name, in document order. -/
def firstNamed? (name : String) : Node → Option Node
  | .element n attributes children =>
      if n = name then some (.element n attributes children)
      else firstNamedOfAll? name children
  | _ => none

/-- The first element of a given name at or below one of several nodes. -/
def firstNamedOfAll? (name : String) : List Node → Option Node
  | [] => none
  | node :: rest => (node.firstNamed? name).or (firstNamedOfAll? name rest)

end

end Node

end PageMigration.Xml
