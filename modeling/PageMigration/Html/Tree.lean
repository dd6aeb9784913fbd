import PageMigration.Html.Token

/-!
# Trees of markup

A tree holds its nodes in the order in which they were made.  A node knows its parent and its
children; it may be moved, and a node without a parent is not part of the document.  Two texts
that come to stand side by side when a text is added are one text.

## Main definitions

* `Html.Node`, `Html.Tree` : nodes and trees.
* `Html.Tree.append`, `Html.Tree.appendText` : growth at the end of a node.
* `Html.Tree.insertBefore`, `Html.Tree.insertTextBefore` : growth before a node.
* `Html.Tree.descendants` : the nodes below a node, in document order.
-/

namespace PageMigration.Html

/-- The vocabulary that the name of an element belongs to. -/
inductive Vocabulary where
  | html | mathMl | svg
  deriving DecidableEq, Repr

/-- An element. -/
structure Element where
  vocabulary : Vocabulary := .html
  name : String
  attributes : List Attribute := []
  deriving DecidableEq, Repr

/-- What a node is. -/
inductive NodeContent where
  | document
  | element (e : Element)
  /-- A text, the last character first. -/
  | text (reversed : List Char)
  | comment
  /-- The content of a template. -/
  | contents
  deriving Repr

/-- A node with its place in the tree. -/
structure Node where
  content : NodeContent
  parent : Option Nat := none
  children : List Nat := []
  deriving Repr

/-- The nodes of a tree in the order in which they were made. -/
abbrev Tree := Array Node

namespace Tree

/-- The tree with a node changed. -/
def change (t : Tree) (id : Nat) (f : Node → Node) : Tree :=
  t.modify id f

/-- The children of a node. -/
def childrenOf (t : Tree) (id : Nat) : List Nat :=
  (t[id]?.map Node.children).getD []

/-- The parent of a node. -/
def parentOf? (t : Tree) (id : Nat) : Option Nat :=
  t[id]?.bind Node.parent

/-- The element that a node is. -/
def element? (t : Tree) (id : Nat) : Option Element :=
  match t[id]?.map Node.content with
  | some (.element e) => some e
  | _ => none

/-- Whether a node is a text. -/
def isText (t : Tree) (id : Nat) : Bool :=
  match t[id]?.map Node.content with
  | some (.text _) => true
  | _ => false

/-- The tree with a node that has no parent. -/
def make (t : Tree) (content : NodeContent) : Tree × Nat :=
  (t.push { content }, t.size)

/-- The tree with an element that has no parent.  A template gets a node for its content. -/
def makeElement (t : Tree) (e : Element) : Tree × Nat :=
  let id := t.size
  if e.vocabulary = .html ∧ e.name = "template" then
    ((t.push { content := .element e, children := [id + 1] }).push
      { content := .contents, parent := some id }, id)
  else t.make (.element e)

/-- The tree after a node is taken from its parent. -/
def detach (t : Tree) (id : Nat) : Tree :=
  match t.parentOf? id with
  | some p =>
      (t.change p fun n => { n with children := n.children.filter (· != id) }).change id
        fun n => { n with parent := none }
  | none => t

/-- The tree after a node becomes the last child of another. -/
def append (t : Tree) (parent id : Nat) : Tree :=
  ((t.detach id).change parent fun n => { n with children := n.children ++ [id] }).change id
    fun n => { n with parent := some parent }

/-- A list with an item put before another. -/
def putBefore (item before : Nat) : List Nat → List Nat
  | [] => [item]
  | x :: rest => if x = before then item :: x :: rest else x :: putBefore item before rest

/-- The tree after a node is put before another one of the same parent. -/
def insertBefore (t : Tree) (sibling id : Nat) : Tree :=
  let t := t.detach id
  match t.parentOf? sibling with
  | some p =>
      (t.change p fun n => { n with children := putBefore id sibling n.children }).change id
        fun n => { n with parent := some p }
  | none => t

/-- The tree after a character is added to a text. -/
def extendText (t : Tree) (id : Nat) (c : Char) : Tree :=
  t.change id fun n =>
    match n.content with
    | .text reversed => { n with content := .text (c :: reversed) }
    | _ => n

/-- The tree after a character is added at the end of a node. -/
def appendText (t : Tree) (parent : Nat) (c : Char) : Tree :=
  match (t.childrenOf parent).getLast? with
  | some last =>
      if t.isText last then t.extendText last c
      else
        let (t, id) := t.make (.text [c])
        t.append parent id
  | none =>
      let (t, id) := t.make (.text [c])
      t.append parent id

/-- The item before another one of a list. -/
def itemBefore? (item : Nat) : List Nat → Option Nat
  | x :: y :: rest => if y = item then some x else itemBefore? item (y :: rest)
  | _ => none

/-- The tree after a character is added before a node. -/
def insertTextBefore (t : Tree) (sibling : Nat) (c : Char) : Tree :=
  let siblings := ((t.parentOf? sibling).map t.childrenOf).getD []
  match itemBefore? sibling siblings with
  | some before =>
      if t.isText before then t.extendText before c
      else
        let (t, id) := t.make (.text [c])
        t.insertBefore sibling id
  | none =>
      let (t, id) := t.make (.text [c])
      t.insertBefore sibling id

/-- The tree after the children of a node become those of another. -/
def moveChildren (t : Tree) (source target : Nat) : Tree :=
  (t.childrenOf source).foldl (fun t id => t.append target id) t

/-- The nodes below a list of nodes and these nodes themselves, in document order.  The first
argument bounds the depth. -/
def listBelow (t : Tree) : Nat → List Nat → List Nat
  | 0, _ => []
  | depth + 1, ids => ids.flatMap fun id => id :: listBelow t depth (t.childrenOf id)

/-- The nodes below a node, in document order. -/
def descendants (t : Tree) (id : Nat) : List Nat :=
  listBelow t (t.size + 1) (t.childrenOf id)

/-- The text of a node that is one. -/
def text? (t : Tree) (id : Nat) : Option (List Char) :=
  match t[id]?.map Node.content with
  | some (.text reversed) => some reversed.reverse
  | _ => none

/-- The texts below a node, in document order. -/
def texts (t : Tree) (id : Nat) : List (List Char) :=
  (t.descendants id).filterMap t.text?

end Tree

end PageMigration.Html
