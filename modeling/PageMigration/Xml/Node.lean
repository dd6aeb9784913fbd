import PageMigration.Xml.Reference
import PageMigration.Xml.Token

/-!
# Trees of XML

A document is a tree of elements, with texts, comments and instructions below them.  Qualifiers
have to be bound to namespaces, and the names in the tree are those without qualifiers.  Texts
that touch are one text.

## Main definitions

* `Xml.Node` : an element, a text, a comment or an instruction.
* `Xml.Bindings` : the namespaces that qualifiers stand for.
* `Xml.rootOf?` : the element that a document consists of.
-/

namespace PageMigration.Xml

/-- A node of a tree. -/
inductive Node where
  /-- An element: the part of its name after the colon, its attributes by the same part of
  theirs, and what it holds. -/
  | element (name : String) (attributes : List (String × String)) (children : List Node)
  | text (content : String)
  | comment (content : String)
  | instruction (target content : String)
  deriving Repr

instance : Inhabited Node := ⟨.text ""⟩

/-- Whether a node is an element. -/
def Node.isElement : Node → Bool
  | .element .. => true
  | _ => false

/-! ### Namespaces -/

/-- The namespaces of qualifiers, the innermost binding first.  The empty qualifier stands for
names without one. -/
abbrev Bindings := List (String × String)

/-- The namespace of the qualifier `xml`. -/
def xmlNamespace : String := "http://www.w3.org/XML/1998/namespace"

/-- The namespace of the qualifier `xmlns`. -/
def bindingNamespace : String := "http://www.w3.org/2000/xmlns/"

/-- An attribute with its value, which binds no qualifier. -/
structure PlainAttribute where
  name : QualifiedName
  value : String
  deriving DecidableEq, Repr

/-- The bindings and the other attributes that a tag has. -/
structure TagAttributes where
  bindings : Bindings := []
  plain : List PlainAttribute := []

/-- The attributes of a tag after one more.  The reserved namespaces cannot be bound to other
qualifiers, and no qualifier is bound twice. -/
def TagAttributes.add? (t : TagAttributes) (name : QualifiedName) (value : String) :
    Option TagAttributes :=
  if name.qualifier = "xmlns" then
    if value = bindingNamespace ∨ (name.name = "xml") ≠ (value = xmlNamespace) ∨
        t.bindings.any (·.1 == name.name) then
      none
    else if value = xmlNamespace then some t
    else some { t with bindings := t.bindings ++ [(name.name, value)] }
  else if name.name = "xmlns" then
    if value = xmlNamespace ∨ value = bindingNamespace then none
    else some { t with bindings := t.bindings ++ [("", value)] }
  else some { t with plain := t.plain ++ [⟨name, value⟩] }

/-- The attributes of a tag as written, sorted into bindings and others. -/
def TagAttributes.ofRaw? (t : TagAttributes) : List RawAttribute → Option TagAttributes
  | [] => some t
  | a :: rest => do
      let value ← attributeOf? a.value
      let t ← t.add? a.name (String.ofList value)
      t.ofRaw? rest

/-- The namespace of an attribute: none without a qualifier. -/
def attributeNamespace? (bindings : Bindings) (qualifier : String) : Option (Option String) :=
  if qualifier = "xml" then some (some xmlNamespace)
  else if qualifier.isEmpty then some none
  else (bindings.lookup qualifier).map some

/-- Attributes by their names without qualifiers.  Two attributes of one name in one namespace
are refused; `seen` are the names of the attributes before. -/
def resolveAttributes? (bindings : Bindings) (seen : List (Option String × String)) :
    List PlainAttribute → Option (List (String × String))
  | [] => some []
  | a :: rest => do
      let uri ← attributeNamespace? bindings a.name.qualifier
      if seen.contains (uri, a.name.name) then none
      let rest ← resolveAttributes? bindings ((uri, a.name.name) :: seen) rest
      some ((a.name.name, a.value) :: rest)

/-! ### Documents -/

/-- An element whose end has not been read. -/
structure OpenElement where
  name : QualifiedName
  attributes : List (String × String)
  bindings : Bindings
  /-- What it holds so far, the last node first. -/
  reversed : List Node := []

/-- The element with what it holds. -/
def OpenElement.close (e : OpenElement) : Node :=
  .element e.name.name e.attributes e.reversed.reverse

/-- What has been read of a document: its root if that has ended, and the open elements, the
innermost first. -/
structure Reading where
  root : Option Node := none
  path : List OpenElement := []

namespace Reading

/-- The reading after a node is added to the innermost element, or becomes the root. -/
def add? (r : Reading) (node : Node) : Option Reading :=
  match r.path with
  | e :: path => some { r with path := { e with reversed := node :: e.reversed } :: path }
  | [] =>
      if node.isElement then
        if r.root.isSome then none else some { r with root := some node }
      else some r

/-- The reading after a text; it joins a text right before it. -/
def addText (r : Reading) (content : List Char) : Reading :=
  match r.path with
  | e :: path =>
      let reversed := match e.reversed with
        | .text before :: rest => .text (before ++ String.ofList content) :: rest
        | nodes => .text (String.ofList content) :: nodes
      { r with path := { e with reversed } :: path }
  | [] => r

/-- The reading after a start tag.  A document has one root. -/
def open? (r : Reading) (name : QualifiedName) (attributes : List RawAttribute) (closed : Bool) :
    Option Reading := do
  if name.qualifier = "xmlns" ∨ (r.path.isEmpty ∧ r.root.isSome) then none
  let tag ← ({} : TagAttributes).ofRaw? attributes
  let outer := match r.path with
    | e :: _ => e.bindings
    | [] => []
  let bindings := tag.bindings ++ outer
  let attributes ← resolveAttributes? bindings [] tag.plain
  if ¬ name.qualifier.isEmpty ∧ (bindings.lookup name.qualifier).isNone then none
  let e : OpenElement := { name, attributes, bindings }
  if closed then r.add? e.close else some { r with path := e :: r.path }

/-- The reading after an end tag, which closes the innermost element. -/
def close? (r : Reading) (name : QualifiedName) : Option Reading :=
  match r.path with
  | e :: path => if e.name = name then { r with path }.add? e.close else none
  | [] => none

/-- The reading after a token.  Outside the root there is no text but blanks. -/
def step? (r : Reading) : Token → Option Reading
  | .startTag name attributes closed => r.open? name attributes closed
  | .endTag name => r.close? name
  | .text raw =>
      if r.path.isEmpty then if raw.all isSpace then some r else none
      else (textOf? raw).map r.addText
  | .literal raw => if r.path.isEmpty then none else some (r.addText (literalText raw))
  | .comment content => r.add? (.comment (String.ofList content))
  | .instruction target content =>
      r.add? (.instruction (String.ofList target) (String.ofList content))

/-- The reading after tokens. -/
def steps? (r : Reading) : List Token → Option Reading
  | [] => some r
  | t :: rest => (r.step? t).bind fun r => r.steps? rest

end Reading

/-- The element that a document consists of. -/
def rootOf? (document : String) : Option Node := do
  let tokens ← tokens? document.toList
  let reading ← ({} : Reading).steps? tokens
  if reading.path.isEmpty then reading.root else none

end PageMigration.Xml
