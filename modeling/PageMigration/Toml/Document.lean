import PageMigration.Toml.Quoted
import PageMigration.Toml.Scalar
import PageMigration.Toml.Tree

/-!
# TOML documents

A document is a sequence of statements, one to a line: assignments of values to paths of keys, and
headers, which say to which table the assignments after them belong.  Comments and empty lines may
stand between statements.  Within arrays and between the braces of tables, line ends and comments
may stand wherever blanks may, and a comma may follow the last element.

## Main definitions

* `Toml.Statement` : a statement.
* `Toml.readValue?` : the value at the start of a text.
* `Toml.readStatements?` : the statements of a text.
* `Toml.ofText?` : the table that a document describes.
-/

namespace PageMigration.Toml

/-! ### Blanks and keys -/

/-- A text without the blanks at its start. -/
def skipBlanks (s : List Char) : List Char :=
  s.dropWhile isBlank

/-- A text without the blanks, line ends and comments at its start.  The first argument says
whether the text starts within a comment. -/
def skipGapFrom? : Bool → List Char → Option (List Char)
  | _, [] => some []
  | _, '\n' :: s => skipGapFrom? false s
  | _, '\r' :: '\n' :: s => skipGapFrom? false s
  | true, c :: s => if isPlain c then skipGapFrom? true s else none
  | false, c :: s =>
      if isBlank c then skipGapFrom? false s
      else if c = '#' then skipGapFrom? true s
      else some (c :: s)

/-- A text without the blanks, line ends and comments at its start. -/
def skipGap? (s : List Char) : Option (List Char) :=
  skipGapFrom? false s

/-- A character of a key without quotes. -/
def isKeyChar (c : Char) : Bool :=
  c.isAlphanum || c = '_' || c = '-'

/-- The key at the start of a text and what follows it. -/
def readKey? (s : List Char) : Option (String × List Char) :=
  match s with
  | '"' :: s => (Quoting.basic.readLine? s).map fun (key, s) => (String.ofList key, s)
  | '\'' :: s => (Quoting.literal.readLine? s).map fun (key, s) => (String.ofList key, s)
  | s =>
      let key := s.takeWhile isKeyChar
      if key.isEmpty then none else some (String.ofList key, s.dropWhile isKeyChar)

/-- The path of keys with dots between them at the start of a text, and what follows it and the
blanks after it.  The first argument bounds the number of keys. -/
def readPathFrom? : Nat → List Char → Option (List String × List Char)
  | 0, _ => none
  | fuel + 1, s =>
      (readKey? (skipBlanks s)).bind fun (key, s) =>
        match skipBlanks s with
        | '.' :: s => (readPathFrom? fuel s).map fun (path, s) => (key :: path, s)
        | s => some ([key], s)

/-- The path of keys at the start of a text. -/
def readPath? (s : List Char) : Option (List String × List Char) :=
  readPathFrom? (s.length + 1) s

/-! ### Values -/

/-- How deep arrays and tables in braces may nest. -/
def deepest : Nat := 80

mutual

/-- The value at the start of a text and what follows it.  The first argument bounds the work,
the second one the nesting. -/
def readValue? : Nat → Nat → List Char → Option (Toml × List Char)
  | 0, _, _ => none
  | fuel + 1, depth, s =>
      match s with
      | '"' :: '"' :: '"' :: s =>
          (Quoting.basic.readLines? s).map fun (text, s) => (.string (String.ofList text), s)
      | '\'' :: '\'' :: '\'' :: s =>
          (Quoting.literal.readLines? s).map fun (text, s) => (.string (String.ofList text), s)
      | '"' :: s =>
          (Quoting.basic.readLine? s).map fun (text, s) => (.string (String.ofList text), s)
      | '\'' :: s =>
          (Quoting.literal.readLine? s).map fun (text, s) => (.string (String.ofList text), s)
      | '[' :: s =>
          match depth with
          | 0 => none
          | depth + 1 => (readElements? fuel depth s).map fun (vs, s) => (.array vs, s)
      | '\x7b' :: s =>
          match depth with
          | 0 => none
          | depth + 1 =>
              (readAssignments? fuel depth s).bind fun (assignments, s) =>
                (ofAssignments? assignments).map fun table => (table, s)
      | s => readScalar? s

/-- The elements of an array up to its end. -/
def readElements? : Nat → Nat → List Char → Option (List Toml × List Char)
  | 0, _, _ => none
  | fuel + 1, depth, s =>
      match skipGap? s with
      | none => none
      | some (']' :: s) => some ([], s)
      | some s =>
          (readValue? fuel depth s).bind fun (v, s) =>
            match skipGap? s with
            | some (',' :: s) => (readElements? fuel depth s).map fun (vs, s) => (v :: vs, s)
            | some (']' :: s) => some ([v], s)
            | _ => none

/-- The assignments between the braces of a table up to its end. -/
def readAssignments? :
    Nat → Nat → List Char → Option (List (List String × Toml) × List Char)
  | 0, _, _ => none
  | fuel + 1, depth, s =>
      match skipGap? s with
      | none => none
      | some ('\x7d' :: s) => some ([], s)
      | some s =>
          (readPath? s).bind fun (path, s) =>
            match s with
            | '=' :: s =>
                (readValue? fuel depth (skipBlanks s)).bind fun (v, s) =>
                  match skipGap? s with
                  | some (',' :: s) =>
                      (readAssignments? fuel depth s).map fun (more, s) => ((path, v) :: more, s)
                  | some ('\x7d' :: s) => some ([(path, v)], s)
                  | _ => none
            | _ => none

end

/-! ### Statements -/

/-- A statement of a document. -/
inductive Statement where
  | assign (path : List String) (value : Toml)
  /-- The header of the table under a name in the table at a path. -/
  | open_ (path : List String) (name : String)
  /-- The header of one more table of a list. -/
  | extend (path : List String) (name : String)

/-- The path and the name in a header. -/
def splitPath? : List String → Option (List String × String)
  | [] => none
  | name :: more => (name :: more).getLast?.map fun last => ((name :: more).dropLast, last)

/-- The statement at the start of a text and what follows it. -/
def readStatement? (s : List Char) : Option (Statement × List Char) :=
  match s with
  | '[' :: '[' :: s => do
      let (path, s) ← readPath? s
      let (path, name) ← splitPath? path
      match s with
      | ']' :: ']' :: s => some (.extend path name, s)
      | _ => none
  | '[' :: s => do
      let (path, s) ← readPath? s
      let (path, name) ← splitPath? path
      match s with
      | ']' :: s => some (.open_ path name, s)
      | _ => none
  | s => do
      let (path, s) ← readPath? s
      match s with
      | '=' :: s =>
          let (value, s) ← readValue? (2 * s.length + 2) deepest (skipBlanks s)
          some (.assign path value, s)
      | _ => none

/-- Whether the line that a text starts in is over, but for a comment. -/
def endsLine (s : List Char) : Bool :=
  match skipBlanks s with
  | [] => true
  | '#' :: _ => true
  | s => (dropLineEnd? s).isSome

/-- The statements of a text.  The first argument bounds their number. -/
def readStatementsFrom? : Nat → List Char → Option (List Statement)
  | 0, _ => none
  | fuel + 1, s =>
      match skipGap? s with
      | none => none
      | some [] => some []
      | some s =>
          (readStatement? s).bind fun (statement, s) =>
            if endsLine s then (readStatementsFrom? fuel s).map (statement :: ·) else none

/-- The statements of a text. -/
def readStatements? (s : List Char) : Option (List Statement) :=
  readStatementsFrom? (s.length + 1) s

/-! ### Documents -/

/-- The root table and the path of the table that assignments go to. -/
structure Draft where
  root : Items := []
  path : List String := []

/-- The draft after a statement. -/
def Draft.add? (d : Draft) : Statement → Option Draft
  | .assign path value => (within? (assign? value path) d.path d.root).map fun root =>
      { d with root }
  | .open_ path name => (within? (open? name) path d.root).map fun root =>
      { root, path := path ++ [name] }
  | .extend path name => (within? (extend? name) path d.root).map fun root =>
      { root, path := path ++ [name] }

/-- The table that statements describe. -/
def ofStatements? (statements : List Statement) : Option Toml :=
  (statements.foldlM Draft.add? {}).map fun d => close d.root

/-- The table that a document describes.  A mark of the byte order before it is passed over. -/
def ofText? (text : String) : Option Toml :=
  let s := match text.toList with
    | '\uFEFF' :: s => s
    | s => s
  (readStatements? s).bind ofStatements?

end PageMigration.Toml
