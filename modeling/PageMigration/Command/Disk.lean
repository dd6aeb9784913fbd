import PageMigration.Encoding.Utf8
import PageMigration.Run.AssetFolder

/-!
# Disks

A disk holds files and folders, of which one is the current folder.  A path in text is a sequence
of names between slashes, from the root or from the current folder.  Every name but the last one
has to lead to a folder, one point stands for the folder itself and two for the one around it.

## Main definitions

* `Disk` : files and folders.
* `Disk.locate` : the place that a path in text leads to.
* `Disk.read`, `Disk.readText`, `Disk.write` : a file at a path.
* `Disk.changes` : what has been written.
* `Disk.assetFolder`, `Disk.store` : a folder of copies at a path.
-/

namespace PageMigration

/-- The names that lead from the root to a file or a folder. -/
abbrev Place := List String

/-- Files and folders.  A folder is there if it is listed, or if something is below it. -/
structure Disk where
  current : Place := []
  files : List (Place × Bytes) := []
  folders : List Place := []
  deriving DecidableEq, Repr

/-- Why a file cannot be read or written. -/
inductive DiskError where
  | notFound
  | notFolder
  | isFolder
  | nameTooLong
  | notText
  deriving DecidableEq, Repr

/-- An error in words. -/
def DiskError.message : DiskError → String
  | notFound => "No such file or directory (os error 2)"
  | notFolder => "Not a directory (os error 20)"
  | isFolder => "Is a directory (os error 21)"
  | nameTooLong => "File name too long (os error 36)"
  | notText => "stream did not contain valid UTF-8"

namespace Disk

/-- Whether there is a file at a place. -/
def hasFile (d : Disk) (place : Place) : Bool :=
  (d.files.lookup place).isSome

/-- Whether there is a folder at a place. -/
def hasFolder (d : Disk) (place : Place) : Bool :=
  place.isPrefixOf d.current || d.folders.any place.isPrefixOf ||
    d.files.any fun f => place.isPrefixOf f.1.dropLast

/-- Whether a name is longer than any file may have. -/
def isTooLong (name : String) : Bool :=
  255 < Chars.byteLength name.toList

/-- The place that names lead to from a place.  There need not be anything at the last name. -/
def walk (d : Disk) : Place → List String → Except DiskError Place
  | place, [] => .ok place
  | place, name :: more =>
      if ¬ d.hasFolder place then .error (if d.hasFile place then .notFolder else .notFound)
      else if name = "" ∨ name = "." then d.walk place more
      else if name = ".." then d.walk place.dropLast more
      else if isTooLong name then .error .nameTooLong
      else d.walk (place ++ [name]) more

/-- The place where a path in text begins. -/
def origin (d : Disk) (path : String) : Place :=
  if Text.startsWith "/" path then [] else d.current

/-- The place that a path in text leads to. -/
def locate (d : Disk) (path : String) : Except DiskError Place :=
  d.walk (d.origin path) (Text.splitOn '/' path)

/-- Whether there is something at a path. -/
def contains (d : Disk) (path : String) : Bool :=
  match d.locate path with
  | .ok place => d.hasFile place || d.hasFolder place
  | .error _ => false

/-- The content of the file at a path. -/
def read (d : Disk) (path : String) : Except DiskError Bytes := do
  let place ← d.locate path
  match d.files.lookup place with
  | some content => .ok content
  | none => .error (if d.hasFolder place then .isFolder else .notFound)

/-- The text of the file at a path. -/
def readText (d : Disk) (path : String) : Except DiskError String := do
  match Utf8.decode? (← d.read path) with
  | some text => .ok (String.ofList text)
  | none => .error .notText

/-- The disk with a file at a place, in place of an earlier one. -/
def put (d : Disk) (place : Place) (content : Bytes) : Disk :=
  if d.hasFile place then
    { d with files := d.files.map fun f => if f.1 = place then (place, content) else f }
  else { d with files := d.files ++ [(place, content)] }

/-- The disk with a file at a path.  A path that ends in a slash is not one of a file. -/
def write (d : Disk) (path : String) (content : Bytes) : Except DiskError Disk := do
  let place ← d.locate (Text.trimEndOf '/' path)
  if Text.endsWith "/" path ∨ d.hasFolder place then .error .isFolder
  else .ok (d.put place content)

/-- The place that names lead to from a place, whatever is on the way. -/
def follow : Place → List String → Place
  | place, [] => place
  | place, name :: more =>
      if name = "" ∨ name = "." then follow place more
      else if name = ".." then follow place.dropLast more
      else follow (place ++ [name]) more

/-- The places on the way that a path in text describes, with its last one. -/
def places (d : Disk) (path : String) : List Place :=
  let place := follow (d.origin path) (Text.splitOn '/' path)
  (List.range (place.length + 1)).map place.take

/-- The path in text that leads to a place from the root. -/
def pathText (place : Place) : String :=
  "/" ++ Text.join "/" place

/-- The files of a disk that another one does not have in the same form. -/
def changes (before after : Disk) : List (Place × Bytes) :=
  after.files.filter fun f => before.files.lookup f.1 != some f.2

/-! ### Folders of copies -/

/-- The place that names lead to where missing folders are made on the way, unless there is a file
in the way. -/
def reach? (d : Disk) : Place → List String → Option Place
  | place, [] => if d.hasFile place then none else some place
  | place, name :: more =>
      if d.hasFile place ∨ isTooLong name then none
      else if name = "" ∨ name = "." then d.reach? place more
      else if name = ".." then d.reach? place.dropLast more
      else d.reach? (place ++ [name]) more

/-- The place of a folder of copies. -/
def assetPlace? (d : Disk) (path : String) : Option Place :=
  d.reach? (d.origin path) (Text.splitOn '/' path)

/-- The name under which something below a folder stands in it. -/
def nameIn? (folder : Place) (place : Place) : Option String :=
  if folder.isPrefixOf place then place[folder.length]? else none

/-- The folder of copies at a path.  The names of folders in it are taken like those of files. -/
def assetFolder (d : Disk) (path : String) : AssetFolder :=
  match d.assetPlace? path with
  | none => { blocked := true }
  | some folder =>
      let files := d.files.filterMap fun f => (nameIn? folder f.1).map fun name => (name, f.2)
      let folders := d.folders.filterMap fun f => (nameIn? folder f).map fun name => (name, [])
      { files := files ++ folders }

/-- The disk with files in the folder of copies at a path. -/
def store (d : Disk) (path : String) (files : List (String × Bytes)) : Disk :=
  match d.assetPlace? path with
  | none => d
  | some folder => files.foldl (fun d (name, content) => d.put (folder ++ [name]) content) d

end Disk

end PageMigration
