import PageMigration.Encoding.Utf8
import PageMigration.Text

/-!
# The folder of copies

Files that pages refer to are copied into a folder.  A copy never replaces a file: where its name
is taken, it gets the first number that makes the name free.  The file is created under that name
before its content is written, so a write that breaks off leaves the beginning of the content.

## Main definitions

* `AssetFolder` : the files of the folder.
* `AssetFolder.numberedName` : a name with a number in it.
* `AssetFolder.freeName` : the name that a copy gets.
* `AssetFolder.write` : the folder after a copy, and the name of the copy.
* `AssetFolder.afterFailure` : the folder after a copy that failed.
-/

namespace PageMigration

/-- A folder of files.  A blocked folder takes no files. -/
structure AssetFolder where
  files : List (String × Bytes) := []
  blocked : Bool := false
  /-- The names under which no more than some number of bytes can be written.  A name is given to
  one file at most, so this tells of each write whether it breaks off, and where. -/
  limits : List (String × Nat) := []
  deriving DecidableEq, Repr

/-- Why a file was not written. -/
inductive AssetError where
  | refused
  | invalidFileName (name : String)
  deriving DecidableEq, Repr

/-- An error in words. -/
def AssetError.message : AssetError → String
  | .refused => "asset write failed"
  | .invalidFileName name => "invalid asset file name '" ++ name ++ "'"

namespace AssetFolder

/-- A name that a file in a folder cannot have. -/
def isInvalidName (name : String) : Bool :=
  name.isEmpty || name.toList.contains '/' || name.toList.contains '\\' || name == "." ||
    name == ".."

/-- A name that the folder can store: at most 255 bytes, none of them zero. -/
def isStorable (name : String) : Bool :=
  Chars.byteLength name.toList ≤ 255 && !name.toList.contains '\x00'

/-- A name with a number before its extension, or at its end; the number zero is left out. -/
def numberedName (name : String) (number : Nat) : String :=
  if number = 0 then name
  else
    let suffix := "-" ++ toString number
    match Text.cutLast? '.' name with
    | some (stem, extension) =>
        if stem.isEmpty then name ++ suffix else stem ++ suffix ++ "." ++ extension
    | none => name ++ suffix

/-- Whether the folder has a file of a given name. -/
def contains (folder : AssetFolder) (name : String) : Bool :=
  folder.files.any fun f => f.1 == name

/-- The first free name, where the names with numbers below `number` are taken. -/
def freeNameFrom (folder : AssetFolder) (name : String) : Nat → Nat → Except AssetError String
  | 0, _ => .error .refused
  | fuel + 1, number =>
      let candidate := numberedName name number
      if ¬ isStorable candidate then .error .refused
      else if folder.contains candidate then folder.freeNameFrom name fuel (number + 1)
      else .ok candidate

/-- The first free name that the name of a file gives rise to. -/
def freeName (folder : AssetFolder) (fileName : String) : Except AssetError String :=
  let name := Text.trim fileName
  if isInvalidName name then .error (.invalidFileName fileName)
  else if folder.blocked then .error .refused
  else folder.freeNameFrom name (folder.files.length + 1) 0

/-- What is written of some content under a name: all of it, or as much as the limit allows. -/
def written (folder : AssetFolder) (name : String) (content : Bytes) : Bytes :=
  match folder.limits.lookup name with
  | some limit => content.take limit
  | none => content

/-- The folder after a file is written under the first free name that its name gives rise to, and
that name.  A write that breaks off is an error. -/
def write (folder : AssetFolder) (content : Bytes) (fileName : String) :
    Except AssetError (AssetFolder × String) :=
  match folder.freeName fileName with
  | .error e => .error e
  | .ok name =>
      if folder.written name content = content then
        .ok ({ folder with files := folder.files ++ [(name, content)] }, name)
      else .error .refused

/-- The folder after a write that failed.  If the write broke off, the file is there and holds what
was written of it. -/
def afterFailure (folder : AssetFolder) (content : Bytes) (fileName : String) : AssetFolder :=
  match folder.freeName fileName with
  | .error _ => folder
  | .ok name => { folder with files := folder.files ++ [(name, folder.written name content)] }

/-- The address of a file in a folder that is served from a given path. -/
def location (servedFrom name : String) : String :=
  Text.trimEndOf '/' servedFrom ++ "/" ++ name

end AssetFolder

end PageMigration
