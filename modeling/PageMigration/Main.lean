import PageMigration.Command.Program

/-!
# The command line

The program is run on what is known of the disk: the files and folders that its arguments name.
Where it would write a file, the disk is looked at first; if something is there already, the
program is run again with that known.
-/

namespace PageMigration.CommandLine

/-- What is at a place: a file, a folder or nothing. -/
inductive Found where
  | file (content : Bytes)
  | folder
  | nothing

/-- What is at a place. -/
def find (place : Place) : IO Found := do
  match ← (IO.FS.Handle.mk (Disk.pathText place) .read).toBaseIO with
  | .error _ => return .nothing
  | .ok handle =>
      match ← handle.readBinToEnd.toBaseIO with
      | .error _ => return .folder
      | .ok content => return .file content.toList

/-- The disk with what is at a place. -/
def look (disk : Disk) (place : Place) : IO Disk := do
  if disk.hasFile place || disk.hasFolder place then return disk
  match ← find place with
  | .file content => return disk.put place content
  | .folder => return { disk with folders := disk.folders ++ [place] }
  | .nothing => return disk

/-- The disk with what is at the places on the way to a path. -/
def lookAlong (disk : Disk) (path : String) : IO Disk :=
  (disk.places path).foldlM look disk

/-- The disk before the program and what the program does, once no file that it would write is
there without being known. -/
partial def settle (usualConfiguration : Option String) (arguments : List String) (disk : Disk) :
    IO (Disk × ProgramResult) := do
  let result := Program.run disk usualConfiguration arguments
  let known ← ((disk.changes result.disk).map Prod.fst).foldlM look disk
  if known = disk then return (disk, result) else settle usualConfiguration arguments known

/-- A file is written, together with the folders that it lies in. -/
def save (place : Place) (content : Bytes) : IO Unit := do
  IO.FS.createDirAll (Disk.pathText place.dropLast)
  IO.FS.writeBinFile (Disk.pathText place) ⟨content.toArray⟩

/-- The path of the usual configuration file. -/
def usualConfiguration? : IO (Option String) := do
  let home := (← IO.getEnv "HOME").map fun home => home ++ "/.config"
  let folder := ((← IO.getEnv "XDG_CONFIG_HOME").filter (Text.startsWith "/")).or home
  return folder.map fun folder => folder ++ "/" ++ Request.programName ++ "/config.toml"

/-- The program with its arguments. -/
def run (arguments : List String) : IO UInt32 := do
  let usual ← usualConfiguration?
  let current := Disk.follow [] (Text.splitOn '/' (← IO.currentDir).toString)
  let paths := (Request.ofArguments arguments).paths usual
  let disk ← paths.foldlM lookAlong { current }
  let (before, result) ← settle usual arguments disk
  for (place, content) in before.changes result.disk do
    save place content
  IO.print result.output
  IO.eprint result.complaint
  return UInt32.ofNat result.exitCode

end PageMigration.CommandLine

/-- The program. -/
def main (arguments : List String) : IO UInt32 :=
  PageMigration.CommandLine.run arguments
