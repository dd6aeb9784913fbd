import PageMigration.Json.Record
import PageMigration.Text

/-!
# Settings

What a transformation may be told: which files are transferred by their extensions, where copies
go, and whether links, look-ups and taxonomy values are treated in a special way.

## Main definitions

* `Settings` : the settings, with their defaults.
* `AssetClass`, `Settings.classify` : what may be done with a file.
* `extensionOf?` : the extension of a path.
* `Settings.ofFields?`, `Settings.ofJson?` : settings read from named values and from JSON.
-/

namespace PageMigration

/-- What may be done with a file. -/
inductive AssetClass where
  | image | document
  /-- Refused. -/
  | blocked
  /-- Neither listed nor refused. -/
  | unsupported
  deriving DecidableEq, Repr

/-- The settings of a transformation. -/
structure Settings where
  /-- Embedded links keep pointing at the source site. -/
  keepLinks : Bool := false
  imageExtensions : List String :=
    ["png", "jpg", "jpeg", "gif", "bmp", "svg", "tif", "tiff", "webp"]
  documentExtensions : List String :=
    ["pdf", "doc", "docx", "xls", "xlsx", "ppt", "pptx", "txt", "csv", "rtf", "mp4", "mp3", "zip",
      "html", "htm"]
  blockedExtensions : List String :=
    ["exe", "dll", "bat", "cmd", "com", "msi", "ps1", "vbs", "js", "asp"]
  /-- The folder in the target web that copies go to. -/
  assetFolder : String := "SiteAssets/migrated"
  cacheLookups : Bool := true
  /-- Taxonomy values that the target has already are replaced. -/
  overwriteTaxonomy : Bool := false
  deriving DecidableEq, Repr

/-- A path without its query and fragment. -/
def withoutQuery (path : String) : String :=
  String.ofList (path.toList.takeWhile fun c => c != '?' && c != '#')

/-- The extension of the last segment of a path, in small letters and without regard to query and
fragment. -/
def extensionOf? (path : String) : Option String :=
  let path := path.toList.takeWhile fun c => c != '?' && c != '#'
  let file := match Chars.cutLast? '/' path with
    | some (_, file) => file
    | none => path
  match Chars.cutLast? '.' file with
  | some (stem, extension) =>
      if stem.isEmpty || extension.isEmpty then none
      else some (String.ofList (Chars.lower extension))
  | none => none

/-- Whether an extension is in a list, whose entries may start with dots. -/
def listsExtension (entries : List String) (extension : String) : Bool :=
  entries.any fun e => Text.sameName (Text.trimStartOf '.' e) extension

/-- What may be done with the file at a path. -/
def Settings.classify (s : Settings) (path : String) : AssetClass :=
  match extensionOf? path with
  | none => .unsupported
  | some extension =>
      if listsExtension s.blockedExtensions extension then .blocked
      else if listsExtension s.imageExtensions extension then .image
      else if listsExtension s.documentExtensions extension then .document
      else .unsupported

namespace Settings

/-- The names under which settings are written. -/
def fieldNames : List String :=
  ["skip_url_rewrite", "image_extensions", "document_extensions", "blocked_extensions",
    "asset_folder", "cache_lookups", "overwrite_taxonomy"]

open Record in
/-- Settings read from named values, where all of them may be missing, with readers for the three
types of settings. -/
def ofFields? {β : Type} (flag : β → Option Bool) (text : β → Option String)
    (texts : β → Option (List String)) (fields : List (String × β)) : Option Settings := do
  let missing : Settings := {}
  let keepLinks ← optional? fields "skip_url_rewrite" flag missing.keepLinks
  let imageExtensions ← optional? fields "image_extensions" texts missing.imageExtensions
  let documentExtensions ← optional? fields "document_extensions" texts missing.documentExtensions
  let blockedExtensions ← optional? fields "blocked_extensions" texts missing.blockedExtensions
  let assetFolder ← optional? fields "asset_folder" text missing.assetFolder
  let cacheLookups ← optional? fields "cache_lookups" flag missing.cacheLookups
  let overwriteTaxonomy ← optional? fields "overwrite_taxonomy" flag missing.overwriteTaxonomy
  some { keepLinks, imageExtensions, documentExtensions, blockedExtensions, assetFolder,
         cacheLookups, overwriteTaxonomy }

/-- Settings in JSON. -/
def ofJson? (json : Json) : Option Settings :=
  (Json.record? fieldNames json).bind
    (ofFields? Json.bool? Json.string? (Json.list? Json.string?))

end Settings

end PageMigration
