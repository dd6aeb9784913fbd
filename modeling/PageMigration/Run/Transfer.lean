import PageMigration.Chars.Lowercase
import PageMigration.Encoding.Percent
import PageMigration.Run.Lookup

/-!
# Files that pages refer to

A link names a file by an address or by a path on the server.  When content moves to another web,
the files of the source web that it links to are copied, and the links lead to the copies.

## Main definitions

* `Link.serverPath`, `Link.lookupPath`, `Link.fileName` : what a link names.
* `Run.transfer` : the link to the copy of a file.
* `Run.linkedFile?` : the file of the source web that a link names.
-/

namespace PageMigration

namespace Link

/-- Whether a link is an address with a scheme of the web. -/
def isAddress (link : String) : Bool :=
  Text.startsWithName "http://" link || Text.startsWithName "https://" link

/-- The path on the server that a link names; a path stays as it is. -/
def serverPath (link : String) : String :=
  let link := Text.trim link
  if isAddress link then
    let afterScheme := match Web.cutScheme? link.toList with
      | some (_, rest) => rest
      | none => link.toList
    let path := afterScheme.dropWhile (· != '/')
    if path.isEmpty then "/" else String.ofList path
  else link

/-- The path under which a link is looked up: without query and fragment. -/
def lookupPath (link : String) : String :=
  withoutQuery (serverPath link)

/-- The name of the file that a link names, with its escapes decoded. -/
def fileName (link : String) : String :=
  Percent.decode (lastSegment (lookupPath link))

/-- Whether a link names a page. -/
def isPage (link : String) : Bool :=
  extensionOf? (lookupPath link) == some "aspx"

end Link

/-- Whether a file of a class may be copied. -/
def AssetClass.isCopied : AssetClass → Bool
  | image | document => true
  | blocked | unsupported => false

/-- The key under which the copy of a file is remembered. -/
def copyKey (path : String) : String :=
  String.ofList (Chars.lowercase path.toList)

/-- The address of the copy that is written of some content, or none if it cannot be written as a
whole. -/
def Run.writeCopy (servedFrom : String) (content : Bytes) (name : String) :
    Run (Option String) := do
  let s ← get
  match s.folder.write content name with
  | .ok (folder, stored) =>
      set { s with folder }
      return some (AssetFolder.location servedFrom stored)
  | .error _ =>
      set { s with folder := s.folder.afterFailure content name }
      return none

/-- The link to the copy of a file.  The link is kept, without the blanks around it, if the file
need not or cannot be copied. -/
def Run.transfer (ctx : Context) (link : String) : Run String := do
  let link := Text.trim link
  if link.isEmpty then return ""
  let path := Link.lookupPath link
  if ¬ (ctx.settings.classify path).isCopied then return link
  if ¬ ctx.isCrossSite then return link
  if ¬ ctx.source.web.containsPath path then return link
  let some servedFrom := ctx.servedFrom | return link
  if let some copy := (← get).copies.get? (copyKey path) then return copy
  let some content ← Run.content? ctx path | return link
  let some copy ← Run.writeCopy servedFrom content (Link.fileName path) | return link
  modify fun s => { s with copies := s.copies.insert (copyKey path) copy }
  return copy

/-- The file of the source web that a link names. -/
def Run.linkedFile? (ctx : Context) (link : String) : Run (Option FileInfo) :=
  let path := Link.lookupPath link
  if path.isEmpty ∨ ¬ ctx.source.web.containsPath path then return none
  else Run.file? ctx path

end PageMigration
