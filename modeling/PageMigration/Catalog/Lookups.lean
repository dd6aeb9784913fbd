import PageMigration.Catalog.Entry
import PageMigration.Run.ListUse
import PageMigration.Run.Person
import PageMigration.Run.Transfer

/-!
# Functions that look things up

Functions that ask the source for files, lists and people.  What is not found leaves no
properties.

## Main definitions

* `Catalog.fileProperties`, `Catalog.documentProperties`, `Catalog.mediaProperties` : files.
* `Catalog.viewProperty`, `Catalog.personProperties` : views and people.
* `Catalog.lookupEntries` : the functions.
-/

namespace PageMigration.Catalog

/-- The text of the file that a link names: empty for pages and for files outside the source web,
and without marks of the byte order at its start. -/
def linkedText (ctx : Context) (link : String) : Run String := do
  let path := Link.lookupPath link
  if path.isEmpty || Link.isPage link || !ctx.source.web.containsPath path then return ""
  let content ← Run.content? ctx path
  return String.ofList ((Utf8.decodeLossy (content.getD [])).dropWhile (· == '\uFEFF'))

/-- The link behind an image: a link to an image leads to its copy, another one is redirected. -/
def imageAnchor (ctx : Context) (link : String) : Run String :=
  if Text.isBlank link then return ""
  else if ctx.settings.classify (Link.lookupPath link) = .image then Run.transfer ctx link
  else return ctx.mapLinks link

/-- The list, the identifier and the link of a file, in properties whose names begin with its
kind. -/
def fileProperties (kind : String) (ctx : Context) (link : String) : Run Output := do
  let some file ← Run.linkedFile? ctx link | return .map []
  let url ← Run.transfer ctx link
  return .map [(kind ++ "ListId", file.listId.text), (kind ++ "UniqueId", file.uniqueId.text),
    (kind ++ "Url", url)]

/-- The author of a file by the login at the target. -/
def fileAuthor (ctx : Context) (file : FileInfo) : String :=
  if file.authorLogin.isEmpty then "" else ctx.users.apply file.authorLogin

/-- The properties of an embedded document.  A page cannot be embedded. -/
def documentProperties (ctx : Context) (link : String) :
    Run (Except PolicyViolation Output) := do
  if Link.isPage link then return .error (.pageNotAvailable link)
  let some file ← Run.linkedFile? ctx link | return .ok (.map [])
  return .ok <| .map [("DocumentAuthor", fileAuthor ctx file),
    ("DocumentAuthorName", file.authorName), ("DocumentListId", file.listId.text),
    ("DocumentUniqueId", file.uniqueId.text)]

/-- The properties of a file with media, without which nothing can be played. -/
def mediaProperties (ctx : Context) (link : String) : Run (Except PolicyViolation Output) := do
  if Text.isBlank link then return .error (.mediaSourceMissing "MediaWebPart")
  return .ok (← fileProperties "Media" ctx link)

/-- One property of a list, if there is a list. -/
def listProperty (name : String) (value : SiteList → String) (list : Option SiteList) : Output :=
  .map (list.toList.map fun l => (name, value l))

/-- The view of a list that shows the same data as a description. -/
def viewProperty (description : String) (list : Option SiteList) : Output :=
  .map (((list.bind fun l => l.viewShowing? description).toList).map fun view =>
    ("ListViewId", view.id.text))

/-- What is known about a person. -/
def personProperties : Option Person → Output
  | some p => .map [("PersonDepartment", p.department), ("PersonEmail", p.email),
      ("PersonIsGroup", boolText p.isGroup), ("PersonName", p.name), ("PersonPhone", p.phone),
      ("PersonRole", p.role), ("PersonSip", p.sip), ("PersonUPN", p.login)]
  | none => .map []

/-- Functions that ask the source for files, lists and people. -/
def lookupEntries : List Entry :=
  [ { name := "ReturnCrossSiteRelativePath"
      description :=
        "Copies an image or document to the target site when transforming across sites and " ++
        "returns its new location. Same-site, blocked or missing assets keep their original " ++
        "link."
      sample := "ReturnCrossSiteRelativePath(\x7bImageUrl\x7d)"
      parameters := [⟨"path", .string, "Url of the asset"⟩]
      returns := "Url of the asset on the target site"
      body := .ofRun fun ctx args => return .text (← Run.transfer ctx (args.text 0)) },
    { name := "LoadContentFromFile"
      description := "Loads the text content of a file linked from a content editor."
      sample := "\x7bText\x7d = LoadContentFromFile(\x7bContentLink\x7d)"
      parameters := [⟨"contentLink", .string, "Server relative url of the file"⟩]
      returns := "File content, empty when it cannot be loaded"
      body := .ofRun fun ctx args => return .text (← linkedText ctx (args.text 0)) },
    { name := "ImageLookup"
      description :=
        "Looks up the list and unique id of an image in the source site and transfers it " ++
        "when needed."
      sample := "ImageLookup(\x7bImageUrl\x7d)"
      parameters := [⟨"serverRelativeImagePath", .string, "Server relative url of the image"⟩]
      returns := "ImageListId, ImageUniqueId and ImageUrl"
      body := .ofRun fun ctx args => fileProperties "Image" ctx (args.text 0) },
    { name := "ImageAnchorUrlRewrite"
      description :=
        "Rewrites the link an image points to. Links to images are transferred like the " ++
        "image itself."
      sample := "\x7bAnchor\x7d = ImageAnchorUrlRewrite(\x7bAnchor\x7d)"
      parameters := [⟨"anchor", .string, "Link behind the image"⟩]
      returns := "Rewritten link"
      body := .ofRun fun ctx args => return .text (← imageAnchor ctx (args.text 0)) },
    { name := "DocumentEmbedLookup"
      description :=
        "Looks up an embedded document. Pages cannot be embedded and stop the transformation " ++
        "of the web part."
      sample := "DocumentEmbedLookup(\x7bServerRelativeUrl\x7d)"
      parameters := [⟨"serverRelativeUrl", .string, "Server relative url of the document"⟩]
      returns := "DocumentListId, DocumentUniqueId, DocumentAuthor and DocumentAuthorName"
      body := fun ctx args => documentProperties ctx (args.text 0) },
    { name := "MediaLookup"
      description :=
        "Looks up the video of a media web part. A web part without a video stops its " ++
        "transformation."
      sample := "MediaLookup(\x7bMediaSource\x7d)"
      parameters := [⟨"mediaSource", .string, "Server relative url of the video"⟩]
      returns := "MediaListId, MediaUniqueId and MediaUrl"
      body := fun ctx args => mediaProperties ctx (args.text 0) },
    { name := "ListAddServerRelativeUrl"
      description := "Adds the server relative url of a list."
      sample := "ListAddServerRelativeUrl(\x7bListId\x7d)"
      parameters := [⟨"listId", .guid, "Id of the list"⟩]
      returns := "ListServerRelativeUrl"
      body := .ofRun fun ctx args => do
        return listProperty "ListServerRelativeUrl" SiteList.serverRelativeUrl
          (← Run.list? ctx (args.guid 0)) },
    { name := "ListAddWebRelativeUrl"
      description := "Adds the url of a list relative to its web."
      sample := "ListAddWebRelativeUrl(\x7bListId\x7d)"
      parameters := [⟨"listId", .guid, "Id of the list"⟩]
      returns := "ListWebRelativeUrl"
      body := .ofRun fun ctx args => do
        return listProperty "ListWebRelativeUrl" (ListUse.webRelativePath ctx.source.web)
          (← Run.list? ctx (args.guid 0)) },
    { name := "ListDetectUsedView"
      description :=
        "Finds the list view with the same query, fields and row limit as the web part's " ++
        "view. Falls back to the default view."
      sample := "ListDetectUsedView(\x7bListId\x7d,\x7bXmlDefinition\x7d)"
      parameters :=
        [⟨"listId", .guid, "Id of the list"⟩,
         ⟨"xmlView", .string, "View XML of the web part"⟩]
      returns := "ListViewId"
      body := .ofRun fun ctx args => do
        return viewProperty (args.text 1) (← Run.list? ctx (args.guid 0)) },
    { name := "LookupPerson"
      description :=
        "Looks up a person by login name or user id. Unknown users fall back to what can be " ++
        "read from the login name."
      sample := "LookupPerson(\x7bPersonEmail\x7d)"
      parameters := [⟨"person", .string, "Login name or user id"⟩]
      returns :=
        "PersonName, PersonEmail, PersonUPN, PersonRole, PersonDepartment, PersonPhone, " ++
        "PersonSip and PersonIsGroup"
      body := .ofRun fun ctx args => do
        return personProperties (← Run.person? ctx (args.text 0)) }]

end PageMigration.Catalog
