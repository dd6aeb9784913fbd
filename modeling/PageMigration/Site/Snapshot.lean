import PageMigration.Encoding.Percent
import PageMigration.Json.Reader
import PageMigration.Json.Record
import PageMigration.Site.Source

/-!
# Snapshots

A snapshot holds the lists, files, users and terms of a site, and answers every look-up from
them.  Paths of files are compared after their escapes are decoded and without regard to case.

## Main definitions

* `Snapshot` : the content of a site.
* `Snapshot.source` : the source that answers from a snapshot.
* `Snapshot.ofJson?` : a snapshot read from JSON.
-/

namespace PageMigration

/-- A file with its content. -/
structure StoredFile where
  info : FileInfo
  content : Bytes
  deriving DecidableEq, Repr

/-- The content of a site. -/
structure Snapshot where
  web : Web
  lists : List SiteList := []
  files : List StoredFile := []
  users : List UserRecord := []
  terms : List Term := []

namespace Snapshot

/-- The form in which paths are compared. -/
def normalPath (path : String) : String :=
  Text.lower (Percent.decode (Text.trim path))

/-- The file at a path. -/
def file? (s : Snapshot) (path : String) : Option StoredFile :=
  let wanted := normalPath path
  s.files.find? fun f => normalPath f.info.serverRelativeUrl == wanted

/-- The list with an identifier. -/
def list? (s : Snapshot) (id : Guid) : Option SiteList :=
  s.lists.find? fun l => l.id == id

/-- The term with an identifier. -/
def term? (s : Snapshot) (id : Guid) : Option Term :=
  s.terms.find? fun t => t.id == id

/-- The users that answer a question. -/
def findUsers (s : Snapshot) (query : UserQuery) : List UserRecord :=
  s.users.filter query.answeredBy

/-- Questions with one key find the same users. -/
theorem findUsers_congr (s : Snapshot) {p q : UserQuery} (h : p.cacheKey = q.cacheKey) :
    s.findUsers p = s.findUsers q := by
  rw [findUsers, findUsers, UserQuery.answeredBy_congr h]

/-- The source that answers from a snapshot. -/
def source (s : Snapshot) : Source where
  web := s.web
  list _ id := .ok (s.list? id)
  file _ path := .ok ((s.file? path).map StoredFile.info)
  content _ path := .ok ((s.file? path).map StoredFile.content)
  users _ query := .ok (s.findUsers query)
  term _ id := .ok (s.term? id)

end Snapshot

open Json Record in
/-- A web in JSON. -/
def Web.ofJson? (json : Json) : Option Web := do
  let fields ← record? ["url", "server_relative_url"] json
  let url ← required? fields "url" string?
  let serverRelativeUrl ← required? fields "server_relative_url" string?
  some { url, serverRelativeUrl }

/-- The base type that a name stands for. -/
def ListBaseType.ofName? : String → Option ListBaseType
  | "GenericList" => some .genericList
  | "DocumentLibrary" => some .documentLibrary
  | "DiscussionBoard" => some .discussionBoard
  | "Survey" => some .survey
  | "Issue" => some .issue
  | "Unknown" => some .unknown
  | _ => none

/-- The name of a base type. -/
def ListBaseType.name : ListBaseType → String
  | genericList => "GenericList"
  | documentLibrary => "DocumentLibrary"
  | discussionBoard => "DiscussionBoard"
  | survey => "Survey"
  | issue => "Issue"
  | unknown => "Unknown"

open Json Record in
/-- A view in JSON. -/
def ListView.ofJson? (json : Json) : Option ListView := do
  let fields ← record? ["id", "title", "xml", "is_default"] json
  let id ← required? fields "id" guid?
  let title ← required? fields "title" string?
  let xml ← required? fields "xml" string?
  let isDefault ← optional? fields "is_default" bool? false
  some { id, title, xml, isDefault }

open Json Record in
/-- A list in JSON. -/
def SiteList.ofJson? (json : Json) : Option SiteList := do
  let fields ← record?
    ["id", "title", "base_type", "base_template", "server_relative_url", "views"] json
  let id ← required? fields "id" guid?
  let title ← required? fields "title" string?
  let baseType ← optional? fields "base_type" (choice? ListBaseType.ofName?) .genericList
  let baseTemplate ← required? fields "base_template" int32?
  let serverRelativeUrl ← required? fields "server_relative_url" string?
  let views ← optional? fields "views" (Json.list? ListView.ofJson?) []
  some { id, title, baseType, baseTemplate, serverRelativeUrl, views }

open Json Record in
/-- The description of a file from the fields of its record. -/
def FileInfo.ofFields? (fields : List (String × Json)) : Option FileInfo := do
  let serverRelativeUrl ← required? fields "server_relative_url" string?
  let listId ← required? fields "list_id" guid?
  let uniqueId ← required? fields "unique_id" guid?
  let authorLogin ← optional? fields "author_login" string? ""
  let authorName ← optional? fields "author_name" string? ""
  some { serverRelativeUrl, listId, uniqueId, authorLogin, authorName }

/-- The names of the fields that describe a file. -/
def FileInfo.fieldNames : List String :=
  ["server_relative_url", "list_id", "unique_id", "author_login", "author_name"]

/-- The description of a file in JSON. -/
def FileInfo.ofJson? (json : Json) : Option FileInfo :=
  (Json.record? FileInfo.fieldNames json).bind FileInfo.ofFields?

open Json Record in
/-- A file in JSON, whose content is text; it has to be an object. -/
def StoredFile.ofJson? : Json → Option StoredFile
  | .object all => do
      let fields ← record? (FileInfo.fieldNames ++ ["content"]) (.object all)
      let info ← FileInfo.ofFields? fields
      let content ← optional? fields "content" string? ""
      some { info, content := Utf8.encode content }
  | _ => none

/-- The kind of principal that a name stands for. -/
def PrincipalType.ofName? : String → Option PrincipalType
  | "user" => some .user
  | "securitygroup" => some .securityGroup
  | "sharepointgroup" => some .sharePointGroup
  | _ => none

/-- The name of a kind of principal. -/
def PrincipalType.name : PrincipalType → String
  | user => "user"
  | securityGroup => "securitygroup"
  | sharePointGroup => "sharepointgroup"

open Json Record in
/-- An entry of the user list in JSON. -/
def UserRecord.ofJson? (json : Json) : Option UserRecord := do
  let fields ← record? ["id", "login_name", "name", "email", "job_title", "department",
    "work_phone", "sip_address", "principal_type"] json
  let id ← required? fields "id" int32?
  let loginName ← required? fields "login_name" string?
  let name ← optional? fields "name" string? ""
  let email ← optional? fields "email" string? ""
  let jobTitle ← optional? fields "job_title" string? ""
  let department ← optional? fields "department" string? ""
  let workPhone ← optional? fields "work_phone" string? ""
  let sipAddress ← optional? fields "sip_address" string? ""
  let principalType ← optional? fields "principal_type" (choice? PrincipalType.ofName?) .user
  some { id, loginName, name, email, jobTitle, department, workPhone, sipAddress, principalType }

open Json Record in
/-- A term in JSON. -/
def Term.ofJson? (json : Json) : Option Term := do
  let fields ← record? ["id", "label"] json
  let id ← required? fields "id" guid?
  let label ← required? fields "label" string?
  some { id, label }

namespace Snapshot

open Json Record in
/-- A snapshot in JSON. -/
def ofJson? (json : Json) : Option Snapshot := do
  let fields ← record? ["web", "lists", "files", "users", "terms"] json
  let web ← required? fields "web" Web.ofJson?
  let lists ← optional? fields "lists" (Json.list? SiteList.ofJson?) []
  let files ← optional? fields "files" (Json.list? StoredFile.ofJson?) []
  let users ← optional? fields "users" (Json.list? UserRecord.ofJson?) []
  let terms ← optional? fields "terms" (Json.list? Term.ofJson?) []
  some { web, lists, files, users, terms }

/-- A snapshot in the text of a JSON document. -/
def ofText? (text : String) : Option Snapshot :=
  (Json.ofText? text).bind ofJson?

/-- The site at an address, without anything in it. -/
def ofUrl (url : String) : Snapshot :=
  { web := .ofUrl url }

end Snapshot

end PageMigration
