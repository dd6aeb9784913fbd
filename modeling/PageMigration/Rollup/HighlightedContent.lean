import PageMigration.Rollup.Channels
import PageMigration.Run.Lookup

/-!
# Highlighted content

Parts that query content, by lists or by search, become parts that highlight content.

## Main definitions

* `ContentQuery`, `ContentQuery.channels` : a query by lists, and the part that takes its place.
* `ContentSearch`, `ContentSearch.channels` : a query by search likewise.
-/

namespace PageMigration

/-- A number of items, unless it is not positive. -/
def positiveOr (count missing : Int) : Int :=
  if count ≤ 0 then missing else count

/-! ### Queries by lists -/

/-- What a part that queries content is set to. -/
structure ContentQuery where
  webUrl : String
  listId : Guid
  listName : String
  /-- The template of the lists to query, as a number in decimal digits. -/
  serverTemplate : String
  contentTypeId : String
  sortBy : String
  sortDirection : String
  itemLimit : Int
  displayColumns : String

namespace ContentQuery

/-- How the identifiers of the content types of pages begin. -/
def pageContentType : String :=
  "0x010100C568DB52D9D0A14D9B2FDCC96666E9F2007948130EC3DB064584E219954237AF39"

/-- The filters for content types by how their identifiers begin; the first that fits counts. -/
def contentTypeFilters : List (String × String) :=
  [(pageContentType, "Page"), ("0x0101", "Document"), ("0x0102", "Event"),
   ("0x0104", "Announcement"), ("0x0108", "Task"), ("", "Item")]

/-- The filter for the content type with an identifier; there is none without one. -/
def contentTypeFilter? (id : String) : Option String :=
  let id := Text.trim id
  if id.isEmpty then none
  else (contentTypeFilters.find? fun f => Text.startsWithName f.1 id).map Prod.snd

/-- Where the content comes from. -/
def location (web : Web) (webUrl : String) (hasList : Bool) : String :=
  let webUrl := Text.trimEndOf '/' (Text.trim webUrl)
  if hasList then "List"
  else if webUrl.isEmpty || Text.sameName webUrl web.path then "CurrentSite"
  else if Text.sameName webUrl "~sitecollection" then "CurrentSiteCollection"
  else "SelectedSites"

/-- The way of sorting by a field. -/
def sortType (field : String) : String :=
  let field := Text.lower (Text.trim field)
  if ["", "modified", "created"].contains field then "MostRecent"
  else if ["title", "linkfilename"].contains field then "Alphabetical"
  else "Custom"

/-- The field to sort by; without one, it is the date of the last change. -/
def sortField (field : String) : String :=
  (Text.nonblank? field).getD "Modified"

/-- The direction of sorting, which is downwards unless it is set. -/
def sortOrder (direction : String) : String :=
  if Text.sameName (Text.trim direction) "asc" then "asc" else "desc"

/-- The names in a list of columns. -/
def columns (names : String) : List String :=
  ((Chars.splitWhere (fun c => c == ';' || c == ',') names.toList).map Chars.trim).filterMap
    fun name => if name.isEmpty then none else some (String.ofList name)

/-- The list that a query names: its title and its link at the target. -/
structure QueriedList where
  id : Guid
  title : String
  url : String

/-- The list that a query names, given what was found under its identifier. -/
def queriedList (ctx : Context) (q : ContentQuery) (found : Option SiteList) : QueriedList where
  id := q.listId
  title := (Text.nonblank? q.listName).getD ((found.map SiteList.title).getD "")
  url := (found.map fun l => ctx.mapLinks l.serverRelativeUrl).getD ""

/-- A queried list in the properties. -/
def QueriedList.toJson (l : QueriedList) : Json :=
  .object [("id", .string l.id.text), ("title", .string l.title), ("url", .string l.url)]

/-- The query in the properties. -/
def queryJson (ctx : Context) (q : ContentQuery) (hasList : Bool) : Json :=
  .object <|
    [("contentLocation", .string (location ctx.source.web q.webUrl hasList)),
     ("contentTypes", .array ((contentTypeFilter? q.contentTypeId).toList.map .string)),
     ("sortType", .string (sortType q.sortBy)),
     ("sortField", .string (sortField q.sortBy)),
     ("sortDirection", .string (sortOrder q.sortDirection)),
     ("filters", .array []),
     ("queryMode", .string "Basic")] ++
    ((readInteger? q.serverTemplate).map fun n => ("listTemplate", Json.int n)).toList

/-- The channels of a query, given the list that it names. -/
def channelsFor (ctx : Context) (q : ContentQuery) (list : Option QueriedList) :
    RollupChannels where
  properties := .object
    [("query", q.queryJson ctx list.isSome),
     ("templateId", .string "List"),
     ("maxItemsPerPage", .int (positiveOr q.itemLimit 15)),
     ("hideWebPartWhenEmpty", .bool false),
     ("displayColumns", .array ((columns q.displayColumns).map .string)),
     ("lists", .array (list.toList.map QueriedList.toJson)),
     ("isMigrated", .bool true)]
  searchableTexts := (list.toList.map fun l => ("lists[0].title", l.title)).filter (·.2 != "")
  links := (list.toList.map fun l => ("lists[0].url", l.url)).filter (·.2 != "")

/-- The channels of the part that takes the place of a query. -/
def channels (ctx : Context) (q : ContentQuery) : Run RollupChannels := do
  if q.listId = .nil then return q.channelsFor ctx none
  let found ← Run.list? ctx q.listId
  return q.channelsFor ctx (some (q.queriedList ctx found))

end ContentQuery

/-! ### Queries by search -/

/-- What a part that searches content is set to. -/
structure ContentSearch where
  /-- The provider of data, as JSON. -/
  provider : String
  /-- The names of the properties to show, as JSON. -/
  selectedProperties : String
  resultsPerPage : Int
  renderTemplate : String

namespace ContentSearch

/-- The template of the modern part for a template of the search. -/
def templateFor (renderTemplate : String) : String :=
  let id := Text.lower renderTemplate
  if Text.holds "slideshow" id then "Carousel"
  else if Text.holds "control_list" id then "List"
  else "Card"

/-- The strings in an array; any other value has none. -/
def stringsIn (value : Json) : List String :=
  (value.array?.getD []).filterMap Json.string?

/-- The channels of the part that takes the place of a search. -/
def channels (q : ContentSearch) : RollupChannels :=
  let provider := Json.ofTextOrNull q.provider
  let queryText := provider.stringField "QueryTemplate"
  let resultSource := provider.stringField "SourceID"
  let query : List (String × Json) :=
    [("contentLocation", .string "AllSites"), ("advancedQueryText", .string queryText),
     ("queryMode", .string "Advanced")] ++
    if resultSource.isEmpty then [] else [("resultSourceId", .string resultSource)]
  { properties := .object
      [("query", .object query),
       ("templateId", .string (templateFor q.renderTemplate)),
       ("maxItemsPerPage", .int (positiveOr q.resultsPerPage 3)),
       ("hideWebPartWhenEmpty", .bool false),
       ("displayColumns", .array ((stringsIn (.ofTextOrNull q.selectedProperties)).map .string)),
       ("isMigrated", .bool true)]
    searchableTexts := if queryText.isEmpty then [] else [("query.advancedQueryText", queryText)] }

end ContentSearch

end PageMigration
