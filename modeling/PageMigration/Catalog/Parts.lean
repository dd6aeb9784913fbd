import PageMigration.Catalog.Entry
import PageMigration.Rollup.HighlightedContent
import PageMigration.Rollup.QuickLinks
import PageMigration.Run.Cleanup
import PageMigration.Run.ListUse

/-!
# Functions that make modern parts

Functions that write all the properties of a modern part, and selectors, which pick its variant.

## Main definitions

* `Catalog.listVariant`, `Catalog.contentVariant` : variants.
* `Catalog.partEntries` : the functions that write properties.
* `Catalog.selectorEntries` : the selectors.
-/

namespace PageMigration.Catalog

/-- The settings of a query by lists, from the arguments in order. -/
def contentQuery (args : Arguments) : ContentQuery where
  webUrl := args.text 0
  listId := args.guid 1
  listName := args.text 2
  serverTemplate := args.text 3
  contentTypeId := args.text 4
  sortBy := args.text 5
  sortDirection := args.text 6
  itemLimit := args.integer 7
  displayColumns := args.text 8

/-- The settings of a query by search, from the arguments in order. -/
def contentSearch (args : Arguments) : ContentSearch where
  provider := args.text 0
  selectedProperties := args.text 1
  resultsPerPage := args.integer 2
  renderTemplate := args.text 3

/-- The variant for a list.  A calendar is recognized by its view, without a look-up. -/
def listVariant (ctx : Context) (id : Guid) (description : String) : Run String := do
  if ListUse.isCalendarView description then return "Calendar"
  return ((← Run.list? ctx id).map ListUse.kind).getD "Undefined"

/-- The variant for a part with content of its own or behind a link. -/
def contentVariant (link : String) : String :=
  if link.isEmpty then "Content"
  else if extensionOf? link = some "aspx" then "ASPXLink"
  else "NonASPXLink"

/-- Functions that write all the properties of a modern part. -/
def partEntries : List Entry :=
  [ { name := "ContentByQueryToHighlightedContentProperties"
      description :=
        "Turns the configuration of a content by query web part into highlighted content web " ++
        "part properties."
      sample :=
        "ContentByQueryToHighlightedContentProperties(\x7bWebUrl\x7d,\x7bListGuid\x7d," ++
        "\x7bListName\x7d,\x7bServerTemplate\x7d,\x7bContentTypeBeginsWithId\x7d," ++
        "\x7bSortBy\x7d,\x7bSortByDirection\x7d,\x7bItemLimit\x7d,\x7bDisplayColumns\x7d)"
      parameters :=
        [⟨"webUrl", .string, "Web the query ran against"⟩,
         ⟨"listGuid", .guid, "Queried list, if any"⟩,
         ⟨"listName", .string, "Title of the queried list"⟩,
         ⟨"serverTemplate", .string, "List template filter"⟩,
         ⟨"contentTypeBeginsWithId", .string, "Content type id filter"⟩,
         ⟨"sortBy", .string, "Sort field"⟩,
         ⟨"sortByDirection", .string, "Asc or Desc"⟩,
         ⟨"itemLimit", .integer, "Number of items to show"⟩,
         ⟨"displayColumns", .string, "Semicolon separated fields to show"⟩]
      returns := "JsonProperties, SearchablePlainTexts, Links and ImageSources"
      body := .ofRun fun ctx args => return ((← (contentQuery args).channels ctx).output) },
    { name := "ContentBySearchToHighlightedContentProperties"
      description :=
        "Turns the configuration of a content search web part into highlighted content web " ++
        "part properties."
      sample :=
        "ContentBySearchToHighlightedContentProperties(\x7bDataProviderJSON\x7d," ++
        "\x7bSelectedPropertiesJson\x7d,\x7bResultsPerPage\x7d,\x7bRenderTemplateId\x7d)"
      parameters :=
        [⟨"dataProviderJson", .string, "Search data provider configuration"⟩,
         ⟨"selectedPropertiesJson", .string, "JSON array of shown managed properties"⟩,
         ⟨"resultsPerPage", .integer, "Number of results to show"⟩,
         ⟨"renderTemplateId", .string, "Display template of the web part"⟩]
      returns := "JsonProperties, SearchablePlainTexts, Links and ImageSources"
      body := .ofArguments fun args => (contentSearch args).channels.output },
    { name := "SummaryLinksToQuickLinksProperties"
      description :=
        "Turns summary links into quick links web part properties. Link urls are rewritten " ++
        "and images transferred."
      sample :=
        "SummaryLinksToQuickLinksProperties(\x7bSummaryLinkStore\x7d," ++
        "\x7bQuickLinksJsonProperties\x7d)"
      parameters :=
        [⟨"summaryLinkData", .string, "Summary link store html"⟩,
         ⟨"quickLinksJsonProperties", .string, "Base quick links properties as JSON"⟩]
      returns := "JsonProperties, SearchablePlainTexts, Links and ImageSources"
      body := .ofRun fun ctx args => do
        return (← Run.quickLinks ctx (args.text 0) (args.text 1)).output }]

/-- Functions that pick the variant of a modern part. -/
def selectorEntries : List Entry :=
  [ { name := "ListSelectorListLibrary"
      kind := .selector
      description :=
        "Classifies a list. Calendar views are recognized from the view XML before the list " ++
        "is looked up."
      sample := "ListSelectorListLibrary(\x7bListId\x7d,\x7bXmlDefinition\x7d)"
      parameters :=
        [⟨"listId", .guid, "Id of the list"⟩,
         ⟨"viewXml", .string, "View XML of the web part"⟩]
      returns := "Calendar, Task, Discussion, Issue, Survey, Library, List or Undefined"
      body := .ofRun fun ctx args => do
        return .text (← listVariant ctx (args.guid 0) (args.text 1)) },
    { name := "ContentEmbedSelectorSourceType"
      kind := .selector
      description := "Classifies what a page viewer web part shows."
      sample := "ContentEmbedSelectorSourceType(\x7bSourceType\x7d)"
      parameters :=
        [⟨"sourceType", .string, "Source type of the page viewer: 2 folder, 3 file, 4 web page"⟩]
      returns := "WebPage or ServerFolderOrFile"
      body := .ofArguments fun args =>
        .text (if ["2", "3"].contains (Text.trim (args.text 0)) then "ServerFolderOrFile"
          else "WebPage") },
    { name := "ContentEmbedSelectorContentLink"
      kind := .selector
      description := "Classifies a content editor by where its content comes from."
      sample := "ContentEmbedSelectorContentLink(\x7bContentLink\x7d)"
      parameters := [⟨"contentLink", .string, "Linked content file, if any"⟩]
      returns := "Content, ASPXLink or NonASPXLink"
      body := .ofArguments fun args => .text (contentVariant (Text.trim (args.text 0))) },
    { name := "ContentByQuerySelector"
      kind := .selector
      description := "Tells whether a content by query web part targets one list or a whole site."
      sample := "ContentByQuerySelector(\x7bListGuid\x7d)"
      parameters := [⟨"listGuid", .guid, "Queried list, if any"⟩]
      returns := "List or Site"
      body := .ofArguments fun args => .text (if args.guid 0 = .nil then "Site" else "List") },
    { name := "SummaryLinkSelector"
      kind := .selector
      description := "Tells whether a summary link web part holds any links."
      sample := "SummaryLinkSelector(\x7bSummaryLinkStore\x7d)"
      parameters := [⟨"summaryLinkData", .string, "Summary link store html"⟩]
      returns := "Links or NoLinks"
      body := .ofArguments fun args =>
        .text (if (summaryLinks (args.text 0)).isEmpty then "NoLinks" else "Links") },
    { name := "TextSelector"
      kind := .selector
      description := "Tells whether a text web part has visible content."
      sample := "TextSelector(\x7bText\x7d)"
      parameters := [⟨"text", .string, "Html of the text web part"⟩]
      returns := "Text or Empty"
      body := .ofArguments fun args =>
        .text (if isVisibleText (args.text 0) then "Text" else "Empty") }]

end PageMigration.Catalog
