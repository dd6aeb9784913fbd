import PageMigration.Catalog.Entry
import PageMigration.Html.Escape
import PageMigration.Run.Cleanup
import PageMigration.Run.Transfer

/-!
# Functions of values

Functions that make one value out of others, without a question to the source.

## Main definitions

* `Catalog.constants` : the functions that serve all pages.
* `Catalog.valueEntries` : the other functions of values.
-/

namespace PageMigration.Catalog

/-- The identifier of a list, unless content moves to another web, where the list is not. -/
def keptList (ctx : Context) (id : Guid) : String :=
  if ctx.isCrossSite || id == .nil then "" else id.text

/-- Functions that yield fixed values. -/
def constants : List Entry :=
  [ { name := "EmptyString"
      description := "Returns an empty string."
      sample := "EmptyString()"
      returns := "Empty string"
      body := .ofArguments fun _ => .text "" },
    { name := "StaticString"
      description := "Returns the given string unchanged. Use it to assign a fixed value."
      sample := "StaticString('Hello world')"
      parameters := [⟨"value", .string, "Static value to return"⟩]
      returns := "The given string"
      body := .ofArguments fun args => .text (args.text 0) }]

/-- Functions that make one value out of others. -/
def valueEntries : List Entry :=
  [ { name := "HtmlEncode"
      description := "Html encodes a string."
      sample := "HtmlEncode(\x7bTitle\x7d)"
      parameters := [⟨"value", .string, "Text to process"⟩]
      returns := "Html encoded string"
      body := .ofArguments fun args =>
        .text (String.ofList (Html.escapeAttribute (args.text 0).toList)) },
    { name := "HtmlEncodeForJson"
      description :=
        "Html encodes a string for inclusion in JSON: quotes are escaped and colons and " ++
        "at-signs become character references."
      sample := "HtmlEncodeForJson(\x7bTitle\x7d)"
      parameters := [⟨"value", .string, "Text to process"⟩]
      returns := "Html encoded string safe for JSON properties"
      body := .ofArguments fun args =>
        .text (String.ofList (Html.escapeForJson (args.text 0).toList)) },
    { name := "ReturnTrue"
      description := "Returns true."
      sample := "ReturnTrue()"
      returns := "true"
      body := .ofArguments fun _ => .bool true },
    { name := "ReturnFalse"
      description := "Returns false."
      sample := "ReturnFalse()"
      returns := "false"
      body := .ofArguments fun _ => .bool false },
    { name := "Concatenate"
      description := "Concatenates two strings."
      sample := "\x7bCombinedTitle\x7d = Concatenate(\x7bTitle\x7d,\x7bSubTitle\x7d)"
      parameters :=
        [⟨"value1", .string, "First value"⟩,
         ⟨"value2", .string, "Second value"⟩]
      returns := "Both values joined"
      body := .ofArguments fun args => .text (args.text 0 ++ args.text 1) },
    { name := "ConcatenateWithSemiColonDelimiter"
      description :=
        "Concatenates two strings with a semicolon in between. The delimiter is left out " ++
        "when either value is empty."
      sample :=
        "\x7bUsers\x7d = ConcatenateWithSemiColonDelimiter(\x7bOwners\x7d,\x7bMembers\x7d)"
      parameters :=
        [⟨"value1", .string, "First value"⟩,
         ⟨"value2", .string, "Second value"⟩]
      returns := "Both values joined by ';'"
      body := .ofArguments fun args =>
        .text (Affix.joined ";" (args.text 0) (args.text 1)) },
    { name := "ConcatenateWithPipeDelimiter"
      description :=
        "Concatenates two strings with a pipe in between. The delimiter is left out when " ++
        "either value is empty."
      sample := "\x7bTerms\x7d = ConcatenateWithPipeDelimiter(\x7bTerm1\x7d,\x7bTerm2\x7d)"
      parameters :=
        [⟨"value1", .string, "First value"⟩,
         ⟨"value2", .string, "Second value"⟩]
      returns := "Both values joined by '|'"
      body := .ofArguments fun args =>
        .text (Affix.joined "|" (args.text 0) (args.text 1)) },
    { name := "Prefix"
      description := "Prefixes a value. Empty values stay empty unless prefixIfEmpty is true."
      sample := "Prefix('<h2>About</h2>',\x7bText\x7d,'false')"
      parameters :=
        [⟨"prefix", .string, "Text to put in front"⟩,
         ⟨"value", .string, "Value to prefix"⟩,
         ⟨"prefixIfEmpty", .bool, "Also prefix when the value is empty"⟩]
      returns := "Prefixed value"
      body := .ofArguments fun args =>
        .text (Affix.wrapped (args.text 0) "" (args.text 1) (args.bool 2)) },
    { name := "Suffix"
      description := "Suffixes a value. Empty values stay empty unless suffixIfEmpty is true."
      sample := "Suffix('<p>More info</p>',\x7bText\x7d,'false')"
      parameters :=
        [⟨"suffix", .string, "Text to append"⟩,
         ⟨"value", .string, "Value to suffix"⟩,
         ⟨"suffixIfEmpty", .bool, "Also suffix when the value is empty"⟩]
      returns := "Suffixed value"
      body := .ofArguments fun args =>
        .text (Affix.wrapped "" (args.text 0) (args.text 1) (args.bool 2)) },
    { name := "PrefixAndSuffix"
      description :=
        "Wraps a value between a prefix and a suffix. Empty values stay empty unless " ++
        "applyIfEmpty is true."
      sample := "PrefixAndSuffix('<div>','</div>',\x7bText\x7d,'false')"
      parameters :=
        [⟨"prefix", .string, "Text to put in front"⟩,
         ⟨"suffix", .string, "Text to append"⟩,
         ⟨"value", .string, "Value to wrap"⟩,
         ⟨"applyIfEmpty", .bool, "Also wrap when the value is empty"⟩]
      returns := "Wrapped value"
      body := .ofArguments fun args =>
        .text (Affix.wrapped (args.text 0) (args.text 1) (args.text 2) (args.bool 3)) },
    { name := "TextCleanup"
      description :=
        "Rewrites links to the target site and rewrites the html so it fits the modern text " ++
        "editor."
      sample := "TextCleanup(\x7bText\x7d,\x7bUsePlaceHolders\x7d)"
      parameters :=
        [⟨"text", .string, "Html to clean"⟩,
         ⟨"usePlaceHolders", .bool,
          "Leave a placeholder for images and embeds that cannot be kept"⟩]
      returns := "Cleaned html, empty when nothing visible remains"
      body := .ofContext fun ctx args =>
        .text (ctx.cleanText (args.text 0) (args.bool 1)) },
    { name := "ContainsScript"
      description :=
        "Checks whether html contains script tags. Html that cannot be read counts as script " ++
        "free."
      sample := "\x7bHasScript\x7d = ContainsScript(\x7bContent\x7d)"
      parameters := [⟨"html", .string, "Html to check"⟩]
      returns := "true when a script element is present"
      body := .ofArguments fun args => .bool (Html.containsScript (args.text 0)) },
    { name := "ReturnServerRelativePath"
      description := "Turns an absolute url into a server relative one."
      sample := "ReturnServerRelativePath(\x7bImageLink\x7d)"
      parameters := [⟨"path", .string, "Absolute or server relative url"⟩]
      returns := "Server relative url"
      body := .ofArguments fun args => .text (Link.serverPath (args.text 0)) },
    { name := "ReturnFileName"
      description := "Returns the file name of a url, without query string."
      sample := "\x7bImageFileName\x7d = ReturnFileName(\x7bImageLink\x7d)"
      parameters := [⟨"path", .string, "Url of the file"⟩]
      returns := "Decoded file name"
      body := .ofArguments fun args => .text (Link.fileName (args.text 0)) },
    { name := "ListHideToolBar"
      description := "Hides the command bar when the classic web part showed no toolbar."
      sample := "ListHideToolBar(\x7bXmlDefinition\x7d)"
      parameters := [⟨"toolbarType", .string, "Toolbar type of the classic view"⟩]
      returns := "true when the toolbar type is None"
      body := .ofArguments fun args =>
        .bool (Text.sameName (Text.trim (args.text 0)) "None") },
    { name := "ListCrossSiteCheck"
      description :=
        "Keeps a list reference for same-site transformations and drops it when moving " ++
        "across sites."
      sample := "\x7bListId\x7d = ListCrossSiteCheck(\x7bListId\x7d)"
      parameters := [⟨"listId", .guid, "Id of the list"⟩]
      returns := "The list id, or empty when the list does not exist on the target"
      body := .ofContext fun ctx args => .text (keptList ctx (args.guid 0)) }]

end PageMigration.Catalog
