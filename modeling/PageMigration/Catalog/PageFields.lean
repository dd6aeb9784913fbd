import PageMigration.Catalog.Entry
import PageMigration.Run.PageField

/-!
# Functions of page fields

Functions that bring the fields of a publishing page into the form of a modern page.

## Main definitions

* `Catalog.fieldEntries` : the functions.
-/

namespace PageMigration.Catalog

/-- Functions of the fields of publishing pages. -/
def fieldEntries : List Entry :=
  [ { name := "ToImageUrl"
      description :=
        "Returns the image url of a publishing image field, transferring the image when the " ++
        "page moves across sites."
      sample := "ToImageUrl(\x7bPublishingPageImage\x7d)"
      parameters := [⟨"value", .string, "Publishing image field html"⟩]
      returns := "Image url"
      body := .ofRun fun ctx args => return .text (← Run.fieldImage ctx (args.text 0)) },
    { name := "ToImageAltText"
      description := "Returns the alternate text of a publishing image field."
      sample := "ToImageAltText(\x7bPublishingPageImage\x7d)"
      parameters := [⟨"value", .string, "Publishing image field html"⟩]
      returns := "Alternate text"
      body := .ofArguments fun args => .text (PageField.imageAlt (args.text 0)) },
    { name := "ToImageAnchor"
      description :=
        "Returns the link wrapped around a publishing image, rewritten for the target site."
      sample := "ToImageAnchor(\x7bPublishingPageImage\x7d)"
      parameters := [⟨"value", .string, "Publishing image field html"⟩]
      returns := "Anchor url"
      body := .ofContext fun ctx args => .text (PageField.imageAnchor ctx (args.text 0)) },
    { name := "ToPreviewImageUrl"
      description :=
        "Returns the absolute url of the page preview image, transferring the image when " ++
        "needed."
      sample := "ToPreviewImageUrl(\x7bPublishingRollupImage\x7d)"
      parameters := [⟨"value", .string, "Publishing image field html"⟩]
      returns := "Absolute image url"
      body := .ofRun fun ctx args => return .text (← Run.previewImage ctx (args.text 0)) },
    { name := "ToAuthors"
      description :=
        "Resolves the people of a user field into page author entries. Groups are left out."
      sample := "ToAuthors(\x7bPublishingContact\x7d)"
      parameters := [⟨"userField", .string, "User field value"⟩]
      returns := "JSON array of authors"
      body := .ofRun fun ctx args => return .text (← Run.authors ctx (args.text 0)) },
    { name := "ToDate"
      description := "Formats a date field as RFC 3339."
      sample := "ToDate(\x7bArticleStartDate\x7d)"
      parameters := [⟨"value", .dateTime, "Date field value"⟩]
      returns := "RFC 3339 date, empty when the value is not a date"
      body := .ofArguments fun args => .text (PageField.dateText (args.instant 0)) },
    { name := "ToTaxonomyTerms"
      description := "Resolves term ids into taxonomy field tokens. Unknown terms are skipped."
      sample := "ToTaxonomyTerms(\x7bTaxKeyword\x7d)"
      parameters := [⟨"termIds", .string, "Term ids separated by |"⟩]
      returns := "Term tokens separated by ;"
      body := .ofRun fun ctx args => return .text (← Run.terms ctx (args.text 0)) },
    { name := "DefaultTaxonomyFieldValue"
      description := "Sets a default taxonomy value unless the field already has one."
      sample :=
        "DefaultTaxonomyFieldValue(\x7bTaxField\x7d,'a1b2c3d4-e5f6-7890-abcd-ef1234567890'," ++
        "'false')"
      parameters :=
        [⟨"currentValue", .string, "Current field value"⟩,
         ⟨"termIds", .string, "Default term ids separated by |"⟩,
         ⟨"overwrite", .bool, "Replace an existing value"⟩]
      returns := "Term tokens, or [[KEEP]] when the existing value stays"
      body := .ofRun fun ctx args => do
        return .text (← Run.defaultTerms ctx (args.text 0) (args.text 1) (args.bool 2)) }]

end PageMigration.Catalog
