import PageMigration.Html.Inspect
import PageMigration.Html.RichText
import PageMigration.Run.Context

/-!
# Texts on their way to the target

## Main definitions

* `Affix.joined`, `Affix.wrapped` : texts put together, with care for empty ones.
* `Context.cleanText` : rich text for the target.
* `isVisibleText` : whether rich text shows anything.
-/

namespace PageMigration

namespace Affix

/-- Two texts with a separator between them, unless one of them is empty. -/
def joined (separator a b : String) : String :=
  if a.isEmpty then b else if b.isEmpty then a else a ++ separator ++ b

/-- A text with others around it.  An empty text stays empty unless it is to be wrapped too. -/
def wrapped (before after text : String) (evenIfEmpty : Bool) : String :=
  if text.isEmpty && !evenIfEmpty then "" else before ++ text ++ after

end Affix

/-- Whether rich text shows anything. -/
def isVisibleText (html : String) : Bool :=
  !Text.isBlank html && !Html.isEmptyParagraph html

/-- Rich text with redirected links in the modern form, or nothing where nothing is visible. -/
def Context.cleanText (ctx : Context) (html : String) (usePlaceholders : Bool) : String :=
  if Text.isBlank html then ""
  else
    let clean := RichText.normalize (ctx.mapLinks html) usePlaceholders
    if Html.isEmptyParagraph clean then "" else clean

end PageMigration
