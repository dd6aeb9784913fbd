import PageMigration.Html.Inspect
import PageMigration.Json.Printer
import PageMigration.Run.Person
import PageMigration.Run.Transfer

/-!
# Fields of publishing pages

The fields of a publishing page hold an image as markup, people and terms as lists of
identifiers, and dates.  They become what the header of a modern page shows.

## Main definitions

* `PageField.imageSource?` : the address in the field of an image.
* `Run.previewImage` : the address of the preview image of a page.
* `Run.authors` : the authors of a page.
* `Run.terms` : the tokens of terms.
-/

namespace PageMigration

namespace PageField

/-- The address in the field of an image, which is an address or a markup with the image. -/
def imageSource? (field : String) : Option String :=
  let field := Text.trim field
  if field.isEmpty then none
  else if ¬ field.toList.contains '<' then some field
  else (Html.images field).head?.map Html.ImageRef.src

/-- The alternate text in the field of an image. -/
def imageAlt (field : String) : String :=
  ((Html.images field).head?.map Html.ImageRef.alt).getD ""

/-- The address that the image in a field leads to. -/
def imageAnchor (ctx : Context) (field : String) : String :=
  match Html.anchors field with
  | anchor :: _ => ctx.mapLinks anchor.href
  | [] => ""

/-- Every other item of a list, from the first one on. -/
def everyOther {α : Type} : List α → List α
  | [] => []
  | [a] => [a]
  | a :: _ :: rest => a :: everyOther rest

/-- The people that a field names: numbers with names after them, or logins. -/
def people (field : String) : List String :=
  let entries :=
    if Text.holds ";#" field then everyOther (Text.splitAtAll ";#" field)
    else Text.splitOn ';' field
  (entries.map Text.trim).filter fun entry => !entry.isEmpty

/-- An author in the header of a page. -/
def authorJson (person : Person) : Json :=
  .object [("id", .string (UserMapping.membershipPrefix ++ person.login)),
    ("upn", .string person.login), ("name", .string person.name), ("role", .string person.role)]

/-- A date to the second, or nothing for the fallback of dates. -/
def dateText (t : Instant) : String :=
  if t = instantFallback then "" else t.secondsText

/-- The identifiers of terms in a field. -/
def termIds (field : String) : List Guid :=
  (Chars.splitWhere (fun c => c == '|' || c == ';') field.toList).filterMap fun id =>
    Guid.ofText? (Chars.trim id)

/-- The token that stands for a term until the page is built. -/
def termToken (term : Term) : String :=
  "\x7b\x7bTermId:" ++ term.id.text ++ "|" ++ term.label ++ "\x7d\x7d"

/-- What is yielded instead of terms where the value of the field is to stay. -/
def keepValue : String := "[[KEEP]]"

end PageField

/-- The address of the image in a field, which is copied if need be. -/
def Run.fieldImage (ctx : Context) (field : String) : Run String :=
  match PageField.imageSource? field with
  | some source => Run.transfer ctx source
  | none => return ""

/-- The address of the preview image in a field, with the host of the target in front of a
path. -/
def Run.previewImage (ctx : Context) (field : String) : Run String := do
  let path ← Run.fieldImage ctx field
  return if path.toList.head? = some '/' then ctx.targetWeb.hostUrl ++ path else path

/-- The authors that a field names, without groups. -/
def Run.authors (ctx : Context) (field : String) : Run String := do
  let people ← (PageField.people field).mapM (Run.person? ctx)
  let authors := (people.filterMap id).filter fun person => !person.isGroup
  return (Json.array (authors.map PageField.authorJson)).compact

/-- The tokens of the terms that a field names, as far as they are found. -/
def Run.terms (ctx : Context) (field : String) : Run String := do
  let terms ← (PageField.termIds field).mapM (Run.term? ctx)
  return Text.join ";" ((terms.filterMap id).map PageField.termToken)

/-- The tokens of default terms, unless the field has a value that is not to be replaced. -/
def Run.defaultTerms (ctx : Context) (value field : String) (overwrite : Bool) : Run String :=
  if !Text.isBlank value && !(overwrite || ctx.settings.overwriteTaxonomy) then
    return PageField.keepValue
  else Run.terms ctx field

end PageMigration
