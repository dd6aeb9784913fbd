import PageMigration.Html.Inspect
import PageMigration.Rollup.Channels
import PageMigration.Run.Transfer

/-!
# Quick links

Parts with summary links keep them as markup, in which each link is a division with titled spans.
They become parts with quick links.

## Main definitions

* `SummaryLink`, `summaryLinks` : the links that a markup holds.
* `Run.quickLinks` : the channels of the part that takes their place.
-/

namespace PageMigration

/-- One link of a part with summary links. -/
structure SummaryLink where
  title : String
  description : String
  url : String
  imageUrl : String
  imageAlt : String
  openInNewWindow : Bool
  deriving DecidableEq, Repr

namespace SummaryLink

/-- An element of a given name and title. -/
def isTitled (name title : String) (e : Html.Element) : Bool :=
  e.name == name && e.attribute? "title" == some title

/-- The first span with a title below a node. -/
def span? (t : Html.Tree) (id : Nat) (title : String) : Option Nat :=
  (t.selectBelow id (isTitled "span" title)).head?.map Prod.fst

/-- The text of the first span with a title below a node. -/
def spanText (t : Html.Tree) (id : Nat) (title : String) : String :=
  match span? t id title with
  | some span => String.ofList (Chars.trim (t.textBelow span))
  | none => ""

/-- The link that a division stands for; one without an address is none. -/
def ofDivision? (t : Html.Tree) (id : Nat) : Option SummaryLink :=
  let anchor := (span? t id "_linkurl").bind fun span => (t.selectBelow span Html.isAnchor).head?
  let url := (anchor.bind fun a => a.2.attribute? "href").getD (spanText t id "_linkurl")
  if url.isEmpty then none
  else
    let image := (span? t id "_imageurl").bind fun span => (t.selectBelow span Html.isImage).head?
    let imageAttribute (name : String) : String :=
      (image.bind fun i => i.2.attribute? name).getD ""
    some {
      title := spanText t id "_title"
      description := spanText t id "_description"
      url
      imageUrl := imageAttribute "src"
      imageAlt := imageAttribute "alt"
      openInNewWindow := Text.sameName (spanText t id "_openinnewwindow") "true" }

end SummaryLink

/-- The links that a markup holds. -/
def summaryLinks (markup : String) : List SummaryLink :=
  if Text.isBlank markup then []
  else
    let t := Html.parseFragment markup
    (t.select (SummaryLink.isTitled "div" "_link")).filterMap fun (id, _) =>
      SummaryLink.ofDivision? t id

/-- A link at the target, with the address of its image if it has one. -/
structure QuickLink where
  link : SummaryLink
  url : String
  image : Option String
  deriving DecidableEq, Repr

namespace QuickLink

/-- A link in the properties, with its number. -/
def toJson (q : QuickLink) (number : Nat) : Json :=
  .object <|
    [("id", .int number), ("title", .string q.link.title),
     ("description", .string q.link.description),
     ("sourceItem", .object [("url", .string q.url)]),
     ("openInNewTab", .bool q.link.openInNewWindow)] ++
    if q.image.isSome then [("altText", .string q.link.imageAlt)] else []

/-- The path of a link with a given index, or of something in it. -/
def pathIn (index : Nat) (inner : String) : String :=
  "items[" ++ toString index ++ "]." ++ inner

/-- The texts of a link that can be searched. -/
def searchableTexts (q : QuickLink) (index : Nat) : List (String × String) :=
  (pathIn index "title", q.link.title) ::
    if q.link.description.isEmpty then []
    else [(pathIn index "description", q.link.description)]

/-- The link of one item. -/
def links (q : QuickLink) (index : Nat) : List (String × String) :=
  [(pathIn index "sourceItem.url", q.url)]

/-- The image of one item. -/
def imageSources (q : QuickLink) (index : Nat) : List (String × String) :=
  q.image.toList.map fun image => (pathIn index "rawPreviewImageUrl", image)

/-- The fields of the properties that are taken over: those of an object. -/
def baseFields : Json → List (String × Json)
  | .object fields => fields
  | _ => []

/-- The channels of links, whose properties begin with given ones. -/
def channels (base : Json) (items : List QuickLink) : RollupChannels where
  properties := .object <|
    baseFields base ++
      [("items", .array (items.mapIdx fun index q => q.toJson (index + 1))),
       ("isMigrated", .bool true)]
  searchableTexts := (items.mapIdx fun index q => q.searchableTexts index).flatten
  links := (items.mapIdx fun index q => q.links index).flatten
  imageSources := (items.mapIdx fun index q => q.imageSources index).flatten

end QuickLink

/-- A link at the target: its address is redirected and its image is copied. -/
def Run.quickLink (ctx : Context) (link : SummaryLink) : Run QuickLink := do
  let url := ctx.mapLinks link.url
  if link.imageUrl.isEmpty then return { link, url, image := none }
  let image ← Run.transfer ctx link.imageUrl
  return { link, url, image := some image }

/-- The channels of the part that takes the place of one with summary links, whose properties
begin with given ones. -/
def Run.quickLinks (ctx : Context) (markup base : String) : Run RollupChannels := do
  let items ← (summaryLinks markup).mapM (Run.quickLink ctx)
  return QuickLink.channels (.ofTextOrNull base) items

end PageMigration
