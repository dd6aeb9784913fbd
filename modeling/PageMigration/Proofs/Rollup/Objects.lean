import PageMigration.Proofs.Json.Path
import PageMigration.Proofs.Json.Spelling
import PageMigration.Rollup.HighlightedContent
import PageMigration.Rollup.QuickLinks

/-!
# Objects of a rollup

The texts of a rollup are those of four objects.  The links and the texts that can be searched are
given by the paths at which they stand in the properties.

## Main definitions

* `RollupObjects` : the four objects.
* `RollupObjects.WrittenAs` : the objects whose texts an output holds.
* `RollupObjects.Agree` : the links and the texts stand in the properties.
* `RollupObjects.HoldsLinks` : the properties are those of quick links, taken over from others.

## Main results

* `RollupChannels.writtenAs_objects` : the objects that channels are written as.
* `ContentQuery.channelsFor_spec`, `ContentSearch.channels_spec`, `QuickLink.channels_spec` : what
  the channels of each kind are written as.
-/

namespace PageMigration

/-- The objects that the texts of a rollup stand for, by their fields. -/
structure RollupObjects where
  properties : List (String × Json)
  searchableTexts : List (String × Json)
  links : List (String × Json)
  imageSources : List (String × Json)

namespace RollupObjects

/-- The output consists of a text of each object. -/
def WrittenAs (o : RollupObjects) (output : Output) : Prop :=
  ∃ images properties links texts : String,
    output = .map [("ImageSources", images), ("JsonProperties", properties), ("Links", links),
      ("SearchablePlainTexts", texts)] ∧
    Json.Spells (.object o.imageSources) images.toList ∧
    Json.Spells (.object o.properties) properties.toList ∧
    Json.Spells (.object o.links) links.toList ∧
    Json.Spells (.object o.searchableTexts) texts.toList

/-- Each link and each text that can be searched stands in the properties at its path. -/
def Agree (o : RollupObjects) : Prop :=
  ∀ entry ∈ o.links ++ o.searchableTexts,
    (Json.object o.properties).valueAt? entry.1 = some entry.2

end RollupObjects

/-! ### Channels as objects -/

/-- The fields of the object of texts by paths. -/
def pathsFields (texts : List (String × String)) : List (String × Json) :=
  Json.insertFields [] (texts.map fun (path, text) => (path, .string text))

theorem isNormal_pathsObject (texts : List (String × String)) : (pathsObject texts).IsNormal :=
  Json.isNormal_ofFields (List.forall_mem_map.mpr fun entry _ => .string entry.2)

theorem mem_pathsFields {texts : List (String × String)} {entry : String × Json}
    (h : entry ∈ pathsFields texts) : ∃ text, (entry.1, text) ∈ texts ∧ entry.2 = .string text := by
  have hmem := (Json.mem_insertFields h).resolve_left List.not_mem_nil
  obtain ⟨⟨path, text⟩, htext, rfl⟩ := List.mem_map.mp hmem
  exact ⟨text, htext, rfl⟩

/-- Different paths are the names of the fields. -/
theorem names_pathsFields_perm {texts : List (String × String)}
    (h : (texts.map Prod.fst).Nodup) :
    ((pathsFields texts).map Prod.fst).Perm (texts.map Prod.fst) := by
  have hnames : (texts.map fun (path, text) => (path, Json.string text)).map Prod.fst =
      texts.map Prod.fst := by
    rw [List.map_map]
    rfl
  rw [← hnames] at h ⊢
  exact (Json.insertFields_perm h).map Prod.fst

namespace RollupChannels

/-- The objects of channels whose properties have given fields. -/
def objects (c : RollupChannels) (fields : List (String × Json)) : RollupObjects where
  properties := Json.normalFields [] fields
  searchableTexts := pathsFields c.searchableTexts
  links := pathsFields c.links
  imageSources := pathsFields c.imageSources

variable {c : RollupChannels} {fields : List (String × Json)}

/-- Channels are written as their objects. -/
theorem writtenAs_objects (hproperties : c.properties = .object fields)
    (hbounded : ∀ f ∈ fields, f.2.Bounded) : (c.objects fields).WrittenAs c.output := by
  have hnormal : (Json.object (Json.normalFields [] fields)).IsNormal :=
    Json.Bounded.isNormal_normal (.object hbounded)
  refine ⟨_, _, _, _, rfl, (isNormal_pathsObject _).spells_compact, ?_,
    (isNormal_pathsObject _).spells_compact, (isNormal_pathsObject _).spells_compact⟩
  rw [hproperties]
  exact hnormal.spells_compact

/-- The objects agree if each link and each text stands in the properties in normal form. -/
theorem agree_objects (h : ∀ entry ∈ c.links ++ c.searchableTexts,
    (Json.normal (.object fields)).valueAt? entry.1 = some (.string entry.2)) :
    (c.objects fields).Agree := by
  intro entry hentry
  have hmem : ∃ text, (entry.1, text) ∈ c.links ++ c.searchableTexts ∧ entry.2 = .string text := by
    rcases List.mem_append.mp hentry with hentry | hentry
    · obtain ⟨text, htext, hvalue⟩ := mem_pathsFields hentry
      exact ⟨text, List.mem_append_left _ htext, hvalue⟩
    · obtain ⟨text, htext, hvalue⟩ := mem_pathsFields hentry
      exact ⟨text, List.mem_append_right _ htext, hvalue⟩
  obtain ⟨text, htext, hvalue⟩ := hmem
  rw [hvalue]
  exact h _ htext

end RollupChannels

/-! ### Highlighted content -/

theorem one_le_positiveOr (count : Int) {missing : Int} (h : 1 ≤ missing) :
    1 ≤ positiveOr count missing := by
  rw [positiveOr]
  split_ifs <;> omega

namespace ContentQuery

variable (ctx : Context) (q : ContentQuery) (list : Option QueriedList)

/-- A path into the first list leads into the queried list. -/
theorem valueAt?_queriedList (l : QueriedList) (inner : String) :
    (q.channelsFor ctx (some l)).properties.normal.valueAt?
        ("lists" ++ "[" ++ toString 0 ++ "]." ++ inner) =
      l.toJson.normal.valueAt? inner := by
  have hlists : (q.channelsFor ctx (some l)).properties.normal.field? "lists" =
      some (.array [l.toJson.normal]) := by
    rw [channelsFor, Json.field?_normal]
    simp [Json.lookup_cons_eq_ite, Json.normal, Json.normalElements]
  rw [Json.valueAt?_element _ (by decide) (by decide) hlists]
  rfl

/-- The link and the title of a queried list stand in the properties. -/
theorem valueAt?_of_mem {entry : String × String}
    (h : entry ∈ (q.channelsFor ctx list).links ++ (q.channelsFor ctx list).searchableTexts) :
    (q.channelsFor ctx list).properties.normal.valueAt? entry.1 = some (.string entry.2) := by
  cases list with
  | none => simp [channelsFor] at h
  | some l =>
      have hentry : entry = ("lists[0].url", l.url) ∨ entry = ("lists[0].title", l.title) := by
        simp only [channelsFor, Option.toList_some, List.map_cons, List.map_nil,
          List.mem_append, List.mem_filter, List.mem_singleton] at h
        exact h.imp And.left And.left
      rcases hentry with rfl | rfl
      · refine (q.valueAt?_queriedList ctx l "url").trans ?_
        rw [Json.valueAt?_name _ (by decide) (by decide), QueriedList.toJson, Json.field?_normal]
        simp [Json.normal]
      · refine (q.valueAt?_queriedList ctx l "title").trans ?_
        rw [Json.valueAt?_name _ (by decide) (by decide), QueriedList.toJson, Json.field?_normal]
        simp [Json.lookup_cons_eq_ite, Json.normal]

/-- The channels of a query by lists are written as objects that agree. -/
theorem channelsFor_spec : ∃ o : RollupObjects,
    o.WrittenAs (q.channelsFor ctx list).output ∧ o.Agree ∧
    ∃ n, o.properties.lookup "maxItemsPerPage" = some (.int n) ∧ 1 ≤ n := by
  refine ⟨_, RollupChannels.writtenAs_objects rfl ?_, RollupChannels.agree_objects
    fun entry => q.valueAt?_of_mem ctx list, positiveOr q.itemLimit 15, ?_,
    one_le_positiveOr _ (by decide)⟩
  · simp [queryJson, QueriedList.toJson]
  · rw [RollupChannels.objects, Json.lookup_normalFields]
    simp [Json.lookup_cons_eq_ite, Json.normal]

end ContentQuery

namespace ContentSearch

variable (q : ContentSearch)

/-- The text of a query by search stands in the properties. -/
theorem valueAt?_of_mem {entry : String × String}
    (h : entry ∈ q.channels.links ++ q.channels.searchableTexts) :
    q.channels.properties.normal.valueAt? entry.1 = some (.string entry.2) := by
  have hentry : entry = ("query.advancedQueryText",
      (Json.ofTextOrNull q.provider).stringField "QueryTemplate") := by
    simp only [channels, List.nil_append] at h
    split_ifs at h
    · exact absurd h List.not_mem_nil
    · exact List.mem_singleton.mp h
  subst hentry
  refine (Json.valueAt?_field _ (by decide : '.' ∉ "query".toList) (by decide)
    "advancedQueryText").trans ?_
  rw [channels, Json.field?_normal]
  simp only [List.cons_append, List.nil_append, List.reverse_cons, List.reverse_nil,
    Json.lookup_cons_eq_ite, String.reduceEq, if_true, if_false, Option.map_some,
    Option.bind_some]
  rw [Json.valueAt?_name _ (by decide) (by decide), Json.field?_normal]
  split_ifs <;> simp [Json.lookup_cons_eq_ite, Json.normal]

/-- The channels of a query by search are written as objects that agree. -/
theorem channels_spec : ∃ o : RollupObjects,
    o.WrittenAs q.channels.output ∧ o.Agree ∧
    ∃ n, o.properties.lookup "maxItemsPerPage" = some (.int n) ∧ 1 ≤ n := by
  refine ⟨_, RollupChannels.writtenAs_objects rfl ?_, RollupChannels.agree_objects
    fun entry => q.valueAt?_of_mem, positiveOr q.resultsPerPage 3, ?_,
    one_le_positiveOr _ (by decide)⟩
  · simp
  · rw [RollupChannels.objects, Json.lookup_normalFields]
    simp [Json.lookup_cons_eq_ite, Json.normal]

end ContentSearch

/-! ### Quick links -/

/-- The item of a link at an address, with its number. -/
structure SummaryLink.IsItem (link : SummaryLink) (url : String) (number : Nat) (item : Json) :
    Prop where
  id : item.field? "id" = some (.int number)
  title : item.field? "title" = some (.string link.title)
  description : item.field? "description" = some (.string link.description)
  url : item.valueAt? "sourceItem.url" = some (.string url)
  openInNewTab : item.field? "openInNewTab" = some (.bool link.openInNewWindow)

/-- What the objects of a rollup of links hold. -/
structure RollupObjects.HoldsLinks (o : RollupObjects) (links : List SummaryLink)
    (address : SummaryLink → String) (base : Json) : Prop where
  /-- There is an item for each link, in order, with the number of the link. -/
  items : ∃ items, o.properties.lookup "items" = some (.array items) ∧
    items.length = links.length ∧
    ∀ (i : Nat) (link : SummaryLink), links[i]? = some link →
      ∃ item, items[i]? = some item ∧ link.IsItem (address link) (i + 1) item
  /-- There is one link for each item. -/
  links : (o.links.map Prod.fst).Perm
    ((List.range links.length).map fun i => QuickLink.pathIn i "sourceItem.url")
  /-- All other fields are those that were there before. -/
  kept : ∀ name, name ≠ "items" → name ≠ "isMigrated" →
    o.properties.lookup name = base.field? name

namespace QuickLink

theorem pathIn_inj {i j : Nat} {inner : String} (h : pathIn i inner = pathIn j inner) : i = j := by
  have hdigits := congrArg String.toList h
  simp only [pathIn, String.toList_append, List.append_assoc, List.append_cancel_left_eq,
    List.append_cancel_right_eq] at hdigits
  exact Digits.toDigits_inj (by simpa using hdigits)

theorem isItem_toJson (q : QuickLink) (number : Nat) :
    q.link.IsItem q.url number (q.toJson number).normal := by
  have hsource : (q.toJson number).normal.field? "sourceItem" =
      some (Json.normal (.object [("url", .string q.url)])) := by
    rw [toJson, Json.field?_normal]
    split_ifs <;> simp [Json.lookup_cons_eq_ite]
  have hurl : (q.toJson number).normal.valueAt? "sourceItem.url" = some (.string q.url) := by
    refine (Json.valueAt?_field _ (by decide : '.' ∉ "sourceItem".toList) (by decide)
      "url").trans ?_
    rw [hsource, Option.bind_some, Json.valueAt?_name _ (by decide) (by decide), Json.field?_normal]
    simp [Json.normal]
  refine ⟨?_, ?_, ?_, hurl, ?_⟩
  all_goals
    rw [toJson, Json.field?_normal]
    split_ifs <;> simp [Json.lookup_cons_eq_ite, Json.normal]

section

variable (base : Json) (items : List QuickLink)

theorem field?_items : (channels base items).properties.normal.field? "items" =
    some (.array (items.mapIdx fun i q => (q.toJson (i + 1)).normal)) := by
  rw [channels, Json.field?_normal]
  simp [Json.lookup_cons_eq_ite, Json.normal, Json.normalElements_eq_map,
    List.mapIdx_eq_zipIdx_map]

variable {items} in
/-- A path into an item leads into the item of that link. -/
theorem valueAt?_pathIn {i : Nat} {q : QuickLink} (h : items[i]? = some q) (inner : String) :
    (channels base items).properties.normal.valueAt? (pathIn i inner) =
      (q.toJson (i + 1)).normal.valueAt? inner := by
  refine (Json.valueAt?_element _ (by decide : '.' ∉ "items".toList) (by decide)
    (field?_items base items) i inner).trans ?_
  simp [h]

/-- There is one link for each item. -/
theorem names_links : (channels base items).links.map Prod.fst =
    (List.range items.length).map fun i => pathIn i "sourceItem.url" := by
  have hlinks : (channels base items).links =
      items.zipIdx.map fun p => (pathIn p.2 "sourceItem.url", p.1.url) := by
    change (items.mapIdx fun i q => q.links i).flatten = _
    rw [List.map_eq_flatMap, List.mapIdx_eq_zipIdx_map, ← List.flatMap_def]
    rfl
  rw [hlinks, List.map_map, List.range_eq_range', ← List.zipIdx_map_snd, List.map_map]
  rfl

theorem nodup_names_links : ((channels base items).links.map Prod.fst).Nodup := by
  rw [names_links]
  exact List.nodup_range.map fun i j h => pathIn_inj h

theorem bounded_baseFields {base : Json} (h : base.Bounded) :
    ∀ f ∈ baseFields base, f.2.Bounded := by
  cases h with
  | object h => exact h
  | _ => simp [baseFields]

theorem bounded_toJson (q : QuickLink) (number : Nat) : (q.toJson number).Bounded := by
  rw [toJson]
  split_ifs <;> simp

theorem lookup_baseFields {base : Json} (h : base.IsNormal) (name : String) :
    ((baseFields base).reverse.lookup name).map Json.normal = base.field? name := by
  cases h with
  | object order h =>
      rw [baseFields, ← Json.field?_normal, (Json.IsNormal.object order h).normal_eq]
  | _ => simp [baseFields, Json.field?]

theorem lookup_channels_of_ne {base : Json} (hbase : base.IsNormal) {name : String}
    (hitems : name ≠ "items") (hmigrated : name ≠ "isMigrated") :
    (channels base items).properties.normal.field? name = base.field? name := by
  rw [channels, Json.field?_normal, List.reverse_append, List.lookup_append]
  simp [Json.lookup_cons_eq_ite, hitems, hmigrated, lookup_baseFields hbase]

variable {base items}

theorem exists_of_mem_flatten_mapIdx {f : Nat → QuickLink → List (String × String)}
    {entry : String × String} (h : entry ∈ (items.mapIdx f).flatten) :
    ∃ i q, items[i]? = some q ∧ entry ∈ f i q := by
  obtain ⟨entries, hentries, hentry⟩ := List.mem_flatten.mp h
  obtain ⟨i, hi, rfl⟩ := List.mem_mapIdx.mp hentries
  exact ⟨i, items[i], List.getElem?_eq_getElem hi, hentry⟩

/-- The links and the texts of items stand in the properties. -/
theorem valueAt?_of_mem {entry : String × String}
    (h : entry ∈ (channels base items).links ++ (channels base items).searchableTexts) :
    (channels base items).properties.normal.valueAt? entry.1 = some (.string entry.2) := by
  rcases List.mem_append.mp h with h | h
  · obtain ⟨i, q, hq, hentry⟩ := exists_of_mem_flatten_mapIdx h
    obtain rfl := List.mem_singleton.mp hentry
    rw [valueAt?_pathIn base hq]
    exact (q.isItem_toJson (i + 1)).url
  · obtain ⟨i, q, hq, hentry⟩ := exists_of_mem_flatten_mapIdx h
    have hitem := q.isItem_toJson (i + 1)
    have hentry : entry = (pathIn i "title", q.link.title) ∨
        entry = (pathIn i "description", q.link.description) := by
      rw [searchableTexts, List.mem_cons] at hentry
      refine hentry.imp_right fun hdescription => ?_
      split_ifs at hdescription
      · exact absurd hdescription List.not_mem_nil
      · exact List.mem_singleton.mp hdescription
    rcases hentry with rfl | rfl
    · rw [valueAt?_pathIn base hq, Json.valueAt?_name _ (by decide) (by decide)]
      exact hitem.title
    · rw [valueAt?_pathIn base hq, Json.valueAt?_name _ (by decide) (by decide)]
      exact hitem.description

/-- The channels of links are written as objects that agree and hold the links. -/
theorem channels_spec (address : SummaryLink → String) (hbase : base.IsNormal)
    (haddress : ∀ q ∈ items, q.url = address q.link) : ∃ o : RollupObjects,
    o.WrittenAs (channels base items).output ∧ o.Agree ∧
    o.HoldsLinks (items.map QuickLink.link) address base := by
  refine ⟨_, RollupChannels.writtenAs_objects rfl ?_, RollupChannels.agree_objects
    fun entry => valueAt?_of_mem, ⟨_, field?_items base items, ?_, ?_⟩, ?_, ?_⟩
  · refine List.forall_mem_append.mpr ⟨bounded_baseFields hbase.bounded,
      List.forall_mem_cons.mpr ⟨.array fun item hitem => ?_, by simp⟩⟩
    obtain ⟨i, hi, rfl⟩ := List.mem_mapIdx.mp hitem
    exact bounded_toJson _ _
  · simp
  · intro i link hlink
    rw [List.getElem?_map] at hlink
    obtain ⟨q, hq, rfl⟩ := Option.map_eq_some_iff.mp hlink
    refine ⟨(q.toJson (i + 1)).normal, by simp [hq], ?_⟩
    rw [← haddress q (List.mem_of_getElem? hq)]
    exact q.isItem_toJson (i + 1)
  · rw [List.length_map, ← names_links base items]
    exact names_pathsFields_perm (nodup_names_links base items)
  · exact fun name hitems hmigrated => lookup_channels_of_ne items hbase hitems hmigrated

end

end QuickLink

end PageMigration
