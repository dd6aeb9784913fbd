import PageMigration.Proofs.Catalog.Refusal
import PageMigration.Proofs.Rollup.Objects
import PageMigration.Site.Snapshot

/-!
# Calls that roll content up

Three functions of the general library turn parts that collect content into modern ones.  For all
arguments, in every run, they yield the texts of four objects that agree, whatever is looked up,
redirected or copied on the way.

## Main definitions

* `Catalog.rollups` : the three functions, with the numbers of their inputs.

## Main results

* `Run.quickLinks_eq` : the links that a run makes quick links of.
* `Library.invoke_rollup` : what the three functions yield.
-/

namespace PageMigration

/-! ### Queries and links in a run -/

theorem ContentQuery.channels_eq (ctx : Context) (q : ContentQuery) (s : RunState) :
    ∃ list t, q.channels ctx s = (q.channelsFor ctx list, t) := by
  by_cases hnil : q.listId = .nil
  · exact ⟨none, s, by rw [channels, if_pos hnil]; rfl⟩
  · rcases hfound : Run.list? ctx q.listId s with ⟨found, t⟩
    refine ⟨some (q.queriedList ctx found), t, ?_⟩
    rw [channels, if_neg hnil]
    exact Run.bind_of_eq hfound

namespace Run

variable (ctx : Context)

/-- A link becomes one to the same place at the target. -/
theorem quickLink_eq (link : SummaryLink) (s : RunState) : ∃ q t,
    quickLink ctx link s = (q, t) ∧ q.link = link ∧ q.url = ctx.mapLinks link.url := by
  by_cases himage : link.imageUrl.isEmpty
  · refine ⟨⟨link, ctx.mapLinks link.url, none⟩, s, ?_, rfl, rfl⟩
    simp only [quickLink, himage, if_true]
    rfl
  · rcases hcopy : transfer ctx link.imageUrl s with ⟨image, t⟩
    refine ⟨⟨link, ctx.mapLinks link.url, some image⟩, t, ?_, rfl, rfl⟩
    simp only [quickLink, himage]
    exact bind_of_eq hcopy

/-- Links become quick links one by one, in order. -/
theorem mapM_quickLink_eq (links : List SummaryLink) (s : RunState) : ∃ items t,
    links.mapM (quickLink ctx) s = (items, t) ∧ items.map QuickLink.link = links ∧
    ∀ q ∈ items, q.url = ctx.mapLinks q.link.url := by
  induction links generalizing s with
  | nil => exact ⟨[], s, rfl, rfl, by simp⟩
  | cons link rest ih =>
      obtain ⟨q, t, hlink, rfl, hurl⟩ := quickLink_eq ctx link s
      obtain ⟨items, u, hrest, hlinks, hurls⟩ := ih t
      refine ⟨q :: items, u, ?_, by rw [List.map_cons, hlinks],
        List.forall_mem_cons.mpr ⟨hurl, hurls⟩⟩
      rw [List.mapM_cons]
      exact (bind_of_eq hlink).trans (bind_of_eq hrest)

/-- The links in a markup become quick links, whatever is copied for them. -/
theorem quickLinks_eq (markup base : String) (s : RunState) : ∃ items t,
    quickLinks ctx markup base s = (QuickLink.channels (.ofTextOrNull base) items, t) ∧
    items.map QuickLink.link = summaryLinks markup ∧
    ∀ q ∈ items, q.url = ctx.mapLinks q.link.url := by
  obtain ⟨items, t, hitems, hlinks, hurls⟩ := mapM_quickLink_eq ctx (summaryLinks markup) s
  exact ⟨items, t, bind_of_eq hitems, hlinks, hurls⟩

end Run

/-- A value read from a text is in normal form. -/
theorem Json.isNormal_ofTextOrNull (text : String) : (ofTextOrNull text).IsNormal := by
  rw [ofTextOrNull]
  cases htext : ofText? text with
  | none => exact Bounded.null.isNormal_normal
  | some value => exact (bounded_of_ofText? htext).isNormal_normal

/-! ### Calls -/

/-- The functions that roll content up, with the numbers of their inputs. -/
def Catalog.rollups : List (String × Nat) :=
  [("ContentByQueryToHighlightedContentProperties", 9),
   ("ContentBySearchToHighlightedContentProperties", 4),
   ("SummaryLinksToQuickLinksProperties", 2)]

namespace Library

variable {call : FunctionCall} {e : Entry} {ctx : Context}

/-- What a function yields for a call with the right number of inputs. -/
theorem invoke_fst_of_body {library : Library} {output : Output} {s t : RunState}
    (haddOn : call.addOn = "") (hfind : library.find? call.name = some e) (harity : e.arity ≠ 0)
    (hcount : call.inputs.length = e.arity)
    (hbody : e.body ctx (arguments call) s = (.ok output, t)) :
    (library.invoke ctx call s).1 = .ok output := by
  rw [invoke_of_body haddOn hfind harity hcount hbody]
  rfl

/-- **Rollups.** For all arguments, in every run, a function that rolls content up yields the texts
of four objects, in which each link and each text that can be searched stands in the properties at
its path.  Quick links hold an item for each link, in order, and all other fields that were there
before; highlighted content shows at least one item. -/
theorem invoke_rollup (ctx : Context) (haddOn : call.addOn = "")
    (hrollup : (call.name, call.inputs.length) ∈ Catalog.rollups) (s : RunState) :
    ∃ (output : Output) (o : RollupObjects),
      (general.invoke ctx call s).1 = .ok output ∧ o.WrittenAs output ∧ o.Agree ∧
      (call.name = "SummaryLinksToQuickLinksProperties" →
        o.HoldsLinks (summaryLinks ((arguments call).text 0))
          (fun link => ctx.mapLinks link.url) (.ofTextOrNull ((arguments call).text 1))) ∧
      (call.name ≠ "SummaryLinksToQuickLinksProperties" →
        ∃ n, o.properties.lookup "maxItemsPerPage" = some (.int n) ∧ 1 ≤ n) := by
  simp only [Catalog.rollups, List.mem_cons, Prod.mk.injEq, List.not_mem_nil, or_false] at hrollup
  rcases hrollup with ⟨hname, hcount⟩ | ⟨hname, hcount⟩ | ⟨hname, hcount⟩
  · have hfind := (congrArg general.find? hname).trans
      (show general.find? "ContentByQueryToHighlightedContentProperties" = some _ from rfl)
    have hother : call.name ≠ "SummaryLinksToQuickLinksProperties" := by
      rw [hname]
      decide
    obtain ⟨list, t, hchannels⟩ := (Catalog.contentQuery (arguments call)).channels_eq ctx s
    obtain ⟨o, hwritten, hagree, hitems⟩ :=
      (Catalog.contentQuery (arguments call)).channelsFor_spec ctx list
    exact ⟨_, o, invoke_fst_of_body haddOn hfind (by decide) hcount
      (Run.bind_of_eq (Run.bind_of_eq hchannels)), hwritten, hagree,
      fun h => absurd h hother, fun _ => hitems⟩
  · have hfind := (congrArg general.find? hname).trans
      (show general.find? "ContentBySearchToHighlightedContentProperties" = some _ from rfl)
    have hother : call.name ≠ "SummaryLinksToQuickLinksProperties" := by
      rw [hname]
      decide
    obtain ⟨o, hwritten, hagree, hitems⟩ := (Catalog.contentSearch (arguments call)).channels_spec
    exact ⟨_, o, invoke_fst_of_body haddOn hfind (by decide) hcount rfl, hwritten, hagree,
      fun h => absurd h hother, fun _ => hitems⟩
  · have hfind := (congrArg general.find? hname).trans
      (show general.find? "SummaryLinksToQuickLinksProperties" = some _ from rfl)
    obtain ⟨items, t, hchannels, hlinks, hurls⟩ :=
      Run.quickLinks_eq ctx ((arguments call).text 0) ((arguments call).text 1) s
    obtain ⟨o, hwritten, hagree, hholds⟩ :=
      QuickLink.channels_spec (fun link => ctx.mapLinks link.url)
        (Json.isNormal_ofTextOrNull ((arguments call).text 1)) hurls
    rw [hlinks] at hholds
    exact ⟨_, o, invoke_fst_of_body haddOn hfind (by decide) hcount
      (Run.bind_of_eq (Run.bind_of_eq hchannels)), hwritten, hagree,
      fun _ => hholds, fun h => absurd hname h⟩

/-- A link to a handbook is put into quick links with a layout. -/
theorem invoke_rollup_of_handbook :
    let ctx : Context := { source := (Snapshot.ofUrl "https://old.com/a").source }
    let markup := "<div title=\"_link\"><span title=\"_title\">Handbook</span>" ++
      "<span title=\"_linkurl\"><a href=\"/a/handbook\"></a></span></div>"
    let base := "\x7b\"layoutId\":\"List\"\x7d"
    let call : FunctionCall := {
      addOn := ""
      name := "SummaryLinksToQuickLinksProperties"
      output := ""
      inputs := [{ name := "markup", value := markup }, { name := "base", value := base }] }
    let output : Output := .map [("ImageSources", "\x7b\x7d"),
      ("JsonProperties", "\x7b\"isMigrated\":true,\"items\":[\x7b\"description\":\"\"," ++
        "\"id\":1,\"openInNewTab\":false,\"sourceItem\":\x7b\"url\":\"/a/handbook\"\x7d," ++
        "\"title\":\"Handbook\"\x7d],\"layoutId\":\"List\"\x7d"),
      ("Links", "\x7b\"items[0].sourceItem.url\":\"/a/handbook\"\x7d"),
      ("SearchablePlainTexts", "\x7b\"items[0].title\":\"Handbook\"\x7d")]
    call.addOn = "" ∧ (call.name, call.inputs.length) ∈ Catalog.rollups ∧
      (general.invoke ctx call (ctx.start {})).1 = .ok output ∧
      ∃ o : RollupObjects, o.WrittenAs output ∧ o.Agree ∧
        o.HoldsLinks (summaryLinks markup) (fun link => ctx.mapLinks link.url)
          (.ofTextOrNull base) := by
  intro ctx markup base call output
  have hrollup : (call.name, call.inputs.length) ∈ Catalog.rollups := by decide
  have hrun : (general.invoke ctx call (ctx.start {})).1 = .ok output := by decide +kernel
  obtain ⟨_, o, hinvoke, hwritten, hagree, hholds, -⟩ :=
    invoke_rollup ctx rfl hrollup (ctx.start {})
  rw [Except.ok.inj (hinvoke.symm.trans hrun)] at hwritten
  exact ⟨rfl, hrollup, hrun, o, hwritten, hagree, hholds rfl⟩

end Library

end PageMigration
