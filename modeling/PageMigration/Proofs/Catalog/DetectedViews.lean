import PageMigration.Proofs.Catalog.Refusal
import PageMigration.Proofs.Site.ViewMatch
import PageMigration.Site.Snapshot

/-!
# Detected views

A part that shows a list describes the view that it shows.  The function that detects the view asks
for the list and yields the identifier of the view that the list shows for the description, and
nothing if there is no list or if it has no views.  Descriptions that match are not told apart.

## Main definitions

* `FunctionCall.DetectsView` : calls that ask for the view of a list for a description.

## Main results

* `FunctionCall.DetectsView.invoke_eq` : what such a call yields.
* `detected_views` : views are matched by an equivalence, which detection respects.
-/

namespace PageMigration

/-- A call that asks for the view of a list for a description. -/
structure FunctionCall.DetectsView (call : FunctionCall) (id : Guid) (description : String) :
    Prop where
  addOn : call.addOn = ""
  name : call.name = "ListDetectUsedView"
  pair : call.inputs.length = 2
  list : (Library.arguments call).guid 0 = id
  description : (Library.arguments call).text 1 = description

theorem Library.find?_listDetectUsedView :
    ∃ e, Library.general.find? "ListDetectUsedView" = some e ∧ e.arity = 2 ∧
      e.body = .ofRun fun ctx args => do
        return Catalog.viewProperty (args.text 1) (← Run.list? ctx (args.guid 0)) :=
  ⟨_, rfl, rfl, rfl⟩

namespace Catalog

variable {x y : String} {found : Option SiteList}

theorem viewProperty_congr (h : viewsMatch x y) (found : Option SiteList) :
    viewProperty x found = viewProperty y found := by
  cases found with
  | none => rfl
  | some list => simp only [viewProperty, Option.bind_some, SiteList.viewShowing?_congr h]

/-- The properties for a description: none if there is no list or if it has no views, and otherwise
the identifier of the view that the list shows. -/
theorem exists_viewProperty_eq (x : String) (found : Option SiteList) :
    ∃ properties, viewProperty x found = .map properties ∧
      (properties = [] ↔ found = none ∨ ∃ list, found = some list ∧ list.views = []) ∧
      ∀ list, found = some list → list.views ≠ [] →
        ∃ view, list.Picks x view ∧ properties = [("ListViewId", view.id.text)] := by
  cases found with
  | none => exact ⟨[], rfl, iff_of_true rfl (.inl rfl), nofun⟩
  | some list =>
      simp only [viewProperty, Option.bind_some]
      cases hview : list.viewShowing? x with
      | none =>
          have hempty := SiteList.viewShowing?_eq_none_iff.mp hview
          refine ⟨[], rfl, iff_of_true rfl (.inr ⟨list, rfl, hempty⟩), ?_⟩
          rintro _ ⟨⟩ hne
          exact absurd hempty hne
      | some view =>
          have hpicks := SiteList.viewShowing?_eq_some_iff.mp hview
          refine ⟨_, rfl, iff_of_false (List.cons_ne_nil _ _) ?_, ?_⟩
          · rintro (hnone | ⟨_, ⟨⟩, hempty⟩)
            · cases hnone
            · rw [SiteList.viewShowing?_eq_none_iff.mpr hempty] at hview
              cases hview
          · rintro _ ⟨⟩ -
            exact ⟨view, hpicks, rfl⟩

end Catalog

namespace FunctionCall.DetectsView

variable {call c d : FunctionCall} {id : Guid} {x y : String} {ctx : Context} {s : RunState}

theorem invoke_eq (h : call.DetectsView id x) (ctx : Context) (s : RunState) :
    Library.general.invoke ctx call s =
      (.ok (Catalog.viewProperty x (Run.list? ctx id s).1), (Run.list? ctx id s).2) := by
  rw [← h.list, ← h.description]
  exact Library.invoke_of_parameters Library.find?_listDetectUsedView h.addOn h.name h.pair rfl

end FunctionCall.DetectsView

/-- **Detected views.** Matching is an equivalence between the descriptions that can be read, and
other descriptions match nothing; two that can be read match if their sections are alike level by
level.  So in every run, the function that detects views yields the same for descriptions that
match, and goes on in the same way.  It always yields properties: none exactly if there is no list
or if the list has no views, and otherwise the identifier of the view that the list shows for the
description. -/
theorem detected_views :
    (Equivalence fun x y : { x : String // (Xml.rootOf? x).isSome } => viewsMatch x y = true) ∧
    (∀ x y : String, viewsMatch x y ↔
      ∃ a b, Xml.rootOf? x = some a ∧ Xml.rootOf? y = some b ∧ ∀ name ∈ viewSections,
        Option.Rel Xml.Node.Like (a.firstNamed? name) (b.firstNamed? name)) ∧
    (∀ (ctx : Context) (s : RunState) (id : Guid) (x y : String) (c d : FunctionCall),
      c.DetectsView id x → d.DetectsView id y → viewsMatch x y →
        Library.general.invoke ctx c s = Library.general.invoke ctx d s) ∧
    ∀ (ctx : Context) (s t : RunState) (id : Guid) (found : Option SiteList) (x : String)
      (call : FunctionCall), call.DetectsView id x → Run.list? ctx id s = (found, t) →
        ∃ properties, Library.general.invoke ctx call s = (.ok (.map properties), t) ∧
          (properties = [] ↔ found = none ∨ ∃ list, found = some list ∧ list.views = []) ∧
          ∀ list, found = some list → list.views ≠ [] →
            ∃ view, list.Picks x view ∧ properties = [("ListViewId", view.id.text)] := by
  refine ⟨equivalence_viewsMatch, fun x y => viewsMatch_iff, ?_, ?_⟩
  · intro ctx s id x y c d hc hd hmatch
    rw [hc.invoke_eq, hd.invoke_eq, Catalog.viewProperty_congr hmatch]
  · intro ctx s t id found x call hcall hlist
    obtain ⟨properties, hproperty, hproperties⟩ := Catalog.exists_viewProperty_eq x found
    refine ⟨properties, ?_, hproperties⟩
    rw [hcall.invoke_eq, hlist, hproperty]

/-- A call that asks for the view of a list for a description. -/
def detectingView (id : Guid) (description : String) : FunctionCall where
  addOn := ""
  name := "ListDetectUsedView"
  output := "ListViewId"
  inputs := [{ name := "ListId", type := .guid, value := id.text },
    { name := "XmlDefinition", value := description }]

/-- A list with a view of thirty items and a default view that cannot be read. -/
def newsList : SiteList where
  id := ⟨7⟩
  title := "News"
  baseTemplate := 100
  serverRelativeUrl := "/a/Lists/News"
  views :=
    [{ id := ⟨1⟩, title := "Broken", xml := "<V>", isDefault := true },
     { id := ⟨2⟩, title := "Thirty", xml := "<V><RowLimit>30</RowLimit></V>" }]

/-- Descriptions in two layouts lead to the view with their sections, though another view of the
list is flagged as the default. -/
theorem detected_views_of_layouts :
    let ctx : Context :=
      { source := Snapshot.source { Snapshot.ofUrl "https://old.com/a" with lists := [newsList] } }
    let compact := "<V><RowLimit>30</RowLimit></V>"
    let spacious := "<V>\n <RowLimit> 30 </RowLimit>\n</V>"
    let invoke (description : String) :=
      Library.general.invoke ctx (detectingView ⟨7⟩ description) (ctx.start {})
    (detectingView ⟨7⟩ compact).DetectsView ⟨7⟩ compact ∧
      (detectingView ⟨7⟩ spacious).DetectsView ⟨7⟩ spacious ∧
      viewsMatch compact spacious ∧ invoke compact = invoke spacious ∧
      (Run.list? ctx ⟨7⟩ (ctx.start {})).1 = some newsList ∧ newsList.views ≠ [] ∧
      (invoke compact).1 =
        .ok (.map [("ListViewId", "00000000-0000-0000-0000-000000000002")]) := by
  intro ctx compact spacious invoke
  have hcompact : (detectingView ⟨7⟩ compact).DetectsView ⟨7⟩ compact :=
    ⟨rfl, rfl, rfl, by decide +kernel, by decide +kernel⟩
  have hspacious : (detectingView ⟨7⟩ spacious).DetectsView ⟨7⟩ spacious :=
    ⟨rfl, rfl, rfl, by decide +kernel, by decide +kernel⟩
  have hmatch : viewsMatch compact spacious := by decide +kernel
  obtain ⟨-, -, hrespects, hdetects⟩ := detected_views
  have hlist : Run.list? ctx ⟨7⟩ (ctx.start {}) = (some newsList, _) := rfl
  obtain ⟨properties, hinvoke, -, hpicked⟩ := hdetects ctx _ _ _ _ _ _ hcompact hlist
  obtain ⟨view, hview, rfl⟩ := hpicked newsList rfl (List.cons_ne_nil _ _)
  have hthirty : newsList.viewShowing? compact = newsList.views[1]? := by
    decide +kernel
  rw [SiteList.viewShowing?_eq_some_iff.mpr hview] at hthirty
  have hid : view.id.text = "00000000-0000-0000-0000-000000000002" := by
    rw [Option.some.inj hthirty]
    decide +kernel
  refine ⟨hcompact, hspacious, hmatch, hrespects ctx _ _ _ _ _ _ hcompact hspacious hmatch, rfl,
    List.cons_ne_nil _ _, ?_⟩
  rw [← hid]
  exact congrArg Prod.fst hinvoke

end PageMigration
