import PageMigration.Proofs.Xml.Likeness
import PageMigration.Site.ViewMatch

/-!
# Views that show the same data

Two descriptions of views match if both can be read and their sections are alike.  So they match
if what counts of their sections is the same, which makes matching an equivalence between the
descriptions that can be read.

## Main definitions

* `viewOutline?` : what counts of the description of a view.
* `SiteList.Picks` : the view that a list shows for a description.

## Main results

* `viewsMatch_iff_viewOutline?_eq`, `equivalence_viewsMatch` : matching as an equality.
* `viewsMatch_iff` : matching, section by section and level by level.
* `SiteList.viewShowing?_eq_some_iff`, `SiteList.viewShowing?_eq_none_iff` : the view that is found.
-/

namespace PageMigration

variable {x y z : String}

/-! ### Sections -/

/-- What counts of the sections of a view, each one missing or not. -/
def viewOutline? (description : String) : Option (List (Option (List Xml.Mark))) :=
  (Xml.rootOf? description).map fun root =>
    viewSections.map fun name => (root.firstNamed? name).map Xml.Node.marks

theorem sectionsAlike_iff_marks_eq (a b : Xml.Node) (name : String) : sectionsAlike a b name ↔
    (a.firstNamed? name).map Xml.Node.marks = (b.firstNamed? name).map Xml.Node.marks := by
  rw [sectionsAlike]
  cases a.firstNamed? name <;> cases b.firstNamed? name <;> simp [Xml.Node.alike]

/-- One section of two views is the same if it is missing in both, or in both and alike. -/
theorem sectionsAlike_iff (a b : Xml.Node) (name : String) : sectionsAlike a b name ↔
    Option.Rel Xml.Node.Like (a.firstNamed? name) (b.firstNamed? name) := by
  rw [sectionsAlike]
  cases hfirst : a.firstNamed? name with
  | none =>
      cases b.firstNamed? name with
      | none => simp
      | some other => simp
  | some first =>
      cases hother : b.firstNamed? name with
      | none => simp
      | some other =>
          rw [Option.rel_some_some]
          exact Xml.Node.alike_iff_like (Xml.Node.isVisible_of_firstNamed? hfirst)
            (Xml.Node.isVisible_of_firstNamed? hother)

/-! ### Matching -/

theorem viewsMatch_eq_true_iff : viewsMatch x y ↔
    ∃ a b, Xml.rootOf? x = some a ∧ Xml.rootOf? y = some b ∧
      ∀ name ∈ viewSections, sectionsAlike a b name := by
  rw [viewsMatch]
  cases Xml.rootOf? x with
  | none => simp
  | some a =>
      cases Xml.rootOf? y with
      | none => simp
      | some b => simp

/-- Two descriptions match if both can be read and their sections are alike level by level. -/
theorem viewsMatch_iff : viewsMatch x y ↔
    ∃ a b, Xml.rootOf? x = some a ∧ Xml.rootOf? y = some b ∧
      ∀ name ∈ viewSections,
        Option.Rel Xml.Node.Like (a.firstNamed? name) (b.firstNamed? name) := by
  simp only [viewsMatch_eq_true_iff, sectionsAlike_iff]

/-- Two descriptions match if the same counts of both. -/
theorem viewsMatch_iff_viewOutline?_eq :
    viewsMatch x y ↔ (Xml.rootOf? x).isSome ∧ viewOutline? x = viewOutline? y := by
  simp only [viewsMatch_eq_true_iff, sectionsAlike_iff_marks_eq, viewOutline?]
  cases Xml.rootOf? x with
  | none => simp
  | some a =>
      cases Xml.rootOf? y with
      | none => simp
      | some b => simp [List.map_inj_left]

/-- What counts of the description of a view depends on what counts of its tree. -/
theorem viewOutline?_congr {a b : Xml.Node} (hx : Xml.rootOf? x = some a)
    (hy : Xml.rootOf? y = some b) (h : a.marks = b.marks) : viewOutline? x = viewOutline? y := by
  rw [viewOutline?, viewOutline?, hx, hy, Option.map_some, Option.map_some]
  simp only [Xml.Node.map_marks_firstNamed?_congr h]

theorem isSome_of_viewsMatch (h : viewsMatch x y) :
    (Xml.rootOf? x).isSome ∧ (Xml.rootOf? y).isSome := by
  obtain ⟨a, b, hx, hy, -⟩ := viewsMatch_iff.mp h
  exact ⟨Option.isSome_of_eq_some hx, Option.isSome_of_eq_some hy⟩

theorem viewsMatch_symm (h : viewsMatch x y) : viewsMatch y x :=
  viewsMatch_iff_viewOutline?_eq.mpr
    ⟨(isSome_of_viewsMatch h).2, (viewsMatch_iff_viewOutline?_eq.mp h).2.symm⟩

theorem viewsMatch_trans (h : viewsMatch x y) (h' : viewsMatch y z) : viewsMatch x z := by
  rw [viewsMatch_iff_viewOutline?_eq] at h h' ⊢
  exact ⟨h.1, h.2.trans h'.2⟩

/-- Matching is an equivalence between the descriptions that can be read. -/
theorem equivalence_viewsMatch :
    Equivalence fun x y : { x : String // (Xml.rootOf? x).isSome } => viewsMatch x y = true where
  refl x := viewsMatch_iff_viewOutline?_eq.mpr ⟨x.2, rfl⟩
  symm := viewsMatch_symm
  trans := viewsMatch_trans

theorem viewsMatch_left_congr (h : viewsMatch x y) (description : String) :
    viewsMatch x description = viewsMatch y description := by
  rw [Bool.eq_iff_iff]
  exact ⟨fun hx => viewsMatch_trans (viewsMatch_symm h) hx, fun hy => viewsMatch_trans h hy⟩

/-- Descriptions that match each other match the same views. -/
theorem viewsMatch_right_congr (h : viewsMatch x y) (description : String) :
    viewsMatch description x = viewsMatch description y := by
  rw [Bool.eq_iff_iff]
  exact ⟨fun hx => viewsMatch_trans hx h, fun hy => viewsMatch_trans hy (viewsMatch_symm h)⟩

/-! ### Views of a list -/

namespace SiteList

variable {list : SiteList} {view : ListView}

/-- The view that a list shows for a description: the first one that matches it, or if there is none
the first one that is flagged as the default, or if there is none the first one. -/
inductive Picks (list : SiteList) (description : String) : ListView → Prop where
  | matching {before after : List ListView} {view : ListView}
      (hviews : list.views = before ++ view :: after)
      (hbefore : ∀ v ∈ before, ¬ viewsMatch v.xml description)
      (h : viewsMatch view.xml description) : list.Picks description view
  | flagged {before after : List ListView} {view : ListView}
      (hnone : ∀ v ∈ list.views, ¬ viewsMatch v.xml description)
      (hviews : list.views = before ++ view :: after) (hbefore : ∀ v ∈ before, ¬ v.isDefault)
      (h : view.isDefault) : list.Picks description view
  | first {after : List ListView} {view : ListView}
      (hnone : ∀ v ∈ list.views, ¬ viewsMatch v.xml description)
      (hunflagged : ∀ v ∈ list.views, ¬ v.isDefault)
      (hviews : list.views = view :: after) : list.Picks description view

theorem viewShowing?_eq_some_iff : list.viewShowing? x = some view ↔ list.Picks x view := by
  rw [viewShowing?, defaultView?]
  constructor
  · intro h
    cases hmatching : list.views.find? fun v => viewsMatch v.xml x with
    | some found =>
        rw [hmatching, Option.some_or] at h
        cases h
        obtain ⟨hfound, before, after, hviews, hbefore⟩ :=
          List.find?_eq_some_iff_append.mp hmatching
        exact .matching hviews (by simpa using hbefore) hfound
    | none =>
        rw [hmatching, Option.none_or] at h
        rw [List.find?_eq_none] at hmatching
        cases hflagged : list.views.find? ListView.isDefault with
        | some found =>
            rw [hflagged, Option.some_or] at h
            cases h
            obtain ⟨hfound, before, after, hviews, hbefore⟩ :=
              List.find?_eq_some_iff_append.mp hflagged
            exact .flagged hmatching hviews (by simpa using hbefore) hfound
        | none =>
            rw [hflagged, Option.none_or, List.head?_eq_some_iff] at h
            obtain ⟨after, hviews⟩ := h
            exact .first hmatching (List.find?_eq_none.mp hflagged) hviews
  · intro h
    cases h with
    | matching hviews hbefore h =>
        have hfound : (list.views.find? fun v => viewsMatch v.xml x) = some view :=
          List.find?_eq_some_iff_append.mpr ⟨h, _, _, hviews, by simpa using hbefore⟩
        rw [hfound, Option.some_or]
    | flagged hnone hviews hbefore h =>
        have hfound : list.views.find? ListView.isDefault = some view :=
          List.find?_eq_some_iff_append.mpr ⟨h, _, _, hviews, by simpa using hbefore⟩
        rw [List.find?_eq_none.mpr hnone, Option.none_or, hfound, Option.some_or]
    | first hnone hunflagged hviews =>
        rw [List.find?_eq_none.mpr hnone, List.find?_eq_none.mpr hunflagged, Option.none_or,
          Option.none_or, hviews, List.head?_cons]

/-- Only a list without views shows none. -/
theorem viewShowing?_eq_none_iff : list.viewShowing? x = none ↔ list.views = [] := by
  rw [viewShowing?, defaultView?, Option.or_eq_none_iff, Option.or_eq_none_iff,
    List.head?_eq_none_iff]
  refine ⟨fun h => h.2.2, fun h => ?_⟩
  rw [h]
  exact ⟨rfl, rfl, rfl⟩

/-- A list shows one view for descriptions that match. -/
theorem viewShowing?_congr (h : viewsMatch x y) : list.viewShowing? x = list.viewShowing? y := by
  rw [viewShowing?, viewShowing?]
  simp only [viewsMatch_right_congr h]

end SiteList

end PageMigration
