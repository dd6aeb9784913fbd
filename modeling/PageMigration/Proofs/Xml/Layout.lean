import Mathlib.Logic.Relation
import PageMigration.Proofs.Site.ViewMatch

/-!
# Layout of trees

What stands between the children of an element plays no role for likeness: comments, instructions
and blank texts may be put there, and blanks at the ends of texts.  Elements are alike exactly if
such changes lead from one to the other.  A comment or an instruction inside a text is another
matter, because it makes two texts of one: it plays no role if one of them is blank, and otherwise
the elements around it are no longer alike.

## Main definitions

* `Xml.Node.Edit` : one edit in a row of children.
* `Xml.Node.Change` : one edit somewhere in a tree, and whether it divides a visible text.
* `Xml.Node.SameAnswers`, `SameMatches` : elements and views that are not told apart.

## Main results

* `Xml.Node.Change.marks_eq`, `Xml.Node.Change.length_marks` : what a change does to the marks.
* `Xml.Node.alike_iff_eqvGen_change` : elements are alike up to layout.
* `layout_of_views` : layout does not matter to views, but divided texts do.
* `divided_row_limit` : a comment that a view is not recognised with.
-/

namespace PageMigration

namespace Xml.Node

/-- One edit in a row of children: the children before and after it, and whether a visible text is
divided by it. -/
inductive Edit : Bool → List Node → List Node → Prop where
  /-- A comment, an instruction or a blank text is put between two children. -/
  | insert {node : Node} (h : ¬ node.isVisible) : Edit false [] [node]
  /-- The blanks at the ends of a text are changed. -/
  | pad {content other : String} (h : Chars.trim content.toList = Chars.trim other.toList) :
      Edit false [.text content] [.text other]
  /-- A comment or an instruction is put into a text. -/
  | divide {start rest : String} {node : Node} (h : ¬ node.isVisible) :
      Edit (!Chars.blank start.toList && !Chars.blank rest.toList)
        [.text (start ++ rest)] [.text start, node, .text rest]

/-- One edit somewhere in a tree. -/
inductive Change (divides : Bool) : Node → Node → Prop where
  | here {name : String} {attributes : List (String × String)} {before old new after : List Node}
      (h : Edit divides old new) :
      Change divides (.element name attributes (before ++ old ++ after))
        (.element name attributes (before ++ new ++ after))
  | inside {name : String} {attributes : List (String × String)} {before after : List Node}
      {child changed : Node} (h : Change divides child changed) :
      Change divides (.element name attributes (before ++ [child] ++ after))
        (.element name attributes (before ++ [changed] ++ after))

/-! ### Marks of changed trees -/

variable {divides : Bool} {a b : Node}

theorem marksOfAll_singleton (a : Node) : marksOfAll [a] = a.marks := by
  rw [marksOfAll, marksOfAll, List.append_nil]

theorem marks_element (name : String) (attributes : List (String × String))
    (before middle after : List Node) :
    (element name attributes (before ++ middle ++ after)).marks =
      .opens name attributes :: (marksOfAll before ++ marksOfAll middle ++ marksOfAll after ++
        [.closes]) := by
  rw [marks, marksOfAll_append, marksOfAll_append]

theorem not_isVisible_text_iff {content : String} :
    ¬ (text content).isVisible ↔ Chars.blank content.toList := by
  rw [isVisible, Bool.not_eq_true', Bool.not_eq_false, List.isEmpty_iff, Chars.trim_eq_nil_iff]

theorem marks_text_of_blank {content : String} (h : Chars.blank content.toList) :
    (text content).marks = [] :=
  marks_of_not_isVisible (not_isVisible_text_iff.mpr h)

theorem length_marks_text {content : String} (h : ¬ Chars.blank content.toList) :
    (text content).marks.length = 1 := by
  rw [marks_text (not_not.mp fun hinvisible => h (not_isVisible_text_iff.mp hinvisible))]
  rfl

theorem marks_text_congr {content other : String}
    (h : Chars.trim content.toList = Chars.trim other.toList) :
    (text content).marks = (text other).marks := by
  simp only [marks, h]

theorem Edit.marksOfAll_eq {old new : List Node} (h : Edit divides old new)
    (hdivides : divides = false) : marksOfAll old = marksOfAll new := by
  cases h with
  | insert h => rw [marksOfAll_singleton, marks_of_not_isVisible h, marksOfAll]
  | pad h => rw [marksOfAll_singleton, marksOfAll_singleton, marks_text_congr h]
  | @divide start rest node h =>
      rw [marksOfAll_singleton, marksOfAll, marksOfAll, marksOfAll_singleton,
        marks_of_not_isVisible h, List.nil_append]
      rw [Bool.and_eq_false_iff, Bool.not_eq_false', Bool.not_eq_false'] at hdivides
      rcases hdivides with hstart | hrest
      · rw [marks_text_of_blank hstart, List.nil_append]
        exact marks_text_congr (by rw [String.toList_append, Chars.trim_blank_append hstart])
      · rw [marks_text_of_blank hrest, List.append_nil]
        exact marks_text_congr (by rw [String.toList_append, Chars.trim_append_blank hrest])

/-- Changes that divide no visible text leave the marks as they are. -/
theorem Change.marks_eq (h : Change false a b) : a.marks = b.marks := by
  induction h with
  | here h => rw [marks_element, marks_element, h.marksOfAll_eq rfl]
  | inside _ ih => rw [marks_element, marks_element, marksOfAll_singleton, marksOfAll_singleton, ih]

theorem Edit.length_marksOfAll {old new : List Node} (h : Edit divides old new)
    (hdivides : divides = true) : (marksOfAll new).length = (marksOfAll old).length + 1 := by
  cases h with
  | insert h => cases hdivides
  | pad h => cases hdivides
  | @divide start rest node h =>
      simp only [Bool.and_eq_true, Bool.not_eq_true', ← Bool.not_eq_true] at hdivides
      have hboth : ¬ Chars.blank (start ++ rest).toList := by
        rw [String.toList_append, Chars.blank_append, Bool.and_eq_true]
        exact fun hblank => hdivides.1 hblank.1
      rw [marksOfAll_singleton, marksOfAll, marksOfAll, marksOfAll_singleton,
        marks_of_not_isVisible h, List.nil_append, List.length_append,
        length_marks_text hdivides.1, length_marks_text hdivides.2, length_marks_text hboth]

/-- Changes that divide a visible text add a mark. -/
theorem Change.length_marks (h : Change true a b) : b.marks.length = a.marks.length + 1 := by
  induction h with
  | here h =>
      have hlength := h.length_marksOfAll rfl
      simp only [marks_element, List.length_cons, List.length_append]
      omega
  | inside _ ih =>
      simp only [marks_element, marksOfAll_singleton, List.length_cons, List.length_append]
      omega

/-! ### Likeness up to layout -/

open Relation

theorem alike_eq_true_iff : a.alike b ↔ a.marks = b.marks :=
  decide_eq_true_iff

theorem marks_eq_of_eqvGen_change (h : EqvGen (Change false) a b) : a.marks = b.marks := by
  induction h with
  | rel a b h => exact h.marks_eq
  | refl a => rfl
  | symm a b _ ih => exact ih.symm
  | trans a b c _ _ ih ih' => exact ih.trans ih'

section

variable {name : String} {attributes : List (String × String)}

/-- Changes of a child are changes of its element. -/
theorem eqvGen_change_inside (before after : List Node) (h : EqvGen (Change false) a b) :
    EqvGen (Change false) (.element name attributes (before ++ [a] ++ after))
      (.element name attributes (before ++ [b] ++ after)) := by
  induction h with
  | rel a b h => exact .rel _ _ (.inside h)
  | refl a => exact .refl _
  | symm a b _ ih => exact ih.symm
  | trans a b c _ _ ih ih' => exact ih.trans _ _ _ ih'

/-- The children that do not count can be taken away one after the other. -/
theorem eqvGen_change_filter (before nodes : List Node) :
    EqvGen (Change false) (.element name attributes (before ++ nodes))
      (.element name attributes (before ++ nodes.filter isVisible)) := by
  induction nodes generalizing before with
  | nil => exact .refl _
  | cons node nodes ih =>
      by_cases h : node.isVisible
      · have hrest := ih (before ++ [node])
        rw [List.append_assoc, List.append_assoc] at hrest
        rwa [List.filter_cons_of_pos h]
      · have hinsert : Change false (.element name attributes (before ++ [] ++ nodes))
            (.element name attributes (before ++ [node] ++ nodes)) := .here (.insert h)
        rw [List.append_nil, List.append_assoc] at hinsert
        rw [List.filter_cons_of_neg h]
        exact (EqvGen.symm _ _ (.rel _ _ hinsert)).trans _ _ _ (ih before)

/-- Children can be replaced one after the other. -/
theorem eqvGen_change_of_forall₂ {as bs : List Node} (h : List.Forall₂ Like as bs)
    (hreplace : ∀ a ∈ as, ∀ b, Like a b → ∀ before after,
      EqvGen (Change false) (.element name attributes (before ++ [a] ++ after))
        (.element name attributes (before ++ [b] ++ after))) (before : List Node) :
    EqvGen (Change false) (.element name attributes (before ++ as))
      (.element name attributes (before ++ bs)) := by
  induction h generalizing before with
  | nil => exact .refl _
  | @cons a b as bs hlike _ ih =>
      rw [List.forall_mem_cons] at hreplace
      have hfirst := hreplace.1 b hlike before as
      have hrest := ih hreplace.2 (before ++ [b])
      rw [List.append_assoc, List.append_assoc] at hfirst
      rw [List.append_assoc, List.append_assoc] at hrest
      exact hfirst.trans _ _ _ hrest

theorem eqvGen_change_element {children others : List Node}
    (h : List.Forall₂ Like (children.filter isVisible) (others.filter isVisible))
    (hreplace : ∀ a ∈ children, ∀ b, Like a b → ∀ before after,
      EqvGen (Change false) (.element name attributes (before ++ [a] ++ after))
        (.element name attributes (before ++ [b] ++ after))) :
    EqvGen (Change false) (.element name attributes children)
      (.element name attributes others) := by
  have hvisible := eqvGen_change_of_forall₂ h
    (fun a ha => hreplace a (List.mem_of_mem_filter ha)) []
  have hchildren := @eqvGen_change_filter name attributes [] children
  have hothers := @eqvGen_change_filter name attributes [] others
  exact (hchildren.trans _ _ _ hvisible).trans _ _ _ hothers.symm

end

/-- A child can be replaced by one that it is like. -/
theorem Like.eqvGen_change_inside (h : Like a b) (name : String)
    (attributes : List (String × String)) (before after : List Node) :
    EqvGen (Change false) (.element name attributes (before ++ [a] ++ after))
      (.element name attributes (before ++ [b] ++ after)) := by
  induction a using Node.induction generalizing b name attributes before after with
  | element n as children ih =>
      cases h with
      | element hlike =>
          exact Node.eqvGen_change_inside before after (eqvGen_change_element hlike
            fun child hchild _ hchildren => ih child hchild hchildren n as)
  | text content =>
      cases h with
      | text htrim => exact .rel _ _ (.here (.pad htrim))
  | comment content => cases h
  | instruction target content => cases h

/-- **Likeness up to layout.** Two elements are alike exactly if changes that divide no visible
text, made or undone, lead from one to the other. -/
theorem alike_iff_eqvGen_change (ha : a.isElement) (hb : b.isElement) :
    a.alike b ↔ EqvGen (Change false) a b := by
  refine ⟨fun h => ?_, fun h => alike_eq_true_iff.mpr (marks_eq_of_eqvGen_change h)⟩
  have hvisible {a : Node} (h : a.isElement) : a.isVisible := by
    cases a with
    | element => rfl
    | _ => cases h
  cases (alike_iff_like (hvisible ha) (hvisible hb)).mp h with
  | @element name attributes _ _ hlike =>
      exact eqvGen_change_element hlike fun _ _ _ hchildren =>
        hchildren.eqvGen_change_inside name attributes
  | text => cases ha

/-- One change leaves elements alike exactly if it divides no visible text. -/
theorem Change.alike_iff (h : Change divides a b) : a.alike b ↔ divides = false := by
  rw [alike_eq_true_iff]
  cases divides with
  | false => exact iff_of_true h.marks_eq rfl
  | true =>
      refine iff_of_false (fun hmarks => ?_) Bool.noConfusion
      have hlength := h.length_marks
      rw [hmarks] at hlength
      omega

/-- Likeness does not tell two elements apart, whatever they are compared with. -/
def SameAnswers (a b : Node) : Prop :=
  ∀ c : Node, a.alike c = b.alike c ∧ c.alike a = c.alike b

theorem sameAnswers_iff : SameAnswers a b ↔ a.alike b := by
  rw [alike_eq_true_iff]
  constructor
  · intro h
    have hself : b.alike b = true := alike_eq_true_iff.mpr rfl
    exact alike_eq_true_iff.mp ((h b).1.trans hself)
  · intro hmarks c
    simp only [alike, hmarks, true_and]

end Xml.Node

/-! ### Views -/

section

open Relation Xml Xml.Node

variable {x y : String} {a b : Node}

/-- Matching does not tell two views apart, whatever they are matched with. -/
def SameMatches (x y : String) : Prop :=
  ∀ z : String, viewsMatch x z = viewsMatch y z ∧ viewsMatch z x = viewsMatch z y

theorem sameMatches_iff (hx : (rootOf? x).isSome) : SameMatches x y ↔ viewsMatch x y := by
  constructor
  · intro h
    have hself : viewsMatch x x = true := viewsMatch_iff_viewOutline?_eq.mpr ⟨hx, rfl⟩
    exact viewsMatch_symm ((h x).1.symm.trans hself)
  · exact fun h z => ⟨viewsMatch_left_congr h z, viewsMatch_right_congr h z⟩

theorem isElement_of_firstNamed? {name : String} {part : Node}
    (h : a.firstNamed? name = some part) : part.isElement := by
  obtain ⟨attributes, children, rfl⟩ := exists_of_firstNamed? h
  rfl

/-- One section of two views is the same if it is missing in both, or in both with the same
layout. -/
theorem sectionsAlike_iff_rel_change (a b : Node) (name : String) : sectionsAlike a b name ↔
    Option.Rel (EqvGen (Change false)) (a.firstNamed? name) (b.firstNamed? name) := by
  rw [sectionsAlike]
  cases hfirst : a.firstNamed? name with
  | none => cases b.firstNamed? name <;> simp
  | some part =>
      cases hother : b.firstNamed? name with
      | none => simp
      | some other =>
          rw [Option.rel_some_some]
          exact alike_iff_eqvGen_change (isElement_of_firstNamed? hfirst)
            (isElement_of_firstNamed? hother)

theorem sameMatches_iff_rel_change (hx : rootOf? x = some a) (hy : rootOf? y = some b) :
    SameMatches x y ↔ ∀ name ∈ viewSections,
      Option.Rel (EqvGen (Change false)) (a.firstNamed? name) (b.firstNamed? name) := by
  rw [sameMatches_iff (Option.isSome_of_eq_some hx), viewsMatch_eq_true_iff]
  simp only [hx, hy, Option.some.injEq, exists_and_left, exists_eq_left',
    sectionsAlike_iff_rel_change]

theorem sameMatches_of_eqvGen_change (hx : rootOf? x = some a) (hy : rootOf? y = some b)
    (h : EqvGen (Change false) a b) : SameMatches x y :=
  (sameMatches_iff (Option.isSome_of_eq_some hx)).mpr (viewsMatch_iff_viewOutline?_eq.mpr
    ⟨Option.isSome_of_eq_some hx, viewOutline?_congr hx hy (marks_eq_of_eqvGen_change h)⟩)

/-- **Layout of views.** Likeness does not tell two elements apart exactly if changes that divide no
visible text lead from one to the other; after one change, exactly if it divides none.  Matching
does not tell two views apart exactly if this is so for each of their sections, so it does not if it
is so for the views, but it does if one change of a section divides a visible text. -/
theorem layout_of_views (ha : a.isElement) (hb : b.isElement) :
    (SameAnswers a b ↔ EqvGen (Change false) a b) ∧
    (∀ divides, Change divides a b → (SameAnswers a b ↔ divides = false)) ∧
    ∀ x y : String, rootOf? x = some a → rootOf? y = some b →
      (EqvGen (Change false) a b → SameMatches x y) ∧
      (SameMatches x y ↔ ∀ name ∈ viewSections,
        Option.Rel (EqvGen (Change false)) (a.firstNamed? name) (b.firstNamed? name)) ∧
      ∀ name ∈ viewSections, ∀ part changed divides,
        a.firstNamed? name = some part → b.firstNamed? name = some changed →
          Change divides part changed → SameMatches x y → divides = false := by
  refine ⟨?_, ?_, fun x y hx hy => ⟨sameMatches_of_eqvGen_change hx hy,
    sameMatches_iff_rel_change hx hy, ?_⟩⟩
  · rw [sameAnswers_iff, alike_iff_eqvGen_change ha hb]
  · intro divides h
    rw [sameAnswers_iff, h.alike_iff]
  · intro name hname part changed divides hpart hchanged h hsame
    have hsection := (sameMatches_iff_rel_change hx hy).mp hsame name hname
    rw [hpart, hchanged, Option.rel_some_some] at hsection
    exact h.alike_iff.mp (alike_eq_true_iff.mpr (marks_eq_of_eqvGen_change hsection))

/-- Comments around a row limit and blanks in front of its number play no role; an instruction
between its digits does. -/
theorem layout_of_views_of_row_limit :
    let plain := "<V><RowLimit>30</RowLimit></V>"
    let spacious := "<V><!--a--><RowLimit> 30<!--b--></RowLimit></V>"
    let divided := "<V><RowLimit>3<?c?>0</RowLimit></V>"
    let limit (children : List Node) : Node := .element "RowLimit" [] children
    let plainTree : Node := .element "V" [] [limit [.text "30"]]
    let spaciousTree : Node := .element "V" [] [.comment "a", limit [.text " 30", .comment "b"]]
    let dividedTree : Node :=
      .element "V" [] [limit [.text "3", .instruction "c" "", .text "0"]]
    rootOf? plain = some plainTree ∧ rootOf? spacious = some spaciousTree ∧
      rootOf? divided = some dividedTree ∧
      EqvGen (Change false) plainTree spaciousTree ∧ SameMatches plain spacious ∧
      Change true (limit [.text "30"]) (limit [.text "3", .instruction "c" "", .text "0"]) ∧
      ¬ SameMatches plain divided := by
  intro plain spacious divided limit plainTree spaciousTree dividedTree
  have hplain : rootOf? plain = some plainTree := by decide +kernel
  have hspacious : rootOf? spacious = some spaciousTree := by decide +kernel
  have hdivided : rootOf? divided = some dividedTree := by decide +kernel
  obtain ⟨hanswers, -, hviews⟩ := layout_of_views (a := plainTree) (b := spaciousTree) rfl rfl
  have hlayout : EqvGen (Change false) plainTree spaciousTree :=
    hanswers.mp (sameAnswers_iff.mpr (by decide))
  obtain ⟨-, -, hdivides⟩ := layout_of_views (a := plainTree) (b := dividedTree) rfl rfl
  have hvisible : (!Chars.blank "3".toList && !Chars.blank "0".toList) = true := by decide
  have hedit : Edit true [.text ("3" ++ "0")] [.text "3", .instruction "c" "", .text "0"] :=
    hvisible ▸ .divide Bool.false_ne_true
  have hchange : Change true (limit ([] ++ [.text ("3" ++ "0")] ++ []))
      (limit ([] ++ [.text "3", .instruction "c" "", .text "0"] ++ [])) := .here hedit
  rw [show "3" ++ "0" = "30" from by decide] at hchange
  refine ⟨hplain, hspacious, hdivided, hlayout, (hviews _ _ hplain hspacious).1 hlayout, hchange,
    fun hsame => ?_⟩
  cases (hdivides _ _ hplain hdivided).2.2 "RowLimit" (by decide) _ _ _ rfl rfl hchange hsame

/-- A comment between the digits of a row limit makes it another one. -/
theorem divided_row_limit :
    let plain := "<V><RowLimit>30</RowLimit></V>"
    let divided := "<V><RowLimit>3<!--c-->0</RowLimit></V>"
    let limit (children : List Node) : Node := .element "RowLimit" [] children
    let digits := limit [.text "30"]
    let dividedDigits := limit [.text "3", .comment "c", .text "0"]
    rootOf? plain = some (.element "V" [] [digits]) ∧
      rootOf? divided = some (.element "V" [] [dividedDigits]) ∧
      digits.alike digits = true ∧ digits.alike dividedDigits = false ∧
      viewsMatch plain plain = true ∧ viewsMatch plain divided = false := by
  refine ⟨?_, ?_, ?_, ?_, ?_, ?_⟩ <;> decide +kernel

end

end PageMigration
