import PageMigration.Chars.Search
import PageMigration.Proofs.Html.TagPatterns

/-!
# Classes in tags

The pass that takes the classes out of rich text is not confined to tags, and leaves nothing in
place of what it takes out.  In a tag whose classes are closed in it, and set apart from what comes
after them, it takes out pieces that stood between two parts of the tag, neither of them a part of
the name.

## Main definitions

* `RichText.classValue?` : what is given as the classes at the start of a text.
* `RichText.classesApart` : whether the classes in a tag are closed and set apart.
* `RichText.Thinned` : what is in a tag without some of its attributes.

## Main results

* `RichText.exists_of_classAttribute` : the piece that is taken out at a place in a tag.
* `RichText.exists_thinned` : a tag after the pass.
* `RichText.occurs_of_withoutClasses` : the pass makes no tags of the elements that are taken out.
-/

namespace PageMigration.RichText

open Html Pattern SiteLink

/-! ### Where classes are given -/

/-- What may follow the name of an element or an attribute in a tag. -/
def endsName (c : Char) : Bool :=
  Chars.isBlank c || c == '/'

theorem inWord_of_endsName {c : Char} (h : endsName c) : Chars.inWord c = false := by
  have hcodes : ∀ n ∈ List.range' 9 5 ++ List.range' 0x2000 11 ++ [0x20, 0x2F, 0x85, 0xA0, 0x1680,
      0x2028, 0x2029, 0x202F, 0x205F, 0x3000], Chars.inWord (Char.ofNat n) = false := by
    decide +kernel
  have hcode : Chars.isBlank c ∨ c.toNat = 0x2F := by
    rw [endsName, Bool.or_eq_true, beq_iff_eq] at h
    exact h.imp id (congrArg Char.toNat)
  have hout := hcodes c.toNat (by
    simp only [Chars.isBlank, Bool.or_eq_true, Bool.and_eq_true, decide_eq_true_eq, beq_iff_eq]
      at hcode
    simp only [List.mem_append, List.mem_range'_1, List.mem_cons, List.not_mem_nil, or_false]
    omega)
  rwa [Char.ofNat_toNat] at hout

/-- What follows the equality sign, if a text starts with an attribute that gives classes. -/
def classValue? (s : List Char) : Option (List Char) :=
  if s.head?.any Chars.isBlank then
    (stripFolded? "class".toList (Chars.trimStart s)).bind fun rest =>
      (stripFolded? "=".toList (Chars.trimStart rest)).map Chars.trimStart
  else none

/-- Whether the value of an attribute is closed, if it is in quotes, and set apart from what
follows. -/
def closedValue : List Char → Bool
  | [] => true
  | c :: s =>
      if c == '"' || c == '\'' then
        (Chars.cut? c s).any fun (_, rest) => rest.head?.all endsName
      else true

/-- Whether the classes that are given in a text, from any place on, pass a test. -/
def everyClass (accepts : List Char → Bool) : List Char → Bool
  | [] => true
  | c :: s => (classValue? (c :: s)).all accepts && everyClass accepts s

/-- Whether the classes in a tag are closed and set apart; there are none in end tags, and none
right after the opening bracket. -/
def classesApart : List Char → Bool
  | [] => true
  | c :: body =>
      (classValue? (c :: body)).isNone && everyClass (fun v => c != '/' && closedValue v) body

variable {accepts : List Char → Bool} {before : Option Char} {c : Char}
  {s x y z v w r : List Char}

theorem everyClass_of_append (h : everyClass accepts (z ++ s)) : everyClass accepts s := by
  induction z with
  | nil => exact h
  | cons c z ih =>
      rw [List.cons_append, everyClass, Bool.and_eq_true] at h
      exact ih h.2

theorem everyClass_mono {accepts' : List Char → Bool} (himp : ∀ v, accepts v → accepts' v)
    (h : everyClass accepts s) : everyClass accepts' s := by
  induction s with
  | nil => rfl
  | cons c s ih =>
      rw [everyClass, Bool.and_eq_true, Option.all_eq_true] at h ⊢
      exact ⟨fun v hv => himp v (h.1 v hv), ih h.2⟩

theorem everyClass_closed (h : everyClass (fun v => c != '/' && closedValue v) s) :
    everyClass closedValue s :=
  everyClass_mono (fun _ hv => (Bool.and_eq_true_iff.mp hv).2) h

/-! ### Values -/

/-- A character of a value that is not in quotes. -/
def isPlain (c : Char) : Bool :=
  !Chars.isBlank c && c != '>'

/-- What may be given as the classes. -/
def classesGiven : Pattern :=
  any [quoted '"', quoted '\'', some_ isPlain]

theorem matches_quoted_iff {q : Char} (hq : Chars.isMark q) {m after : List Char} :
    Matches (quoted q) before m after ↔ ∃ content, m = q :: (content ++ [q]) ∧ q ∉ content := by
  have hletter {before : Option Char} {m after : List Char} :
      Matches (letter q) before m after ↔ m = [q] := by
    rw [letter, matches_one_iff]
    constructor
    · rintro ⟨c, rfl, hc⟩
      rw [Chars.eq_of_sameLetter hq hc]
    · rintro rfl
      exact ⟨q, rfl, beq_self_eq_true _⟩
  simp only [quoted, all, matches_seq_iff, hletter, matches_many_iff, bne_iff_ne]
  constructor
  · rintro ⟨_, _, rfl, rfl, content, _, rfl, hcontent, rfl⟩
    exact ⟨content, rfl, fun hmem => hcontent q hmem rfl⟩
  · rintro ⟨content, rfl, hcontent⟩
    exact ⟨[q], _, rfl, rfl, content, [q], rfl, fun c hc heq => hcontent (heq ▸ hc), rfl⟩

theorem rest?_quoted {q : Char} (hq : Chars.isMark q) (hv : q ∉ v) (s : List Char) :
    (quoted q).rest? before (q :: (v ++ q :: s)) = some s := by
  have hmatch : Matches (quoted q) before (q :: (v ++ [q])) s :=
    (matches_quoted_iff hq).mpr ⟨v, rfl, hv⟩
  obtain ⟨rest, hrest⟩ := Option.ne_none_iff_exists'.mp (rest?_ne_none hmatch)
  rw [List.cons_append, List.append_assoc, List.singleton_append] at hrest
  obtain ⟨_, heq, hmatch'⟩ := exists_of_rest?_eq_some hrest
  obtain ⟨content, rfl, hcontent⟩ := (matches_quoted_iff hq).mp hmatch'
  rw [List.cons_append, List.append_assoc, List.singleton_append] at heq
  have hcut : Chars.cut? q (v ++ q :: s) = some (content, rest) :=
    Chars.cut?_eq_some_iff.mpr ⟨(List.cons.inj heq).2, hcontent⟩
  rw [Chars.cut?_append s hv] at hcut
  cases hcut
  exact hrest

theorem rest?_quoted_eq_none {q : Char} (hq : Chars.isMark q) (h : ∀ c ∈ s.head?, c ≠ q) :
    (quoted q).rest? before s = none := by
  have hbegins : (quoted q).Begins (· = q) := fun _ _ _ hmatch => by
    obtain ⟨content, rfl, -⟩ := (matches_quoted_iff hq).mp hmatch
    exact ⟨q, _, rfl, rfl⟩
  exact hbegins.rest?_eq_none h

theorem classesGiven_rest? : classesGiven.rest? before s =
    firstOf ((quoted '"').rest? before s) fun _ => firstOf ((quoted '\'').rest? before s) fun _ =>
      (some_ isPlain).rest? before s :=
  rfl

theorem exists_of_closedValue {q : Char} (hq : q = '"' ∨ q = '\'') (h : closedValue (q :: v)) :
    ∃ content x, v = content ++ q :: x ∧ q ∉ content ∧ ∀ c ∈ x.head?, endsName c := by
  rw [closedValue, if_pos (by rcases hq with rfl | rfl <;> rfl)] at h
  obtain ⟨⟨content, x⟩, hcut, hends⟩ := (Option.any_eq_true _ _).mp h
  obtain ⟨rfl, hcontent⟩ := Chars.cut?_eq_some_iff.mp hcut
  exact ⟨content, x, rfl, hcontent, fun c hc => (Option.all_eq_true _ _).mp hends c hc⟩

/-- What follows a value in a tag that is not in quotes. -/
theorem dropWhile_isPlain (h : Splits s v y) :
    s.dropWhile isPlain = v.dropWhile isPlain ++ y ∧
      ∀ c ∈ (v.dropWhile isPlain).head?, endsName c := by
  constructor
  · have hclosed : y.dropWhile isPlain = y :=
      dropWhile_append_of_head (a := []) (by nofun) fun c hc => by
        rw [h.closed c hc]
        decide
    rw [h.eq, List.dropWhile_append, hclosed]
    split_ifs with hnil
    · rw [List.isEmpty_iff.mp hnil, List.nil_append]
    · rfl
  · intro c hc
    have hout := List.head?_dropWhile_not isPlain v
    have hmem := List.dropWhile_subset isPlain (List.mem_of_mem_head? hc)
    have hnot : (c != '>') = true := bne_iff_ne.mpr (inTag_iff.mp (h.inside c hmem)).2
    rw [hc] at hout
    change isPlain c = false at hout
    rw [isPlain, hnot, Bool.and_true, Bool.not_eq_false'] at hout
    rw [endsName, hout, Bool.true_or]

/-- A value in a tag, if it is closed and set apart, is passed over by itself. -/
theorem exists_of_classesGiven (h : Splits s v y) (hclosed : closedValue v)
    (hblank : ∀ c ∈ v.head?, Chars.isBlank c = false)
    (hrest : classesGiven.rest? before s = some r) :
    ∃ m x, v = m ++ x ∧ r = x ++ y ∧ ∀ c ∈ x.head?, endsName c := by
  rw [classesGiven_rest?, h.eq] at hrest
  cases v with
  | nil =>
      have hother {q : Char} (hq : q ≠ '>') : ∀ c ∈ y.head?, c ≠ q := fun c hc heq =>
        hq (heq.symm.trans (h.closed c hc))
      have hbegins : (some_ isPlain).Begins (isPlain ·) := .one_seq (fun _ hc => hc) _
      have hplain : (some_ isPlain).rest? before y = none :=
        hbegins.rest?_eq_none fun c hc => by
          rw [h.closed c hc]
          decide
      rw [List.nil_append, rest?_quoted_eq_none rfl (hother (by decide)),
        rest?_quoted_eq_none rfl (hother (by decide)), hplain] at hrest
      cases hrest
  | cons c v =>
      by_cases hquote : c = '"' ∨ c = '\''
      · obtain ⟨content, x, rfl, hcontent, hends⟩ := exists_of_closedValue hquote hclosed
        have hquoted (hc : Chars.isMark c) : (quoted c).rest? before
            (c :: (content ++ c :: x) ++ y) = some (x ++ y) := by
          rw [List.cons_append, List.append_assoc, List.cons_append]
          exact rest?_quoted hc hcontent (x ++ y)
        refine ⟨c :: (content ++ [c]), x, by simp, ?_, hends⟩
        rcases hquote with rfl | rfl
        · rw [hquoted rfl] at hrest
          exact (Option.some.inj hrest).symm
        · rw [rest?_quoted_eq_none rfl (by rintro _ ⟨⟩; decide), hquoted rfl] at hrest
          exact (Option.some.inj hrest).symm
      · rw [not_or] at hquote
        have hplain : isPlain c := by
          rw [isPlain, hblank c rfl]
          exact bne_iff_ne.mpr (inTag_iff.mp (h.inside c List.mem_cons_self)).2
        have hdrop := dropWhile_isPlain h
        rw [h.eq, List.cons_append, List.dropWhile_cons_of_pos hplain] at hdrop
        rw [rest?_quoted_eq_none rfl (by rintro _ ⟨⟩; exact hquote.1),
          rest?_quoted_eq_none rfl (by rintro _ ⟨⟩; exact hquote.2), List.cons_append,
          rest?_some_of_pos hplain, hdrop.1] at hrest
        exact ⟨_, _, List.takeWhile_append_dropWhile.symm, (Option.some.inj hrest).symm, hdrop.2⟩

/-! ### Pieces that give classes -/

/-- A piece that gives classes, up to the value. -/
def IsClassKey (m : List Char) : Prop :=
  ∃ a n b d, m = a ++ (n ++ (b ++ '=' :: d)) ∧ a ≠ [] ∧ Chars.blank a ∧
    Spells "class".toList n ∧ Chars.blank b ∧ Chars.blank d

theorem trimStart_append_of_head {a b : List Char} (ha : Chars.blank a)
    (hb : ∀ c ∈ b.head?, Chars.isBlank c = false) : Chars.trimStart (a ++ b) = b :=
  dropWhile_append_of_head (List.all_eq_true.mp ha) hb

theorem isElementName_class : IsElementName "class" := by
  decide

theorem classValue?_append {m : List Char} (hm : IsClassKey m)
    (hv : ∀ c ∈ v.head?, Chars.isBlank c = false) : classValue? (m ++ v) = some v := by
  obtain ⟨a, n, b, d, rfl, hne, ha, hn, hb, hd⟩ := hm
  obtain ⟨c, a, rfl⟩ := List.exists_cons_of_ne_nil hne
  have hc : Chars.isBlank c := List.all_eq_true.mp ha c List.mem_cons_self
  have hname : ∀ c ∈ (n ++ (b ++ '=' :: (d ++ v))).head?, Chars.isBlank c = false := by
    obtain ⟨e, n, rfl⟩ := List.exists_cons_of_ne_nil (ne_nil_of_spells (by decide) hn)
    rintro _ ⟨⟩
    exact (of_spells isElementName_class.2 hn e List.mem_cons_self).1
  have hequals : stripFolded? "=".toList ('=' :: (d ++ v)) = some (d ++ v) :=
    stripFolded?_eq_some_iff.mpr ⟨['='], rfl, (spells_iff_of_isMark (by decide)).mpr rfl⟩
  have hspells : stripFolded? "class".toList (n ++ (b ++ '=' :: (d ++ v))) =
      some (b ++ '=' :: (d ++ v)) := stripFolded?_eq_some_iff.mpr ⟨n, rfl, hn⟩
  simp only [List.append_assoc, List.cons_append]
  rw [classValue?, List.head?_cons, Option.any_some, if_pos hc, ← List.cons_append,
    trimStart_append_of_head ha hname, hspells, Option.bind_some,
    trimStart_append_of_head hb (by rintro _ ⟨⟩; decide), hequals, Option.map_some,
    trimStart_append_of_head hd hv]

/-- The pattern for classes matches what gives them, and a value. -/
theorem exists_of_classAttribute (h : classAttribute.rest? before s = some r) :
    ∃ m v before', s = m ++ v ∧ IsClassKey m ∧ classesGiven.rest? before' v = some r := by
  let last : Continuation := fun _ rest => some rest
  let third : Continuation := fun before s => classesGiven.run before s last
  let second : Continuation := fun before s => equals.run before s third
  let first : Continuation := fun before s => (word "class").run before s second
  change (some_ Chars.isBlank).run before s first = some r at h
  obtain ⟨a, s, rfl, ha, h⟩ := exists_of_run h
  change (word "class").run (lastOf before a) s second = some r at h
  obtain ⟨n, s, rfl, hn, h⟩ := exists_of_run h
  change equals.run (lastOf (lastOf before a) n) s third = some r at h
  obtain ⟨m, v, rfl, hm, h⟩ := exists_of_run h
  rw [matches_some_iff] at ha
  rw [matches_word_iff] at hn
  simp only [equals, all, matches_seq_iff, matches_many_iff] at hm
  obtain ⟨b, _, rfl, hb, e, d, rfl, he, hd⟩ := hm
  obtain rfl := (matches_marks_iff (by decide)).mp he
  refine ⟨a ++ (n ++ (b ++ '=' :: d)), v, _, by simp, ?_, h⟩
  exact ⟨a, n, b, d, rfl, ha.1, List.all_eq_true.mpr ha.2, hn, List.all_eq_true.mpr hb,
    List.all_eq_true.mpr hd⟩

theorem begins_classesGiven : classesGiven.Begins (Chars.isBlank · = false) := by
  have hquoted {q : Char} (hq : Chars.isMark q) (hblank : Chars.isBlank q = false) :
      (quoted q).Begins (Chars.isBlank · = false) := fun _ _ _ hmatch => by
    obtain ⟨content, rfl, -⟩ := (matches_quoted_iff hq).mp hmatch
    exact ⟨q, _, rfl, hblank⟩
  refine .either (hquoted rfl (by decide)) (.either (hquoted rfl (by decide)) (.one_seq ?_ _))
  intro c hc
  rw [isPlain, Bool.and_eq_true, Bool.not_eq_true'] at hc
  exact hc.1

theorem notMem_of_isClassKey {m : List Char} (h : IsClassKey m) : '>' ∉ m := by
  obtain ⟨a, n, b, d, rfl, -, ha, hn, hb, hd⟩ := h
  have hblank {s : List Char} (hs : Chars.blank s) : '>' ∉ s := Chars.notMem_of_blank hs (by decide)
  have hname : '>' ∉ n := notMem_of_spells isElementName_class.2 hn (by decide)
  simp [hblank ha, hname, hblank hb, hblank hd]

/-- A piece in a tag that gives classes is found there, and its value is in the tag. -/
theorem exists_of_class (h : Splits s x y) (hrest : classAttribute.rest? before s = some r) :
    ∃ m v before', x = m ++ v ∧ IsClassKey m ∧ (∀ c ∈ v.head?, Chars.isBlank c = false) ∧
      classesGiven.rest? before' (v ++ y) = some r := by
  obtain ⟨m, u, before', hs, hm, hvalue⟩ := exists_of_classAttribute hrest
  obtain ⟨v, rfl, rfl⟩ : ∃ v, x = m ++ v ∧ u = v ++ y := by
    rcases List.append_eq_append_iff.mp (hs.symm.trans h.eq) with hinside | ⟨v, rfl, rfl⟩
    · exact hinside
    · cases v with
      | nil => exact ⟨[], by simp, rfl⟩
      | cons c v =>
          have hc := h.closed c rfl
          exact absurd (by simp [hc]) (notMem_of_isClassKey hm)
  refine ⟨m, v, before', rfl, hm, ?_, hvalue⟩
  obtain ⟨_, hu, hmatch⟩ := exists_of_rest?_eq_some hvalue
  obtain ⟨c, n, rfl, hc⟩ := begins_classesGiven _ _ _ hmatch
  cases v with
  | nil => nofun
  | cons d v =>
      rintro _ ⟨⟩
      rwa [(List.cons.inj hu).1]

theorem exists_classValue? (h : Splits s x y) (hrest : classAttribute.rest? before s = some r) :
    ∃ v, classValue? x = some v := by
  obtain ⟨m, v, -, rfl, hm, hv, -⟩ := exists_of_class h hrest
  exact ⟨v, classValue?_append hm hv⟩

/-- What is taken out at a place in a tag begins with a blank, and ends where a name may end. -/
theorem exists_eq_append_of_class (h : Splits s x y)
    (hclosed : ∀ v ∈ classValue? x, closedValue v)
    (hrest : classAttribute.rest? before s = some r) :
    ∃ b m x', x = b :: (m ++ x') ∧ Chars.isBlank b ∧ r = x' ++ y ∧
      ∀ c ∈ x'.head?, endsName c := by
  obtain ⟨m, v, before', rfl, hm, hv, hvalue⟩ := exists_of_class h hrest
  obtain ⟨n, x', rfl, rfl, hends⟩ := exists_of_classesGiven h.of_append
    (hclosed v (classValue?_append hm hv)) hv hvalue
  obtain ⟨a, name, b, d, rfl, hne, ha, -⟩ := hm
  obtain ⟨c, a, rfl⟩ := List.exists_cons_of_ne_nil hne
  exact ⟨c, a ++ (name ++ (b ++ '=' :: d)) ++ n, x', by simp,
    List.all_eq_true.mp ha c List.mem_cons_self, rfl, hends⟩

/-! ### Tags without classes -/

/-- What is in a tag without some of its attributes, each of which begins with a blank and ends
where a name may end. -/
inductive Thinned : List Char → List Char → Prop where
  | nil : Thinned [] []
  | keep {x w : List Char} (c : Char) (h : Thinned x w) : Thinned (c :: x) (c :: w)
  | drop {x w : List Char} {b : Char} (m : List Char) (hb : Chars.isBlank b)
      (hends : ∀ c ∈ x.head?, endsName c) (h : Thinned x w) : Thinned (b :: (m ++ x)) w

namespace Thinned

protected theorem refl (x : List Char) : Thinned x x := by
  induction x with
  | nil => exact .nil
  | cons c x ih => exact .keep c ih

theorem subset (h : Thinned x w) : w ⊆ x := by
  induction h with
  | nil => exact List.Subset.refl _
  | keep c _ ih => exact List.cons_subset_cons c ih
  | drop m _ _ _ ih =>
      exact List.Subset.trans ih (List.subset_cons_of_subset _ (List.subset_append_right m _))

theorem endsName_head (h : Thinned x w) (hx : ∀ c ∈ x.head?, endsName c) :
    ∀ c ∈ w.head?, endsName c := by
  induction h with
  | nil => exact hx
  | keep c _ _ => exact hx
  | drop m _ hends _ ih => exact ih hends

/-- Words end where they ended before. -/
theorem wordAt_head (h : Thinned x w) : wordAt w.head? = wordAt x.head? := by
  cases h with
  | nil => rfl
  | keep c _ => rfl
  | drop m hb hends h =>
      have hout : ∀ d : Option Char, (∀ c ∈ d, endsName c) → wordAt d = false := fun d hd => by
        cases d with
        | none => rfl
        | some c => exact inWord_of_endsName (hd c rfl)
      rw [hout _ (h.endsName_head hends), hout _]
      rintro _ ⟨⟩
      rw [endsName, hb, Bool.true_or]

/-- What has neither blanks nor slashes in it is not put together. -/
theorem exists_of_append {n : List Char} (h : Thinned x (n ++ w))
    (hn : ∀ c ∈ n, endsName c = false) : ∃ v, x = n ++ v ∧ Thinned v w := by
  induction n generalizing x with
  | nil => exact ⟨x, rfl, h⟩
  | cons c n ih =>
      rw [List.forall_mem_cons] at hn
      cases h with
      | keep _ h =>
          obtain ⟨v, rfl, hv⟩ := ih h hn.2
          exact ⟨v, rfl, hv⟩
      | drop m hb hends h =>
          have hc : endsName c := h.endsName_head hends c rfl
          exact absurd (hn.1.symm.trans hc) Bool.false_ne_true

end Thinned

/-! ### The pass over a text -/

/-- A text after a given character, without the pieces that give classes. -/
abbrev withoutClasses (before : Option Char) (s : List Char) : List Char :=
  classAttribute.replaceFrom (fun _ => []) before s

theorem begins_classAttribute : classAttribute.Begins (Chars.isBlank ·) :=
  .seq (.one_seq (fun _ hc => hc) _) _

theorem everyClass_cons (h : everyClass accepts (c :: s)) :
    (∀ v ∈ classValue? (c :: s), accepts v) ∧ everyClass accepts s := by
  rwa [everyClass, Bool.and_eq_true, Option.all_eq_true] at h

/-- What is in a tag is thinned out. -/
theorem exists_thinned (h : Splits s x y) (hx : everyClass closedValue x) :
    ∃ w before', withoutClasses before s = w ++ withoutClasses before' y ∧ Thinned x w := by
  rw [withoutClasses]
  fun_induction replaceFrom classAttribute (fun _ => []) before s generalizing x with
  | case1 before =>
      obtain ⟨rfl, rfl⟩ := List.append_eq_nil_iff.mp h.eq.symm
      exact ⟨[], before, (replaceFrom_nil _ _ _).symm, .nil⟩
  | case2 before c s rest hrest hlength taken =>
      rename_i ih
      cases x with
      | nil =>
          have hc : c = '>' := h.closed c (by rw [← List.nil_append y, ← h.eq]; rfl)
          have hnone : classAttribute.rest? before (c :: s) = none :=
            begins_classAttribute.rest?_eq_none (by rintro _ ⟨⟩; rw [hc]; decide)
          cases hnone.symm.trans hrest
      | cons d x =>
          obtain ⟨b, m, x', hx', hb, rfl, hends⟩ :=
            exists_eq_append_of_class h (everyClass_cons hx).1 hrest
          rw [hx'] at h hx ⊢
          rw [← List.cons_append] at h hx
          obtain ⟨w, before', hw, hthin⟩ := ih h.of_append (everyClass_of_append hx)
          exact ⟨w, before', hw, .drop m hb hends hthin⟩
  | case3 before c s rest hrest hlength =>
      exact absurd (begins_classAttribute.length_lt hrest) hlength
  | case4 before c s hrest ih =>
      cases x with
      | nil =>
          obtain rfl : c :: s = y := h.eq
          exact ⟨[], before, (replaceFrom_cons hrest).symm, .nil⟩
      | cons d x =>
          obtain ⟨rfl, rfl⟩ := List.cons.inj h.eq
          have hsplits : Splits ([c] ++ (x ++ y)) ([c] ++ x) y := h
          obtain ⟨w, before', hw, hthin⟩ := ih hsplits.of_append (everyClass_cons hx).2
          exact ⟨c :: w, before', by rw [hw, List.cons_append], .keep c hthin⟩

/-- What is in a tag without classes is kept. -/
theorem withoutClasses_append_of_none (h : Splits s x y) (hx : everyClass (fun _ => false) x) :
    withoutClasses before s = x ++ withoutClasses (lastOf before x) y := by
  rw [h.eq]
  refine replaceFrom_append_of_forall fun a c m hm before => ?_
  subst hm
  rw [Option.eq_none_iff_forall_ne_some]
  intro r hrest
  obtain ⟨v, hv⟩ := exists_classValue? h.of_append hrest
  exact Bool.false_ne_true ((everyClass_cons (everyClass_of_append hx)).1 v hv)

/-- What becomes of what is in a tag: an end tag is left as it is, and none is made. -/
structure Cleared (x w : List Char) : Prop where
  thinned : Thinned x w
  eq_of_slash : ∀ n, w = '/' :: n → x = w

/-- What is in a tag whose classes are set apart is cleared of them. -/
theorem exists_cleared (before : Option Char) (h : Splits s x y) (hx : classesApart x) :
    ∃ w before', withoutClasses before s = w ++ withoutClasses before' y ∧ Cleared x w := by
  cases x with
  | nil => exact ⟨[], before, by rw [h.eq]; rfl, .nil, nofun⟩
  | cons c x =>
      rw [classesApart, Bool.and_eq_true, Option.isNone_iff_eq_none] at hx
      have hnone : classAttribute.rest? before s = none := by
        rw [Option.eq_none_iff_forall_ne_some]
        intro r hrest
        obtain ⟨v, hv⟩ := exists_classValue? h hrest
        cases hx.1.symm.trans hv
      have hsplits : Splits (x ++ y) x y := Splits.of_append (z := [c]) h
      rw [h.eq, List.cons_append] at hnone ⊢
      rw [withoutClasses, replaceFrom_cons hnone]
      by_cases hc : c = '/'
      · rw [hc] at hx
        exact ⟨c :: x, _, congrArg (c :: ·) (withoutClasses_append_of_none hsplits hx.2),
          .refl _, fun _ _ => rfl⟩
      · obtain ⟨w, before', hw, hthin⟩ := exists_thinned hsplits (everyClass_closed hx.2)
        exact ⟨c :: w, before', congrArg (c :: ·) hw, .keep c hthin,
          fun n hn => absurd (List.cons.inj hn).1 hc⟩

theorem exists_splits_cleared (before : Option Char) (h : Splits s x y) (hx : classesApart x) :
    ∃ w before', Splits (withoutClasses before s) w (withoutClasses before' y) ∧ Cleared x w := by
  obtain ⟨w, before', hw, hcleared⟩ := exists_cleared before h hx
  refine ⟨w, before', ⟨hw, fun c hc => h.inside c (hcleared.thinned.subset hc), ?_⟩, hcleared⟩
  exact closed_replaceFrom begins_classAttribute (by decide) h.closed

/-- Tags stay apart when classes are taken out. -/
theorem everyTag_withoutClasses (h : everyTag classesApart s) :
    everyTag (fun _ => true) (withoutClasses before s) := by
  refine everyTag_iff.mpr fun a v hs => ?_
  cases begins_classAttribute.origin hs with
  | kept hreach hnone =>
      obtain ⟨x, y, hsplits, hx⟩ :=
        exists_splits_of_reaches (everyTagOutside_of_everyTag h) hreach hnone
      obtain ⟨w, before', hw, -⟩ := exists_splits_cleared (some '<') hsplits hx
      exact ⟨w, _, hw, rfl⟩
  | put hby => cases (List.append_eq_nil_iff.mp hby.symm).2

/-- A tag of a text without classes is a tag of the text before, cleared of them. -/
theorem origin_withoutClasses {b : List Char} (h : Site (withoutClasses before s) w b)
    (hs : everyTag classesApart s) :
    ∃ x b', Site s x b' ∧ b = withoutClasses (some '>') b' ∧ Cleared x w := by
  obtain ⟨hw, a, heq⟩ := h
  rw [tag_append] at heq
  generalize hv : w ++ '>' :: b = v at heq
  cases begins_classAttribute.origin heq with
  | kept hreach hnone =>
      obtain ⟨x, y, hsplits, hx⟩ :=
        exists_splits_of_reaches (everyTagOutside_of_everyTag hs) hreach hnone
      obtain ⟨a', rfl⟩ := hreach.suffix
      obtain ⟨w', before', hsplits', hcleared⟩ := exists_splits_cleared (some '<') hsplits hx
      obtain ⟨rfl, hclosed⟩ := hsplits'.eq_of_closed hv.symm hw
      obtain ⟨b', rfl, hrest⟩ := exists_of_replaceFrom_eq_closing begins_classAttribute (by decide)
        hsplits.closed hclosed
      refine ⟨x, b', ⟨?_, a', ?_⟩, hrest, hcleared⟩
      · exact fun hmem => absurd (hsplits.inside '>' hmem) (by decide)
      · rw [hsplits.eq, tag_append]
  | put hby => cases (List.append_eq_nil_iff.mp hby.symm).2

/-! ### Shapes after the pass -/

namespace Cleared

theorem isNamed {name : String} (hname : IsElementName name) (h : Cleared x w)
    (hw : IsNamed name w) : IsNamed name x := by
  obtain ⟨n, y, rfl, hn, hne⟩ := hw
  have hletters : ∀ c ∈ n, endsName c = false := fun c hc => by
    obtain ⟨hblank, hmark⟩ := of_spells hname.2 hn c hc
    rw [endsName, hblank, Bool.false_or, beq_eq_false_iff_ne]
    rintro rfl
    cases hmark
  obtain ⟨v, rfl, hv⟩ := h.thinned.exists_of_append hletters
  exact ⟨n, v, rfl, hn, hv.wordAt_head ▸ hne⟩

theorem keeps_blockShape {name : String} (hname : IsElementName name) (h : Cleared x w) :
    (blockShape name).Keeps x w where
  alone := id
  opens := h.isNamed hname
  closes := by
    rintro ⟨n, hw, hn⟩
    exact ⟨n, (h.eq_of_slash n hw).trans hw, hn⟩

theorem keeps_fontShape (h : Cleared x w) : fontShape.Keeps x w where
  alone := by
    rintro (hfont | ⟨n, hw, hfont⟩)
    · exact .inl (h.isNamed (by decide) hfont)
    · exact .inr ⟨n, (h.eq_of_slash n hw).trans hw, hfont⟩
  opens := id
  closes := id

end Cleared

/-- The pass makes no tags of a shape that is kept when a tag is cleared. -/
theorem occurs_of_withoutClasses {σ : Shape} (hσ : ∀ x w, Cleared x w → σ.Keeps x w)
    (hs : everyTag classesApart s) (ht : σ.Occurs (withoutClasses before s)) : σ.Occurs s := by
  refine Shape.occurs_of_pass (R := fun s t => everyTag classesApart s ∧
    ∃ before, t = withoutClasses before s) ?_ ⟨hs, before, rfl⟩ ht
  rintro s _ w b ⟨hs, before, rfl⟩ hsite -
  obtain ⟨x, b', hfrom, hrest, hcleared⟩ := origin_withoutClasses hsite hs
  obtain ⟨a, rfl⟩ := hfrom.suffix
  exact ⟨x, b', hfrom, ⟨everyTag_of_append hs, _, hrest⟩, hσ x w hcleared⟩

end PageMigration.RichText
