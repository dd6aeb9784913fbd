import Mathlib.Data.List.TakeWhile
import Mathlib.Tactic.ByContra
import PageMigration.Proofs.Chars.Pattern

/-!
# Tags in texts

In a text where no tag opens before the one before it has closed, a pattern that begins with an
opening bracket can be taken out without making new tags: what is left between two brackets stood
between them before.  So a pattern of tags that is taken out does not occur in what is left, and
one that does not occur before does not occur after another one is taken out.

## Main definitions

* `Html.everyTag` : no tag opens in another one, and what is in each tag passes a test.
* `Html.everyTagOutside` : the same outside of the pieces that match a pattern.
* `Html.Site` : a tag in a text, and what follows it.
* `Html.Shape`, `Html.Shape.Occurs` : single tags, or pairs of tags with anything between them.
* `Html.HasShape` : patterns that match the tags of a shape.

## Main results

* `Html.everyTag_replaceFrom` : tags stay apart.
* `Html.Site.origin` : where a tag of a text with replacements comes from.
* `Html.Shape.not_occurs_replaceFrom` : a pattern of tags can be taken out in one pass.
* `Html.Shape.occurs_of_pass` : passes that make no tags.
-/

namespace PageMigration.Html

open Pattern

/-- The characters between the brackets of a tag. -/
def inTag (c : Char) : Bool :=
  c != '<' && c != '>'

/-- A tag, given what is between its brackets. -/
def tag (body : List Char) : List Char :=
  '<' :: (body ++ ['>'])

/-- If a character opens a tag, no other one opens in it, and what is in it passes a test. -/
def opensWell (accepts : List Char → Bool) (c : Char) (s : List Char) : Bool :=
  c != '<' || (s.dropWhile inTag).head? != some '<' && accepts (s.takeWhile inTag)

/-- Whether no tag of a text opens in another one, and what is in each tag passes a test. -/
def everyTag (accepts : List Char → Bool) : List Char → Bool
  | [] => true
  | c :: s => opensWell accepts c s && everyTag accepts s

/-- Whether no tag opens in another one, and what is in each tag passes a test, among the tags that
stand outside of the pieces that match a pattern. -/
def everyTagOutside (p : Pattern) (accepts : List Char → Bool) (before : Option Char)
    (s : List Char) : Bool :=
  match s with
  | [] => true
  | c :: s =>
      match p.rest? before (c :: s) with
      | some rest =>
          if _h : rest.length < s.length + 1 then
            everyTagOutside p accepts (takenFrom (c :: s) rest).getLast? rest
          else true
      | none => opensWell accepts c s && everyTagOutside p accepts (some c) s
termination_by s.length

variable {accepts : List Char → Bool} {s t a b v x y z : List Char}

/-! ### Texts after an opening bracket -/

/-- What follows an opening bracket: what is in the tag, and the text from its closing bracket on,
if there is any. -/
structure Splits (v x y : List Char) : Prop where
  eq : v = x ++ y
  inside : ∀ c ∈ x, inTag c
  closed : ∀ c ∈ y.head?, c = '>'

theorem inTag_iff {c : Char} : inTag c ↔ c ≠ '<' ∧ c ≠ '>' := by
  rw [inTag, Bool.and_eq_true, bne_iff_ne, bne_iff_ne]

theorem dropWhile_append_of_head {p : Char → Bool} (ha : ∀ c ∈ a, p c)
    (hb : ∀ c ∈ b.head?, p c = false) : (a ++ b).dropWhile p = b := by
  rw [List.dropWhile_append_of_pos ha]
  cases b with
  | nil => rfl
  | cons c b => rw [List.dropWhile_cons, hb c rfl, if_neg Bool.false_ne_true]

theorem Splits.takeWhile_eq (h : Splits v x y) : v.takeWhile inTag = x := by
  rw [h.eq, List.takeWhile_append_of_pos h.inside]
  cases y with
  | nil => simp
  | cons c y =>
      have hc : inTag c = false := by rw [h.closed c rfl]; rfl
      rw [List.takeWhile_cons, hc, if_neg Bool.false_ne_true, List.append_nil]

theorem Splits.dropWhile_eq (h : Splits v x y) : v.dropWhile inTag = y := by
  rw [h.eq]
  refine dropWhile_append_of_head h.inside fun c hc => ?_
  rw [h.closed c hc]
  rfl

theorem splits_iff : (v.dropWhile inTag).head? ≠ some '<' ↔
    Splits v (v.takeWhile inTag) (v.dropWhile inTag) := by
  constructor
  · intro h
    refine ⟨List.takeWhile_append_dropWhile.symm, fun c => List.mem_takeWhile_imp, fun c hc => ?_⟩
    have hout := List.head?_dropWhile_not inTag v
    rw [hc] at h hout
    by_contra hne
    have hin : inTag c := inTag_iff.mpr ⟨fun heq => h (by rw [heq]), hne⟩
    simp [hin] at hout
  · intro h hopen
    cases h.closed '<' hopen

/-- A tag and the text after it are found again. -/
theorem Splits.eq_of_closed (h : Splits v x y) (hv : v = z ++ '>' :: b) (hz : '>' ∉ z) :
    z = x ∧ y = '>' :: b := by
  have heq : z ++ '>' :: b = x ++ y := hv.symm.trans h.eq
  rcases List.append_eq_append_iff.mp heq with ⟨m, hm, hb⟩ | ⟨m, hm, hy⟩
  · cases m with
    | nil => exact ⟨by rw [hm, List.append_nil], hb.symm⟩
    | cons c m =>
        obtain ⟨rfl, -⟩ := List.cons.inj hb
        have hin := h.inside '>' (by rw [hm]; simp)
        exact absurd hin (by decide)
  · cases m with
    | nil => exact ⟨by rw [hm, List.append_nil], hy⟩
    | cons c m =>
        have hc := h.closed c (by rw [hy]; rfl)
        exact absurd (by rw [hm, hc]; simp) hz

theorem Splits.of_append (h : Splits v (z ++ x) y) : Splits (x ++ y) x y :=
  ⟨rfl, fun c hc => h.inside c (List.mem_append_right z hc), h.closed⟩

theorem splits_of_inTag (h : ∀ c ∈ x, inTag c) (b : List Char) :
    Splits (x ++ '>' :: b) x ('>' :: b) :=
  ⟨rfl, h, by rintro c ⟨⟩; rfl⟩

/-! ### Texts whose tags stay apart -/

theorem opensWell_iff : opensWell accepts '<' v ↔ ∃ x y, Splits v x y ∧ accepts x := by
  simp only [opensWell, bne_self_eq_false, Bool.false_or, Bool.and_eq_true, bne_iff_ne]
  constructor
  · rintro ⟨hclosed, haccepts⟩
    exact ⟨_, _, splits_iff.mp hclosed, haccepts⟩
  · rintro ⟨x, y, hsplits, haccepts⟩
    exact ⟨splits_iff.mpr (hsplits.takeWhile_eq ▸ hsplits.dropWhile_eq ▸ hsplits),
      hsplits.takeWhile_eq ▸ haccepts⟩

theorem everyTag_iff : everyTag accepts s ↔
    ∀ a v, s = a ++ '<' :: v → ∃ x y, Splits v x y ∧ accepts x := by
  induction s with
  | nil => simp [everyTag]
  | cons c s ih =>
      rw [everyTag, Bool.and_eq_true, ih]
      constructor
      · rintro ⟨hfirst, hrest⟩ a v hs
        cases a with
        | nil =>
            obtain ⟨rfl, rfl⟩ := List.cons.inj hs
            exact opensWell_iff.mp hfirst
        | cons d a => exact hrest a v (List.cons.inj hs).2
      · intro h
        refine ⟨?_, fun a v hs => h (c :: a) v (by rw [hs, List.cons_append])⟩
        by_cases hc : c = '<'
        · rw [hc]
          exact opensWell_iff.mpr (h [] s (by rw [hc, List.nil_append]))
        · simp [opensWell, hc]

theorem everyTag_of_append (h : everyTag accepts (a ++ s)) : everyTag accepts s :=
  everyTag_iff.mpr fun b v hs => everyTag_iff.mp h (a ++ b) v (by rw [hs, List.append_assoc])

theorem everyTag_mono {accepts' : List Char → Bool} (himp : ∀ x, accepts x → accepts' x)
    (h : everyTag accepts s) : everyTag accepts' s :=
  everyTag_iff.mpr fun a v hs => by
    obtain ⟨x, y, hsplits, haccepts⟩ := everyTag_iff.mp h a v hs
    exact ⟨x, y, hsplits, himp x haccepts⟩

/-! ### Texts whose tags stay apart outside of pieces -/

variable {p : Pattern} {by_ : List Char → List Char} {before before' : Option Char}

theorem everyTagOutside_cons {c : Char} (h : p.rest? before (c :: s) = none) :
    everyTagOutside p accepts before (c :: s) =
      (opensWell accepts c s && everyTagOutside p accepts (some c) s) := by
  rw [everyTagOutside, h]

theorem everyTagOutside_append {m rest : List Char} (hne : m ≠ [])
    (h : p.rest? before (m ++ rest) = some rest) :
    everyTagOutside p accepts before (m ++ rest) = everyTagOutside p accepts m.getLast? rest := by
  obtain ⟨c, m, rfl⟩ := List.exists_cons_of_ne_nil hne
  have htaken : takenFrom (c :: (m ++ rest)) rest = c :: m := takenFrom_append (c :: m) rest
  rw [List.cons_append] at h ⊢
  rw [everyTagOutside, h]
  dsimp only
  rw [dif_pos (by rw [List.length_append]; omega), htaken]

/-- What holds of a text holds of what a pass over it comes to. -/
theorem everyTagOutside_of_reaches (h : Reaches p before s before' v)
    (hs : everyTagOutside p accepts before s) : everyTagOutside p accepts before' v := by
  induction h with
  | refl => exact hs
  | keep hnone _ ih =>
      rw [everyTagOutside_cons hnone, Bool.and_eq_true] at hs
      exact ih hs.2
  | pass hne hrest _ ih =>
      rw [everyTagOutside_append hne hrest] at hs
      exact ih hs

theorem everyTagOutside_of_everyTag (h : everyTag accepts s) :
    everyTagOutside p accepts before s := by
  fun_induction everyTagOutside p accepts before s with
  | case1 before => rfl
  | case2 before c s rest hrest hlength ih =>
      obtain ⟨m, hm, -⟩ := exists_of_rest?_eq_some hrest
      exact ih (everyTag_of_append (hm ▸ h))
  | case3 before c s rest hrest hlength => rfl
  | case4 before c s hrest ih =>
      rw [everyTag, Bool.and_eq_true] at h
      rw [Bool.and_eq_true]
      exact ⟨h.1, ih h.2⟩

/-- A tag that is kept, and what is in it. -/
theorem exists_splits_of_reaches (hs : everyTagOutside p accepts before s)
    (h : Reaches p before s before' ('<' :: v)) (hnone : p.rest? before' ('<' :: v) = none) :
    ∃ x y, Splits v x y ∧ accepts x := by
  have hv := everyTagOutside_of_reaches h hs
  rw [everyTagOutside_cons hnone, Bool.and_eq_true] at hv
  exact opensWell_iff.mp hv.1

/-! ### Passes of patterns that begin with an opening bracket -/

/-- A pattern begins with an opening bracket. -/
abbrev OpensTag (p : Pattern) : Prop :=
  p.Begins (· = '<')

/-- What is put in place of a piece: nothing, or a tag that passes a test. -/
def PutsTags (by_ : List Char → List Char) (accepts : List Char → Bool) : Prop :=
  ∀ m, by_ m = [] ∨ ∃ z, by_ m = tag z ∧ (∀ c ∈ z, inTag c) ∧ accepts z

/-- Closing brackets are kept where no piece begins with one. -/
theorem replaceFrom_closing {class_ : Char → Prop} (hp : p.Begins class_) (hclass : ¬ class_ '>')
    (b : List Char) : p.replaceFrom by_ before ('>' :: b) = '>' :: p.replaceFrom by_ (some '>') b :=
  replaceFrom_cons (hp.rest?_eq_none (by rintro _ ⟨⟩; exact hclass))

theorem closed_replaceFrom {class_ : Char → Prop} (hp : p.Begins class_) (hclass : ¬ class_ '>')
    (hy : ∀ c ∈ y.head?, c = '>') : ∀ c ∈ (p.replaceFrom by_ before y).head?, c = '>' := by
  cases y with
  | nil =>
      rw [replaceFrom_nil]
      nofun
  | cons c y =>
      rw [hy c rfl, replaceFrom_closing hp hclass]
      rintro _ ⟨⟩
      rfl

theorem exists_of_replaceFrom_eq_closing {class_ : Char → Prop} (hp : p.Begins class_)
    (hclass : ¬ class_ '>') (hy : ∀ c ∈ y.head?, c = '>')
    (h : p.replaceFrom by_ before y = '>' :: b) :
    ∃ b', y = '>' :: b' ∧ b = p.replaceFrom by_ (some '>') b' := by
  cases y with
  | nil =>
      rw [replaceFrom_nil] at h
      cases h
  | cons c b' =>
      rw [hy c rfl] at h ⊢
      rw [replaceFrom_closing hp hclass] at h
      exact ⟨b', rfl, (List.cons.inj h).2.symm⟩

/-- What is in a tag is kept. -/
theorem Splits.replaceFrom (h : Splits v x y) (hp : OpensTag p) :
    Splits (p.replaceFrom by_ before v) x (p.replaceFrom by_ (lastOf before x) y) where
  eq := by
    rw [h.eq]
    exact hp.replaceFrom_append fun c hc => (inTag_iff.mp (h.inside c hc)).1
  inside := h.inside
  closed := closed_replaceFrom hp (by decide) h.closed

theorem PutsTags.eq_of_eq_append (hput : PutsTags by_ accepts) {m : List Char}
    (h : by_ m = x ++ '<' :: y) : ∃ z, by_ m = tag z ∧ y = z ++ ['>'] ∧ (∀ c ∈ z, inTag c) ∧
      accepts z := by
  rcases hput m with hnone | ⟨z, htag, hz, haccepts⟩
  · rw [hnone] at h
    cases x <;> cases h
  · rw [htag, tag] at h
    cases x with
    | nil => exact ⟨z, htag, (List.cons.inj h).2.symm, hz, haccepts⟩
    | cons c x =>
        have hmem : '<' ∈ z ++ ['>'] := by rw [(List.cons.inj h).2]; simp
        rcases List.mem_append.mp hmem with hin | hin
        · exact absurd (hz '<' hin) (by decide)
        · exact absurd hin (by decide)

/-- Tags stay apart when pieces are taken out or replaced by tags. -/
theorem everyTag_replaceFrom (hp : OpensTag p) (hput : PutsTags by_ accepts)
    (h : everyTagOutside p accepts before s) : everyTag accepts (p.replaceFrom by_ before s) := by
  refine everyTag_iff.mpr fun a v hs => ?_
  cases hp.origin hs with
  | kept hreach hnone =>
      obtain ⟨x, y, hsplits, haccepts⟩ := exists_splits_of_reaches h hreach hnone
      exact ⟨x, _, hsplits.replaceFrom hp, haccepts⟩
  | put hby =>
      obtain ⟨z, -, rfl, hz, haccepts⟩ := hput.eq_of_eq_append hby
      rw [List.append_assoc]
      exact ⟨z, _, splits_of_inTag hz _, haccepts⟩

/-! ### Tags and what follows them -/

/-- A tag of a text, given by what is in it, and what follows it. -/
def Site (s x b : List Char) : Prop :=
  '>' ∉ x ∧ ∃ a, s = a ++ (tag x ++ b)

theorem tag_append (x b : List Char) : tag x ++ b = '<' :: (x ++ '>' :: b) := by
  rw [tag, List.cons_append, List.append_assoc, List.singleton_append]

theorem Site.append (h : Site s x b) (a : List Char) : Site (a ++ s) x b := by
  obtain ⟨hx, a', rfl⟩ := h
  exact ⟨hx, a ++ a', (List.append_assoc ..).symm⟩

theorem Site.append_right (h : Site s x b) (c : List Char) : Site (s ++ c) x (b ++ c) := by
  obtain ⟨hx, a, rfl⟩ := h
  exact ⟨hx, a, by simp only [List.append_assoc]⟩

theorem Site.suffix (h : Site s x b) : ∃ a, s = a ++ b := by
  obtain ⟨-, a, rfl⟩ := h
  exact ⟨a ++ tag x, (List.append_assoc ..).symm⟩

/-- A pass that comes to a tag at which no piece begins comes to what follows the tag. -/
theorem reaches_after_tag (h : Reaches p before s before' ('<' :: (x ++ '>' :: b)))
    (hp : OpensTag p) (hx : ∀ c ∈ x, inTag c)
    (hnone : p.rest? before' ('<' :: (x ++ '>' :: b)) = none) :
    Reaches p before s (some '>') b := by
  have hother : ∀ c ∈ x ++ ['>'], c ≠ '<' := fun c hc => by
    rcases List.mem_append.mp hc with hc | hc
    · exact (inTag_iff.mp (hx c hc)).1
    · rw [List.mem_singleton.mp hc]
      decide
  have hinside := hp.reaches_append hother b (some '<')
  rw [lastOf_append, lastOf_singleton, ← List.append_cons] at hinside
  exact h.trans (.keep hnone hinside)

/-- A tag of a text with replacements is a tag of the text before, at which no piece begins, or it
has been put in. -/
theorem Site.origin (h : Site (p.replaceFrom by_ before s) x b) (hp : OpensTag p)
    (hput : PutsTags by_ accepts) (hs : everyTagOutside p accepts before s) :
    (∃ b', Site s x b' ∧ b = p.replaceFrom by_ (some '>') b' ∧
      everyTagOutside p accepts (some '>') b' ∧
      ∃ before', p.rest? before' (tag x ++ b') = none) ∨ ∃ m, by_ m = tag x := by
  obtain ⟨hx, a, heq⟩ := h
  rw [tag_append] at heq
  generalize hv : x ++ '>' :: b = v at heq
  cases hp.origin heq with
  | @kept before' v' _ hreach hnone =>
      obtain ⟨x', y, hsplits, -⟩ := exists_splits_of_reaches hs hreach hnone
      obtain ⟨rfl, hclosed⟩ := (hsplits.replaceFrom hp).eq_of_closed hv.symm hx
      obtain ⟨b', rfl, hrest⟩ :=
        exists_of_replaceFrom_eq_closing hp (by decide) hsplits.closed hclosed
      rw [hsplits.eq] at hreach hnone
      have hapart := everyTagOutside_of_reaches
        (reaches_after_tag hreach hp hsplits.inside hnone) hs
      obtain ⟨a', rfl⟩ := hreach.suffix
      rw [← tag_append] at hnone
      exact .inl ⟨b', ⟨hx, a', by rw [tag_append]⟩, hrest, hapart, before', hnone⟩
  | @put m rest x' y _ hby =>
      obtain ⟨z, htag, rfl, hz, -⟩ := hput.eq_of_eq_append hby
      rw [List.append_assoc] at hv
      obtain ⟨rfl, -⟩ := (splits_of_inTag hz _).eq_of_closed hv.symm hx
      exact .inr ⟨m, htag⟩

/-! ### Shapes -/

/-- Single tags, and pairs of tags with anything between them, by what is in the tags. -/
structure Shape where
  alone : List Char → Prop
  opens : List Char → Prop
  closes : List Char → Prop

namespace Shape

variable {σ : Shape}

/-- A text has a tag or a pair of tags of a shape. -/
def Occurs (σ : Shape) (s : List Char) : Prop :=
  (∃ x b, Site s x b ∧ σ.alone x) ∨
    ∃ x b z b', Site s x b ∧ Site b z b' ∧ σ.opens x ∧ σ.closes z

theorem Occurs.append (h : σ.Occurs s) (a b : List Char) : σ.Occurs (a ++ s ++ b) := by
  rcases h with ⟨x, c, hsite, halone⟩ | ⟨x, c, z, d, hopen, hclose, hopens, hcloses⟩
  · exact .inl ⟨x, _, (hsite.append a).append_right b, halone⟩
  · exact .inr ⟨x, _, z, _, (hopen.append a).append_right b, hclose.append_right b, hopens, hcloses⟩

end Shape

/-- A pattern matches the tags of a shape and nothing else. -/
def HasShape (p : Pattern) (σ : Shape) : Prop :=
  ∀ before m after, Matches p before m after ↔
    (∃ x, m = tag x ∧ '>' ∉ x ∧ σ.alone x) ∨
      ∃ x c z, m = tag x ++ (c ++ tag z) ∧ '>' ∉ x ∧ '>' ∉ z ∧ σ.opens x ∧ σ.closes z

namespace HasShape

variable {σ : Shape}

theorem opensTag (h : HasShape p σ) : OpensTag p := by
  intro before m after hmatch
  rcases (h before m after).mp hmatch with ⟨x, rfl, -⟩ | ⟨x, c, z, rfl, -⟩
  · exact ⟨_, _, rfl, rfl⟩
  · exact ⟨_, _, rfl, rfl⟩

theorem occurs_of_occursIn (h : HasShape p σ) (hp : p.occursIn s) : σ.Occurs s := by
  obtain ⟨a, m, rest, rfl, hmatch⟩ := occursIn_iff.mp hp
  rcases (h _ m rest).mp hmatch with ⟨x, rfl, hx, halone⟩ | ⟨x, c, z, rfl, hx, hz, hopens, hcloses⟩
  · exact .inl ⟨x, rest, ⟨hx, a, List.append_assoc ..⟩, halone⟩
  · refine .inr ⟨x, c ++ (tag z ++ rest), z, rest, ⟨hx, a, ?_⟩, ⟨hz, c, rfl⟩, hopens, hcloses⟩
    simp only [List.append_assoc]

/-- No single tag of the shape stands where no piece begins. -/
theorem not_alone (h : HasShape p σ) (hx : '>' ∉ x) (hnone : p.rest? before (tag x ++ b) = none) :
    ¬ σ.alone x := fun halone =>
  rest?_ne_none ((h before (tag x) b).mpr (.inl ⟨x, rfl, hx, halone⟩)) hnone

/-- No pair of tags of the shape begins where no piece begins. -/
theorem not_opens_closes (h : HasShape p σ) (hx : '>' ∉ x)
    (hnone : p.rest? before (tag x ++ b) = none) (hz : Site b z y) :
    ¬ (σ.opens x ∧ σ.closes z) := by
  rintro ⟨hopens, hcloses⟩
  obtain ⟨hz, c, rfl⟩ := hz
  refine rest?_ne_none ((h before (tag x ++ (c ++ tag z)) y).mpr
    (.inr ⟨x, c, z, rfl, hx, hz, hopens, hcloses⟩)) ?_
  rwa [List.append_assoc, List.append_assoc]

end HasShape

theorem putsTags_nil : PutsTags (fun _ => []) accepts := fun _ => .inl rfl

theorem nil_ne_tag (x : List Char) : [] ≠ tag x := (List.cons_ne_nil _ _).symm

namespace Shape

variable {σ : Shape}

/-- **Tags that are taken out.** If no tag opens in another one outside of the pieces that match a
pattern of tags, the pattern is taken out in one pass: it does not occur in what is left. -/
theorem not_occurs_replaceFrom (h : HasShape p σ) (hs : everyTagOutside p accepts before s) :
    ¬ σ.Occurs (p.replaceFrom (fun _ => []) before s) := by
  rintro (⟨x, b, hsite, halone⟩ | ⟨x, b, z, b', hopen, hclose, hboth⟩)
  · rcases hsite.origin h.opensTag putsTags_nil hs with ⟨c, hfrom, -, -, _, hnone⟩ | ⟨m, hput⟩
    · exact h.not_alone hfrom.1 hnone halone
    · exact nil_ne_tag x hput
  · rcases hopen.origin h.opensTag putsTags_nil hs with
      ⟨c, hfrom, rfl, hrest, before', hnone⟩ | ⟨m, hput⟩
    · rcases hclose.origin h.opensTag putsTags_nil hrest with ⟨d, hfrom', -⟩ | ⟨m, hput⟩
      · exact h.not_opens_closes hfrom.1 hnone hfrom' hboth
      · exact nil_ne_tag z hput
    · exact nil_ne_tag x hput

/-- What is in a tag after a pass is as good as what was in a tag before it. -/
structure Keeps (σ : Shape) (x y : List Char) : Prop where
  alone : σ.alone y → σ.alone x
  opens : σ.opens y → σ.opens x
  closes : σ.closes y → σ.closes x

/-- What is in a tag matters to a shape. -/
def Concerns (σ : Shape) (x : List Char) : Prop :=
  σ.alone x ∨ σ.opens x ∨ σ.closes x

/-- A pass that makes no tags of a shape, before the tags or between them, makes no occurrence. -/
theorem occurs_of_pass {R : List Char → List Char → Prop}
    (hpass : ∀ s t x b, R s t → Site t x b → σ.Concerns x →
      ∃ x' b', Site s x' b' ∧ R b' b ∧ σ.Keeps x' x)
    (h : R s t) (ht : σ.Occurs t) : σ.Occurs s := by
  rcases ht with ⟨x, b, hsite, halone⟩ | ⟨x, b, z, c, hopen, hclose, hopens, hcloses⟩
  · obtain ⟨x', b', hfrom, -, hkeeps⟩ := hpass s t x b h hsite (.inl halone)
    exact .inl ⟨x', b', hfrom, hkeeps.alone halone⟩
  · obtain ⟨x', b', hfrom, hrest, hkeeps⟩ := hpass s t x b h hopen (.inr (.inl hopens))
    obtain ⟨z', c', hfrom', -, hkeeps'⟩ := hpass b' b z c hrest hclose (.inr (.inr hcloses))
    exact .inr ⟨x', b', z', c', hfrom, hfrom', hkeeps.opens hopens, hkeeps'.closes hcloses⟩

/-- A pass of another pattern makes no occurrence of a shape if it puts in no tag of it. -/
theorem occurs_of_replaceFrom (hp : OpensTag p) (hput : PutsTags by_ accepts)
    (hother : ∀ m x, by_ m = tag x → ¬ σ.Concerns x) (hs : everyTagOutside p accepts before s)
    (ht : σ.Occurs (p.replaceFrom by_ before s)) : σ.Occurs s := by
  refine occurs_of_pass (R := fun s t => ∃ before, everyTagOutside p accepts before s ∧
    t = p.replaceFrom by_ before s) ?_ ⟨before, hs, rfl⟩ ht
  rintro s _ x b ⟨before, hs, rfl⟩ hsite hconcerns
  rcases hsite.origin hp hput hs with ⟨b', hfrom, hrest, hapart, -⟩ | ⟨m, hm⟩
  · exact ⟨x, b', hfrom, ⟨_, hapart, hrest⟩, id, id, id⟩
  · exact absurd hconcerns (hother m x hm)

end Shape

end PageMigration.Html
