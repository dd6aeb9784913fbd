import PageMigration.Html.RichText
import PageMigration.Proofs.Chars.Folding
import PageMigration.Proofs.Html.Tags
import PageMigration.Proofs.Site.RedirectedLinks

/-!
# Patterns of tags

The patterns that are taken out of rich text match single tags of a name, or a start tag and an end
tag of one name with anything between them.  The others that are replaced in rich text begin with an
opening bracket too, but for classes.

## Main definitions

* `RichText.IsNamed`, `RichText.IsEnd` : what is in the tags of an element.
* `RichText.blockShape`, `RichText.fontShape`, `RichText.imageShape`, `RichText.frameShape` : the
  shapes of the patterns.

## Main results

* `RichText.hasShape_block`, `RichText.hasShape_fontTag`, `RichText.hasShape_imageTag`,
  `RichText.hasShape_frameBlock` : the patterns match the tags of these shapes.
-/

namespace PageMigration.RichText

open Html Pattern SiteLink

variable {name text : String} {before : Option Char} {m n x y after : List Char}

/-! ### Spellings -/

/-- A text of marks has no other spelling. -/
theorem spells_iff_of_isMark {marks : List Char} (h : marks.all Chars.isMark) :
    Spells marks m ↔ m = marks := by
  induction marks generalizing m with
  | nil => exact List.forall₂_nil_left_iff
  | cons a marks ih =>
      rw [List.all_cons, Bool.and_eq_true] at h
      rw [Spells, List.forall₂_cons_left_iff]
      constructor
      · rintro ⟨c, n, hc, hmore, rfl⟩
        rw [Chars.eq_of_sameLetter h.1 hc, (ih h.2).mp hmore]
      · rintro rfl
        exact ⟨a, marks, beq_self_eq_true _, (ih h.2).mpr rfl, rfl⟩

theorem matches_marks_iff (h : text.toList.all Chars.isMark) :
    Matches (word text) before m after ↔ m = text.toList :=
  matches_word_iff.trans (spells_iff_of_isMark h)

/-- The names of elements are in small letters, and there are no empty ones. -/
abbrev IsElementName (name : String) : Prop :=
  name.toList ≠ [] ∧ name.toList.all Char.isLower

/-- The spellings of small letters have no marks and no blanks in them. -/
theorem of_spells {letters : List Char} (hletters : letters.all Char.isLower)
    (h : Spells letters n) : ∀ c ∈ n, Chars.isBlank c = false ∧ Chars.isMark c = false := by
  induction h with
  | nil => nofun
  | cons hc _ ih =>
      rw [List.all_cons, Bool.and_eq_true] at hletters
      exact List.forall_mem_cons.mpr
        ⟨Chars.of_sameLetter_of_isLower hletters.1 hc, ih hletters.2⟩

theorem notMem_of_spells {letters : List Char} (hletters : letters.all Char.isLower)
    (h : Spells letters n) {c : Char} (hc : Chars.isMark c) : c ∉ n := fun hmem =>
  absurd hc (Bool.eq_false_iff.mp (of_spells hletters h c hmem).2)

/-! ### Names of tags -/

/-- What is in a tag begins with a name, in any case, which ends there. -/
def IsNamed (name : String) (x : List Char) : Prop :=
  ∃ n y, x = n ++ y ∧ Spells name.toList n ∧ wordAt n.getLast? ≠ wordAt y.head?

/-- What is in a tag is a slash with a name, in any case. -/
def IsEnd (name : String) (x : List Char) : Prop :=
  ∃ n, x = '/' :: n ∧ Spells name.toList n

theorem ne_nil_of_spells {letters : List Char} (hne : letters ≠ []) (h : Spells letters n) :
    n ≠ [] := by
  rintro rfl
  exact hne (List.forall₂_nil_right_iff.mp h)

/-- A name with the rest of a tag up to its closing marks. -/
theorem matches_named_iff {close : String} (hname : IsElementName name)
    (hclose : close.toList.all Chars.isMark)
    (hedge : ∀ b, wordAt (close.toList ++ b).head? = false) :
    Matches (all [word name, edge, tagRest, word close]) before m after ↔
      ∃ x, m = x ++ close.toList ∧ '>' ∉ x ∧ IsNamed name x := by
  have hhead (y : List Char) : wordAt (y ++ close.toList ++ after).head? = wordAt y.head? := by
    cases y with
    | nil => rw [List.nil_append, hedge]; rfl
    | cons c y => rfl
  simp only [all, matches_seq_iff, matches_word_iff, matches_edge_iff, tagRest, matches_many_iff,
    bne_iff_ne]
  constructor
  · rintro ⟨n, _, rfl, hn, _, _, rfl, ⟨rfl, hne⟩, y, _, rfl, hy, hmarks⟩
    obtain rfl := (spells_iff_of_isMark hclose).mp hmarks
    rw [hhead, lastOf_eq_getLast? _ (ne_nil_of_spells hname.1 hn)] at hne
    refine ⟨n ++ y, by rw [List.nil_append, List.append_assoc], ?_, n, y, rfl, hn, hne⟩
    rw [List.mem_append, not_or]
    exact ⟨notMem_of_spells hname.2 hn (by decide), fun hmem => hy '>' hmem rfl⟩
  · rintro ⟨_, rfl, hx, n, y, rfl, hn, hne⟩
    rw [List.mem_append, not_or] at hx
    rw [← hhead, ← lastOf_eq_getLast? before (ne_nil_of_spells hname.1 hn)] at hne
    exact ⟨n, y ++ close.toList, by rw [List.append_assoc], hn, [], _, rfl, ⟨rfl, hne⟩, y, _, rfl,
      fun c hc heq => hx.2 (heq ▸ hc), (spells_iff_of_isMark hclose).mpr rfl⟩

theorem matches_open_iff {q : Pattern} : Matches (seq (word "<") q) before m after ↔
    ∃ x, m = '<' :: x ∧ Matches q (some '<') x after := by
  rw [matches_seq_iff]
  constructor
  · rintro ⟨n, x, rfl, hn, hx⟩
    obtain rfl := (matches_marks_iff (by decide)).mp hn
    exact ⟨x, rfl, hx⟩
  · rintro ⟨x, rfl, hx⟩
    exact ⟨['<'], x, rfl, (matches_marks_iff (by decide)).mpr rfl, hx⟩

theorem matches_startTag_iff (hname : IsElementName name) :
    Matches (startTag name) before m after ↔ ∃ x, m = tag x ∧ '>' ∉ x ∧ IsNamed name x := by
  have hnamed {x : List Char} : Matches (all [word name, edge, tagRest, word ">"]) (some '<') x
      after ↔ _ := matches_named_iff hname (by decide) fun _ => rfl
  refine matches_open_iff.trans ?_
  constructor
  · rintro ⟨_, rfl, hmatch⟩
    obtain ⟨x, rfl, hx⟩ := hnamed.mp hmatch
    exact ⟨x, rfl, hx⟩
  · rintro ⟨x, rfl, hx⟩
    exact ⟨x ++ ['>'], rfl, hnamed.mpr ⟨x, rfl, hx⟩⟩

/-! ### Shapes -/

/-- The start tag and the end tag of an element. -/
def blockShape (name : String) : Shape where
  alone _ := False
  opens := IsNamed name
  closes := IsEnd name

/-- The tags of fonts. -/
def fontShape : Shape where
  alone x := IsNamed "font" x ∨ ∃ y, x = '/' :: y ∧ IsNamed "font" y
  opens _ := False
  closes _ := False

/-- The start tags of images. -/
def imageShape : Shape where
  alone := IsNamed "img"
  opens _ := False
  closes _ := False

/-- The tags of frames: a start tag and an end tag, or one that is closed at once. -/
def frameShape : Shape where
  alone x := ∃ y, x = y ++ ['/'] ∧ IsNamed "iframe" y
  opens := IsNamed "iframe"
  closes := IsEnd "iframe"

theorem matches_block_iff (hname : IsElementName name) : Matches (block name) before m after ↔
    ∃ x c z, m = tag x ++ (c ++ tag z) ∧ '>' ∉ x ∧ '>' ∉ z ∧ IsNamed name x ∧ IsEnd name z := by
  simp only [block, all, matches_seq_iff, matches_startTag_iff hname, matches_anything, true_and]
  constructor
  · rintro ⟨_, _, rfl, ⟨x, rfl, hx, hnamed⟩, c, _, rfl, hend⟩
    obtain ⟨slash, _, rfl, hslash, n, _, rfl, hn, hclose⟩ := hend
    obtain rfl := (matches_marks_iff (by decide)).mp hslash
    obtain rfl := (matches_marks_iff (by decide)).mp hclose
    rw [matches_word_iff] at hn
    have hclosed : '>' ∉ '/' :: n := by
      rw [List.mem_cons, not_or]
      exact ⟨by decide, notMem_of_spells hname.2 hn (by decide)⟩
    exact ⟨x, c, '/' :: n, rfl, hx, hclosed, hnamed, n, rfl, hn⟩
  · rintro ⟨x, c, _, rfl, hx, -, hnamed, n, rfl, hn⟩
    exact ⟨_, _, rfl, ⟨x, rfl, hx, hnamed⟩, c, _, rfl, ['<', '/'], n ++ ['>'], rfl,
      (matches_marks_iff (by decide)).mpr rfl, n, ['>'], rfl, matches_word_iff.mpr hn,
      (matches_marks_iff (by decide)).mpr rfl⟩

theorem hasShape_block (hname : IsElementName name) : HasShape (block name) (blockShape name) := by
  intro before m after
  rw [matches_block_iff hname]
  simp [blockShape]

theorem hasShape_scriptBlock : HasShape scriptBlock (blockShape "script") :=
  hasShape_block (by decide)

theorem hasShape_styleBlock : HasShape styleBlock (blockShape "style") :=
  hasShape_block (by decide)

theorem hasShape_imageTag : HasShape imageTag imageShape := by
  intro before m after
  rw [imageTag, matches_startTag_iff (by decide)]
  simp [imageShape]

theorem hasShape_fontTag : HasShape fontTag fontShape := by
  intro before m after
  have hnamed {before : Option Char} {x : List Char} :
      Matches (all [word "font", edge, tagRest, word ">"]) before x after ↔ _ :=
    matches_named_iff (by decide) (by decide) fun _ => rfl
  refine matches_open_iff.trans ?_
  simp only [fontShape, and_false, exists_false, or_false]
  constructor
  · rintro ⟨_, rfl, hmatch⟩
    obtain ⟨slash, _, rfl, hslash, hname⟩ := matches_seq_iff.mp hmatch
    obtain ⟨x, rfl, hx, hfont⟩ := hnamed.mp hname
    rcases matches_optional_iff.mp hslash with hslash | rfl
    · obtain rfl := (matches_marks_iff (by decide)).mp hslash
      refine ⟨'/' :: x, rfl, ?_, .inr ⟨x, rfl, hfont⟩⟩
      rw [List.mem_cons, not_or]
      exact ⟨by decide, hx⟩
    · exact ⟨x, rfl, hx, .inl hfont⟩
  · rintro ⟨x, rfl, hx, hfont | ⟨y, rfl, hfont⟩⟩
    · exact ⟨_, rfl, matches_seq_iff.mpr ⟨[], _, rfl, matches_optional_iff.mpr (.inr rfl),
        hnamed.mpr ⟨x, rfl, hx, hfont⟩⟩⟩
    · have hslash : Matches (word "/") (some '<') ['/'] (y ++ ['>'] ++ after) :=
        (matches_marks_iff (by decide)).mpr rfl
      rw [List.mem_cons, not_or] at hx
      exact ⟨_, rfl, matches_seq_iff.mpr ⟨['/'], _, rfl, matches_optional_iff.mpr (.inl hslash),
        hnamed.mpr ⟨y, rfl, hx.2, hfont⟩⟩⟩

theorem hasShape_frameBlock : HasShape frameBlock frameShape := by
  intro before m after
  have hnamed {x : List Char} :
      Matches (all [word "iframe", edge, tagRest, word "/>"]) (some '<') x after ↔ _ :=
    matches_named_iff (by decide) (by decide) fun _ => rfl
  rw [frameBlock, matches_either_iff, matches_block_iff (by decide), or_comm]
  refine or_congr (matches_open_iff.trans ?_) Iff.rfl
  constructor
  · rintro ⟨_, rfl, hmatch⟩
    obtain ⟨x, rfl, hx, hframe⟩ := hnamed.mp hmatch
    refine ⟨x ++ ['/'], by simp [tag], ?_, x, rfl, hframe⟩
    rw [List.mem_append, not_or]
    exact ⟨hx, by decide⟩
  · rintro ⟨_, rfl, hx, y, rfl, hframe⟩
    rw [List.mem_append, not_or] at hx
    exact ⟨y ++ ['/', '>'], by simp [tag], hnamed.mpr ⟨y, rfl, hx.1, hframe⟩⟩

/-! ### Other patterns that begin with an opening bracket -/

theorem opensTag_of_open (q : Pattern) : OpensTag (seq (word "<") q) := by
  intro before m after hmatch
  obtain ⟨x, rfl, -⟩ := matches_open_iff.mp hmatch
  exact ⟨'<', x, rfl, rfl⟩

theorem opensTag_plainTag (name : String) : OpensTag (plainTag name) :=
  opensTag_of_open _

theorem opensTag_emptyParagraph : OpensTag emptyParagraph :=
  Begins.seq (opensTag_of_open _) _

end PageMigration.RichText
