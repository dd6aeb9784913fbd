import PageMigration.Proofs.Html.ClassAttributes

/-!
# What is left in rich text

Rich text is brought into its modern form by passes over the text, one after another, each of which
takes out or renames some tags.  If no tag opens in another one outside of scripts and style sheets,
and the classes in tags are closed and set apart, what one pass has taken out none of the later ones
puts together.  Without that the text around a piece can be a tag itself, which is left in the
modern form.

## Main definitions

* `RichText.stripped` : the patterns that are taken out.
* `RichText.tagsApart` : the texts whose tags are not put together.
* `RichText.Free` : texts without tags of some shapes.

## Main results

* `RichText.Free.removeAll`, `RichText.Free.withoutClasses`, `RichText.Free.rename` : the passes.
* `RichText.tagsApart_of_everyTag` : texts where no tag at all opens in another one.
* `RichText.not_occursIn_normalize` : nothing that is taken out is left.
* `RichText.occursIn_normalize_of_spliced` : a script that is left, in a tag that opens in another.
-/

namespace PageMigration.RichText

open Html Pattern SiteLink

/-- The patterns that are taken out of rich text. -/
def stripped : List Pattern :=
  [scriptBlock, styleBlock, fontTag, imageTag, frameBlock]

/-- Outside of its scripts no tag of a rich text opens in another one, and outside of its style
sheets no tag of what is left then; the classes in the tags there are closed and set apart. -/
def tagsApart (html : String) : Bool :=
  everyTagOutside scriptBlock (fun _ => true) none html.toList &&
    everyTagOutside styleBlock classesApart none (scriptBlock.removeAll html.toList)

/-! ### Passes -/

variable {accepts : List Char → Bool} {shapes : List Shape} {σ : Shape} {p : Pattern}
  {name : String} {s x : List Char}

/-- The tags of a text stay apart and pass a test, and there are none of some shapes. -/
structure Free (accepts : List Char → Bool) (shapes : List Shape) (s : List Char) : Prop where
  apart : everyTag accepts s
  absent : ∀ σ ∈ shapes, ¬ σ.Occurs s

namespace Free

/-- A pass over a text whose tags stay apart outside of what is replaced. -/
theorem of_outside {by_ : List Char → List Char} (hs : everyTagOutside p accepts none s)
    (habsent : ∀ σ ∈ shapes, ¬ σ.Occurs s) (hp : OpensTag p) (hput : PutsTags by_ accepts)
    (hother : ∀ σ ∈ shapes, ∀ m x, by_ m = tag x → ¬ σ.Concerns x) :
    Free accepts shapes (p.replaceAll by_ s) where
  apart := everyTag_replaceFrom hp hput hs
  absent σ hσ ht := habsent σ hσ (Shape.occurs_of_replaceFrom hp hput (hother σ hσ) hs ht)

/-- A pass that takes out the tags of a shape, and what is between them. -/
theorem removeAll_of_outside (hs : everyTagOutside p accepts none s)
    (habsent : ∀ σ ∈ shapes, ¬ σ.Occurs s) (hp : HasShape p σ) :
    Free accepts (σ :: shapes) (p.removeAll s) where
  apart := everyTag_replaceFrom hp.opensTag putsTags_nil hs
  absent := List.forall_mem_cons.mpr ⟨Shape.not_occurs_replaceFrom hp hs,
    (of_outside hs habsent hp.opensTag putsTags_nil
      fun _ _ _ x hm => absurd hm (nil_ne_tag x)).absent⟩

/-- A pass that puts in no tags of the shapes. -/
theorem replaceAll {by_ : List Char → List Char} (h : Free accepts shapes s) (hp : OpensTag p)
    (hput : PutsTags by_ accepts) (hother : ∀ σ ∈ shapes, ∀ m x, by_ m = tag x → ¬ σ.Concerns x) :
    Free accepts shapes (p.replaceAll by_ s) :=
  of_outside (everyTagOutside_of_everyTag h.apart) h.absent hp hput hother

/-- A pass that takes something else out. -/
theorem removeOther (h : Free accepts shapes s) (hp : OpensTag p) :
    Free accepts shapes (p.removeAll s) :=
  h.replaceAll hp putsTags_nil fun _ _ _ x hm => absurd hm (nil_ne_tag x)

/-- A pass that takes out the tags of a shape. -/
theorem removeAll (h : Free accepts shapes s) (hp : HasShape p σ) :
    Free accepts (σ :: shapes) (p.removeAll s) :=
  removeAll_of_outside (everyTagOutside_of_everyTag h.apart) h.absent hp

/-- The pass that takes out classes. -/
theorem withoutClasses (h : Free classesApart shapes s)
    (hkeeps : ∀ σ ∈ shapes, ∀ x w, Cleared x w → σ.Keeps x w) :
    Free (fun _ => true) shapes (classAttribute.removeAll s) where
  apart := everyTag_withoutClasses h.apart
  absent σ hσ ht := h.absent σ hσ (occurs_of_withoutClasses (hkeeps σ hσ) h.apart ht)

theorem trim (h : Free accepts shapes s) : ∀ σ ∈ shapes, ¬ σ.Occurs (Chars.trim s) := by
  intro σ hσ ht
  obtain ⟨a, b, hs⟩ := Chars.trim_isInfix s
  exact h.absent σ hσ (hs ▸ ht.append a b)

end Free

/-! ### Renamed tags -/

/-- What is in a tag begins with a name, after a slash or not. -/
def beginsWithName (name : String) (x : List Char) : Bool :=
  (stripFolded? name.toList x).isSome || (stripFolded? ('/' :: name.toList) x).isSome

theorem beginsWithName_of_isNamed (h : IsNamed name x) : beginsWithName name x := by
  obtain ⟨n, y, rfl, hn, -⟩ := h
  rw [beginsWithName, stripFolded?_eq_some_iff.mpr ⟨n, rfl, hn⟩]
  rfl

theorem beginsWithName_of_slash {n y : List Char} (hn : Spells name.toList n) :
    beginsWithName name ('/' :: (n ++ y)) := by
  rw [beginsWithName, Bool.or_eq_true]
  have hstrip : stripFolded? ('/' :: name.toList) ('/' :: (n ++ y)) = some y :=
    stripFolded?_eq_some_iff.mpr ⟨'/' :: n, rfl, .cons (beq_self_eq_true _) hn⟩
  exact .inr (by rw [hstrip]; rfl)

theorem beginsWithName_of_blockShape (h : (blockShape name).Concerns x) :
    beginsWithName name x := by
  rcases h with h | h | ⟨n, rfl, hn⟩
  · exact h.elim
  · exact beginsWithName_of_isNamed h
  · simpa using beginsWithName_of_slash (y := []) hn

theorem beginsWithName_of_fontShape (h : fontShape.Concerns x) : beginsWithName "font" x := by
  rcases h with (h | ⟨y, rfl, n, z, rfl, hn, -⟩) | h | h
  · exact beginsWithName_of_isNamed h
  · exact beginsWithName_of_slash hn
  · exact h.elim
  · exact h.elim

theorem renamed_eq (new : String) (m : List Char) :
    renamed new m = tag new.toList ∨ renamed new m = tag ('/' :: new.toList) := by
  unfold renamed
  split
  · exact .inr rfl
  · exact .inl rfl

theorem tag_injective : Function.Injective tag := fun _ _ h =>
  List.append_cancel_right (List.cons.inj h).2

/-- The pass that renames an element. -/
theorem Free.rename {new : String} (h : Free (fun _ => true) shapes s)
    (hnew : new.toList.all inTag)
    (hother : ∀ σ ∈ shapes, ¬ σ.Concerns new.toList)
    (hends : ∀ σ ∈ shapes, ¬ σ.Concerns ('/' :: new.toList)) :
    Free (fun _ => true) shapes ((plainTag name).replaceAll (renamed new) s) := by
  refine h.replaceAll (opensTag_plainTag name) (fun m => .inr ?_) fun σ hσ m x hm => ?_
  · rcases renamed_eq new m with hm | hm
    · exact ⟨_, hm, List.all_eq_true.mp hnew, rfl⟩
    · exact ⟨_, hm, List.forall_mem_cons.mpr ⟨rfl, List.all_eq_true.mp hnew⟩, rfl⟩
  · rcases renamed_eq new m with hm' | hm'
    · exact tag_injective (hm'.symm.trans hm) ▸ hother σ hσ
    · exact tag_injective (hm'.symm.trans hm) ▸ hends σ hσ

/-! ### Rich text in its modern form -/

/-- The shapes of the tags that are taken out before others are renamed. -/
def styleShapes : List Shape :=
  [fontShape, blockShape "style", blockShape "script"]

theorem forall_styleShapes {P : Shape → Prop} (hfont : P fontShape)
    (hblock : ∀ name, name = "style" ∨ name = "script" → P (blockShape name)) :
    ∀ σ ∈ styleShapes, P σ := by
  simp only [styleShapes, List.forall_mem_cons, List.not_mem_nil]
  exact ⟨hfont, hblock _ (.inl rfl), hblock _ (.inr rfl), nofun⟩

theorem not_concerns_of_beginsWithName (hfont : beginsWithName "font" x = false)
    (hstyle : beginsWithName "style" x = false) (hscript : beginsWithName "script" x = false) :
    ∀ σ ∈ styleShapes, ¬ σ.Concerns x := by
  refine forall_styleShapes ?_ ?_
  · exact fun h => Bool.eq_false_iff.mp hfont (beginsWithName_of_fontShape h)
  · rintro name (rfl | rfl) h
    · exact Bool.eq_false_iff.mp hstyle (beginsWithName_of_blockShape h)
    · exact Bool.eq_false_iff.mp hscript (beginsWithName_of_blockShape h)

theorem keeps_of_cleared : ∀ σ ∈ styleShapes, ∀ x w, Cleared x w → σ.Keeps x w := by
  refine forall_styleShapes (fun x w h => h.keeps_fontShape) ?_
  rintro name (rfl | rfl) x w h
  · exact h.keeps_blockShape (by decide)
  · exact h.keeps_blockShape (by decide)

theorem free_restyle {html : String} (h : tagsApart html) :
    Free (fun _ => true) styleShapes (restyle html.toList) := by
  rw [tagsApart, Bool.and_eq_true] at h
  have hnone : ∀ σ ∈ ([] : List Shape), ¬ σ.Occurs html.toList := by nofun
  have hscript := Free.removeAll_of_outside h.1 hnone hasShape_scriptBlock
  have hstyle := Free.removeAll_of_outside h.2 hscript.absent hasShape_styleBlock
  have hclass := (hstyle.removeAll hasShape_fontTag).withoutClasses keeps_of_cleared
  have hstrong : Free (fun _ => true) styleShapes
      ((plainTag "b").replaceAll (renamed "strong") _) :=
    hclass.rename (by decide) (not_concerns_of_beginsWithName rfl rfl rfl)
      (not_concerns_of_beginsWithName rfl rfl rfl)
  exact hstrong.rename (by decide) (not_concerns_of_beginsWithName rfl rfl rfl)
    (not_concerns_of_beginsWithName rfl rfl rfl)

theorem Free.withoutMedia (h : Free accepts shapes s) :
    Free accepts (frameShape :: imageShape :: shapes) (withoutMedia false s) :=
  (h.removeAll hasShape_imageTag).removeAll hasShape_frameBlock

/-- If no tag of a rich text opens in another one at all, none does so outside of scripts and style
sheets. -/
theorem tagsApart_of_everyTag {html : String} (h : everyTag classesApart html.toList) :
    tagsApart html := by
  have hloose : everyTag (fun _ => true) html.toList := everyTag_mono (fun _ _ => rfl) h
  have hscript : everyTag classesApart (scriptBlock.removeAll html.toList) :=
    everyTag_replaceFrom hasShape_scriptBlock.opensTag putsTags_nil (everyTagOutside_of_everyTag h)
  rw [tagsApart, Bool.and_eq_true]
  exact ⟨everyTagOutside_of_everyTag hloose, everyTagOutside_of_everyTag hscript⟩

/-- **Nothing that is taken out is left.** If outside of scripts and style sheets no tag of a rich
text opens in another one, and the classes in its tags are closed and set apart, then no script,
style sheet, font tag, image or embedded frame occurs in its modern form. -/
theorem not_occursIn_normalize {html : String} (h : tagsApart html) :
    ∀ p ∈ stripped, p.occursIn (normalize html false).toList = false := by
  have hfree := (free_restyle h).withoutMedia.removeOther opensTag_emptyParagraph
  have habsent {p : Pattern} {σ : Shape} (hp : HasShape p σ)
      (hσ : σ ∈ frameShape :: imageShape :: styleShapes) :
      p.occursIn (normalize html false).toList = false := by
    rw [Bool.eq_false_iff, normalize, String.toList_ofList]
    exact fun hoccurs => hfree.trim σ hσ (hp.occurs_of_occursIn hoccurs)
  simp only [stripped, List.forall_mem_cons, List.not_mem_nil]
  refine ⟨habsent hasShape_scriptBlock ?_, habsent hasShape_styleBlock ?_,
    habsent hasShape_fontTag ?_, habsent hasShape_imageTag ?_, habsent hasShape_frameBlock ?_,
    nofun⟩
  all_goals simp [styleShapes]

/-- A bracket in a script and classes in quotes do no harm. -/
theorem not_occursIn_normalize_of_paragraph :
    let html := "<p class=\"a\"><font><b>B</b></font></p><script>i<n</script>"
    tagsApart html ∧ normalize html false = "<p><strong>B</strong></p>" ∧
      ∀ p ∈ stripped, p.occursIn (normalize html false).toList = false := by
  intro html
  have happart : tagsApart html := by decide +kernel
  exact ⟨happart, by decide +kernel, not_occursIn_normalize happart⟩

/-- A script is left where a tag opens in another one, and where a class is not set apart from what
comes after it. -/
theorem occursIn_normalize_of_spliced :
    scriptBlock ∈ stripped ∧
      normalize "<scr<script></script>ipt>alert(1)</script>" false = "<script>alert(1)</script>" ∧
      normalize "<s class=\"a\"cript>alert(1)</script>" false = "<script>alert(1)</script>" ∧
      scriptBlock.occursIn "<script>alert(1)</script>".toList = true :=
  ⟨List.mem_cons_self, by decide +kernel, by decide +kernel, by decide +kernel⟩

end PageMigration.RichText
