import PageMigration.Proofs.Run.Transferred
import PageMigration.Rollup.HighlightedContent
import PageMigration.Rollup.QuickLinks
import PageMigration.Run.PageField

/-!
# Runs that agree

Two runs of one computation may get their answers from different sources, or remember them in
different ways.  If every look-up yields the same in both and keeps their states related, then so
does every computation that is made of look-ups.

## Main definitions

* `Run.Agree` : two computations that yield the same from related states.
* `Context.answeredBy` : a run with the answers of another source.
* `Context.Mirrors` : two runs whose look-ups agree.

## Main results

* `Run.Agree.bind`, `Run.Agree.mapM` : computations put together from ones that agree.
* `Context.Mirrors.person?`, `Context.Mirrors.quickLinks` and others : what is made of look-ups.
-/

namespace PageMigration

/-! ### Computations that agree -/

namespace Run

/-- Two computations agree over a relation of states if they yield the same from related states
and leave related states. -/
def Agree (R : RunState → RunState → Prop) {α : Type} (x y : Run α) : Prop :=
  ∀ s t, R s t → (x s).1 = (y t).1 ∧ R (x s).2 (y t).2

namespace Agree

variable {R : RunState → RunState → Prop} {α β : Type}

theorem pure (a : α) : Agree R (Pure.pure a) (Pure.pure a) :=
  fun _ _ h => ⟨rfl, h⟩

/-- What one computation does, the other one does too. -/
theorem exists_eq {x y : Run α} {a : α} {s s' t : RunState} (h : Agree R x y) (hst : R s t)
    (hx : x s = (a, s')) : ∃ t', y t = (a, t') ∧ R s' t' := by
  obtain ⟨hvalue, hstate⟩ := h s t hst
  rw [hx] at hvalue hstate
  exact ⟨(y t).2, Prod.ext hvalue.symm rfl, hstate⟩

theorem bind {x y : Run α} {f g : α → Run β} (hx : Agree R x y) (hf : ∀ a, Agree R (f a) (g a)) :
    Agree R (x >>= f) (y >>= g) := by
  intro s t h
  rcases hs : x s with ⟨a, s'⟩
  obtain ⟨t', ht, hstate⟩ := hx.exists_eq h hs
  rw [bind_of_eq hs, bind_of_eq ht]
  exact hf a s' t' hstate

theorem ite {p : Prop} [Decidable p] {x x' y y' : Run α} (h : p → Agree R x x')
    (h' : ¬ p → Agree R y y') : Agree R (if p then x else y) (if p then x' else y') := by
  by_cases hp : p
  · rw [if_pos hp, if_pos hp]
    exact h hp
  · rw [if_neg hp, if_neg hp]
    exact h' hp

theorem mapM {f g : α → Run β} (h : ∀ a, Agree R (f a) (g a)) (items : List α) :
    Agree R (items.mapM f) (items.mapM g) := by
  induction items with
  | nil =>
      rw [List.mapM_nil, List.mapM_nil]
      exact pure []
  | cons a items ih =>
      rw [List.mapM_cons, List.mapM_cons]
      exact (h a).bind fun b => ih.bind fun rest => pure (b :: rest)

end Agree

end Run

/-! ### Two runs -/

/-- The run whose look-ups are answered by another source, and whose caches may be off. -/
def Context.answeredBy (ctx : Context) (answers : Source) (cacheLookups : Bool) : Context :=
  { ctx with
    source := { answers with web := ctx.source.web }
    settings := { ctx.settings with cacheLookups } }

/-- Which files are copied does not depend on who answers. -/
theorem Context.copies_answeredBy (ctx : Context) (answers : Source) (cacheLookups : Bool)
    {path servedFrom : String} :
    (ctx.answeredBy answers cacheLookups).Copies path servedFrom ↔ ctx.Copies path servedFrom :=
  ⟨fun h => ⟨h.allowed, h.crossSite, h.inside, h.served⟩,
    fun h => ⟨h.allowed, h.crossSite, h.inside, h.served⟩⟩

/-- Two runs whose look-ups agree.  Files are looked up in the source web only. -/
structure Context.Mirrors (R : RunState → RunState → Prop) (c d : Context) : Prop where
  eq : ∃ answers cacheLookups, d = c.answeredBy answers cacheLookups
  list? : ∀ id, Run.Agree R (Run.list? c id) (Run.list? d id)
  users : ∀ query, Run.Agree R (Run.users c query) (Run.users d query)
  file? : ∀ path, c.source.web.containsPath path →
    Run.Agree R (Run.file? c path) (Run.file? d path)
  content? : ∀ path, c.source.web.containsPath path →
    Run.Agree R (Run.content? c path) (Run.content? d path)
  term? : ∀ id, Run.Agree R (Run.term? c id) (Run.term? d id)
  transfer : ∀ link, Run.Agree R (Run.transfer c link) (Run.transfer d link)

namespace Context.Mirrors

open Run

variable {R : RunState → RunState → Prop} {c d : Context} (h : c.Mirrors R d)
include h

theorem linkedFile? (link : String) :
    Agree R (Run.linkedFile? c link) (Run.linkedFile? d link) := by
  obtain ⟨answers, cacheLookups, rfl⟩ := h.eq
  unfold Run.linkedFile?
  exact Agree.ite (fun _ => .pure none) fun hp => h.file? _ (Decidable.not_not.mp (not_or.mp hp).2)

theorem person? (text : String) : Agree R (Run.person? c text) (Run.person? d text) := by
  obtain ⟨answers, cacheLookups, rfl⟩ := h.eq
  unfold Run.person?
  refine Agree.ite (fun _ => .pure none) fun _ => (h.users _).bind fun found => ?_
  cases found <;> exact .pure _

theorem fieldImage (field : String) :
    Agree R (Run.fieldImage c field) (Run.fieldImage d field) := by
  rw [Run.fieldImage, Run.fieldImage]
  cases PageField.imageSource? field with
  | none => exact .pure ""
  | some source => exact h.transfer source

theorem previewImage (field : String) :
    Agree R (Run.previewImage c field) (Run.previewImage d field) := by
  have himage := h.fieldImage field
  obtain ⟨answers, cacheLookups, rfl⟩ := h.eq
  exact himage.bind fun path => .pure _

theorem authors (field : String) : Agree R (Run.authors c field) (Run.authors d field) :=
  (Agree.mapM h.person? _).bind fun _ => .pure _

theorem terms (field : String) : Agree R (Run.terms c field) (Run.terms d field) :=
  (Agree.mapM h.term? _).bind fun _ => .pure _

theorem defaultTerms (value field : String) (overwrite : Bool) :
    Agree R (Run.defaultTerms c value field overwrite)
      (Run.defaultTerms d value field overwrite) := by
  have hterms := h.terms field
  obtain ⟨answers, cacheLookups, rfl⟩ := h.eq
  exact Agree.ite (fun _ => .pure _) fun _ => hterms

theorem channels (q : ContentQuery) : Agree R (q.channels c) (q.channels d) := by
  have hlist := h.list? q.listId
  obtain ⟨answers, cacheLookups, rfl⟩ := h.eq
  exact Agree.ite (fun _ => .pure _) fun _ => hlist.bind fun _ => .pure _

theorem quickLink (link : SummaryLink) :
    Agree R (Run.quickLink c link) (Run.quickLink d link) := by
  have himage := h.transfer link.imageUrl
  obtain ⟨answers, cacheLookups, rfl⟩ := h.eq
  exact Agree.ite (fun _ => .pure _) fun _ => himage.bind fun _ => .pure _

theorem quickLinks (markup base : String) :
    Agree R (Run.quickLinks c markup base) (Run.quickLinks d markup base) :=
  (Agree.mapM h.quickLink _).bind fun _ => .pure _

end Context.Mirrors

end PageMigration
