import PageMigration.Catalog.Library
import PageMigration.Proofs.Run.Agreement

/-!
# Functions in runs that agree

Every function of the libraries is made of look-ups and of what the run is told besides its source.
So it yields the same in two runs whose look-ups agree.

## Main definitions

* `Body.Agrees` : a function that yields the same in two runs.

## Main results

* `Library.agrees_of_mem` : every function of a library does.
* `Library.agree_invoke` : so does every call.
-/

namespace PageMigration

variable {R : RunState → RunState → Prop} {c d : Context}

open Run

/-- A function yields the same in two runs, for all arguments and from related states. -/
def Body.Agrees (R : RunState → RunState → Prop) (c d : Context) (body : Body) : Prop :=
  ∀ args, Agree R (body c args) (body d args)

namespace Body

@[simp] theorem ofArguments_agrees (f : Arguments → Output) : (ofArguments f).Agrees R c d :=
  fun args => .pure (Except.ok (f args))

theorem ofContext_agrees {f : Context → Arguments → Output} (h : ∀ args, f c args = f d args) :
    (ofContext f).Agrees R c d := fun args => by
  rw [ofContext, ofContext, h args]
  exact .pure _

theorem ofRun_agrees {f : Context → Arguments → Run Output}
    (h : ∀ args, Agree R (f c args) (f d args)) : (ofRun f).Agrees R c d :=
  fun args => (h args).bind fun output => .pure (Except.ok output)

end Body

namespace Catalog

theorem constants_agree : ∀ e ∈ constants, e.body.Agrees R c d := by
  simp only [constants, List.mem_cons, forall_eq_or_imp, List.not_mem_nil, false_implies,
    implies_true, Body.ofArguments_agrees, and_self]

section

variable (h : c.Mirrors R d)
include h

theorem linkedText_agree (link : String) : Agree R (linkedText c link) (linkedText d link) := by
  obtain ⟨answers, cacheLookups, rfl⟩ := h.eq
  unfold linkedText
  refine Agree.ite (fun _ => .pure "") fun hp => (h.content? _ ?_).bind fun _ => .pure _
  simp only [Bool.or_eq_true, not_or, Bool.not_eq_true', Bool.not_eq_false] at hp
  exact hp.2

theorem imageAnchor_agree (link : String) : Agree R (imageAnchor c link) (imageAnchor d link) := by
  have himage := h.transfer link
  obtain ⟨answers, cacheLookups, rfl⟩ := h.eq
  unfold imageAnchor
  -- The class of the path is the same in both runs, whatever the path is.
  generalize Link.lookupPath link = path
  exact Agree.ite (fun _ => .pure "") fun _ => Agree.ite (fun _ => himage) fun _ => .pure _

theorem fileProperties_agree (kind link : String) :
    Agree R (fileProperties kind c link) (fileProperties kind d link) := by
  refine (h.linkedFile? link).bind fun found => ?_
  cases found with
  | none => exact .pure _
  | some file => exact (h.transfer link).bind fun _ => .pure _

theorem documentProperties_agree (link : String) :
    Agree R (documentProperties c link) (documentProperties d link) := by
  have hfile := h.linkedFile? link
  obtain ⟨answers, cacheLookups, rfl⟩ := h.eq
  unfold documentProperties
  refine Agree.ite (fun _ => .pure _) fun _ => hfile.bind fun found => ?_
  cases found <;> exact .pure _

theorem mediaProperties_agree (link : String) :
    Agree R (mediaProperties c link) (mediaProperties d link) := by
  unfold mediaProperties
  exact Agree.ite (fun _ => .pure _) fun _ =>
    (fileProperties_agree h "Media" link).bind fun _ => .pure _

theorem listVariant_agree (id : Guid) (description : String) :
    Agree R (listVariant c id description) (listVariant d id description) := by
  unfold listVariant
  exact Agree.ite (fun _ => .pure _) fun _ => (h.list? id).bind fun _ => .pure _

/-- A function of what the run is told does not ask who answers its look-ups. -/
theorem valueEntries_agree : ∀ e ∈ valueEntries, e.body.Agrees R c d := by
  obtain ⟨answers, cacheLookups, rfl⟩ := h.eq
  simp only [valueEntries, List.mem_cons, forall_eq_or_imp, List.not_mem_nil, false_implies,
    implies_true, Body.ofArguments_agrees, true_and, and_true]
  exact ⟨Body.ofContext_agrees fun _ => rfl, Body.ofContext_agrees fun _ => rfl⟩

theorem lookupEntries_agree : ∀ e ∈ lookupEntries, e.body.Agrees R c d := by
  simp only [lookupEntries, List.mem_cons, forall_eq_or_imp, List.not_mem_nil, false_implies,
    implies_true, and_true]
  refine ⟨?_, ?_, ?_, ?_, ?_, ?_, ?_, ?_, ?_, ?_⟩
  · exact Body.ofRun_agrees fun args => (h.transfer _).bind fun _ => .pure _
  · exact Body.ofRun_agrees fun args => (linkedText_agree h _).bind fun _ => .pure _
  · exact Body.ofRun_agrees fun args => fileProperties_agree h "Image" _
  · exact Body.ofRun_agrees fun args => (imageAnchor_agree h _).bind fun _ => .pure _
  · exact fun args => documentProperties_agree h _
  · exact fun args => mediaProperties_agree h _
  · exact Body.ofRun_agrees fun args => (h.list? _).bind fun _ => .pure _
  · obtain ⟨answers, cacheLookups, rfl⟩ := h.eq
    exact Body.ofRun_agrees fun args => (h.list? _).bind fun _ => .pure _
  · exact Body.ofRun_agrees fun args => (h.list? _).bind fun _ => .pure _
  · exact Body.ofRun_agrees fun args => (h.person? _).bind fun _ => .pure _

theorem partEntries_agree : ∀ e ∈ partEntries, e.body.Agrees R c d := by
  simp only [partEntries, List.mem_cons, forall_eq_or_imp, List.not_mem_nil, false_implies,
    implies_true, Body.ofArguments_agrees, true_and, and_true]
  refine ⟨?_, ?_⟩
  · exact Body.ofRun_agrees fun args => (h.channels _).bind fun _ => .pure _
  · exact Body.ofRun_agrees fun args => (h.quickLinks _ _).bind fun _ => .pure _

theorem selectorEntries_agree : ∀ e ∈ selectorEntries, e.body.Agrees R c d := by
  simp only [selectorEntries, List.mem_cons, forall_eq_or_imp, List.not_mem_nil, false_implies,
    implies_true, Body.ofArguments_agrees, and_true]
  exact Body.ofRun_agrees fun args => (listVariant_agree h _ _).bind fun _ => .pure _

theorem fieldEntries_agree : ∀ e ∈ fieldEntries, e.body.Agrees R c d := by
  simp only [fieldEntries, List.mem_cons, forall_eq_or_imp, List.not_mem_nil, false_implies,
    implies_true, Body.ofArguments_agrees, true_and, and_true]
  refine ⟨?_, ?_, ?_, ?_, ?_, ?_⟩
  · exact Body.ofRun_agrees fun args => (h.fieldImage _).bind fun _ => .pure _
  · obtain ⟨answers, cacheLookups, rfl⟩ := h.eq
    exact Body.ofContext_agrees fun _ => rfl
  · exact Body.ofRun_agrees fun args => (h.previewImage _).bind fun _ => .pure _
  · exact Body.ofRun_agrees fun args => (h.authors _).bind fun _ => .pure _
  · exact Body.ofRun_agrees fun args => (h.terms _).bind fun _ => .pure _
  · exact Body.ofRun_agrees fun args => (h.defaultTerms _ _ _).bind fun _ => .pure _

end

end Catalog

namespace Library

variable (h : c.Mirrors R d) (library : Library)
include h

/-- **Functions agree.** Every function of a library yields the same in two runs whose look-ups
agree. -/
theorem agrees_of_mem {e : Entry} (he : e ∈ library.entries) : e.body.Agrees R c d := by
  cases library with
  | general =>
      simp only [entries, List.mem_append] at he
      rcases he with (((he | he) | he) | he) | he
      · exact Catalog.constants_agree e he
      · exact Catalog.valueEntries_agree h e he
      · exact Catalog.lookupEntries_agree h e he
      · exact Catalog.partEntries_agree h e he
      · exact Catalog.selectorEntries_agree h e he
  | publishing =>
      rcases List.mem_append.mp he with he | he
      · exact Catalog.constants_agree e he
      · exact Catalog.fieldEntries_agree h e he

theorem agree_invoke (call : FunctionCall) :
    Agree R (library.invoke c call) (library.invoke d call) := by
  refine Agree.ite (fun _ => ?_) fun _ => .pure _
  cases he : library.find? call.name with
  | none => exact .pure _
  | some e =>
      have hbody := agrees_of_mem h library (List.mem_of_find?_eq_some he)
      refine Agree.ite (fun _ => .pure _) fun _ => (hbody _).bind fun result => ?_
      cases result <;> exact .pure _

end Library

end PageMigration
