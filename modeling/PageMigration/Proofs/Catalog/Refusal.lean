import PageMigration.Catalog.Library

/-!
# Functions that refuse

Only two functions of the libraries can fail for the sake of a rule: the one that embeds a
document refuses pages, and the one that plays media refuses a blank source.  Every other
function yields something in every run.

## Main definitions

* `Body.Succeeds` : a function that yields something for all arguments in all runs.
* `Refuses` : the calls that break a rule, with the rule.
* `Library.Miscounts` : the calls with a wrong number of inputs.

## Main results

* `Library.succeeds_or_of_mem` : the two functions that do not always succeed.
* `Library.invoke_of_miscounts`, `Library.invoke_of_not_miscounts` : how a call can fail.
-/

namespace PageMigration

/-! ### Functions that succeed -/

/-- A function that yields something for all arguments in all runs. -/
def Body.Succeeds (body : Body) : Prop :=
  ∀ ctx args s, ∃ output t, body ctx args s = (.ok output, t)

namespace Body

@[simp] theorem ofArguments_succeeds (f : Arguments → Output) : (ofArguments f).Succeeds :=
  fun _ args s => ⟨f args, s, rfl⟩

@[simp] theorem ofContext_succeeds (f : Context → Arguments → Output) : (ofContext f).Succeeds :=
  fun ctx args s => ⟨f ctx args, s, rfl⟩

@[simp] theorem ofRun_succeeds (f : Context → Arguments → Run Output) : (ofRun f).Succeeds :=
  fun ctx args s => ⟨(f ctx args s).1, (f ctx args s).2, rfl⟩

end Body

/-- An entry for one text that is carried out by a function which may refuse the text. -/
def Entry.Checks (e : Entry) (name : String)
    (f : Context → String → Run (Except PolicyViolation Output)) : Prop :=
  e.name = name ∧ e.arity = 1 ∧ e.body = fun ctx args => f ctx (args.text 0)

namespace Catalog

theorem constants_succeed : ∀ e ∈ constants, e.body.Succeeds := by
  simp only [constants, List.mem_cons, forall_eq_or_imp, List.not_mem_nil, false_implies,
    implies_true, Body.ofArguments_succeeds, and_self]

theorem valueEntries_succeed : ∀ e ∈ valueEntries, e.body.Succeeds := by
  simp only [valueEntries, List.mem_cons, forall_eq_or_imp, List.not_mem_nil, false_implies,
    implies_true, Body.ofArguments_succeeds, Body.ofContext_succeeds, and_self]

theorem partEntries_succeed : ∀ e ∈ partEntries, e.body.Succeeds := by
  simp only [partEntries, List.mem_cons, forall_eq_or_imp, List.not_mem_nil, false_implies,
    implies_true, Body.ofArguments_succeeds, Body.ofRun_succeeds, and_self]

theorem selectorEntries_succeed : ∀ e ∈ selectorEntries, e.body.Succeeds := by
  simp only [selectorEntries, List.mem_cons, forall_eq_or_imp, List.not_mem_nil, false_implies,
    implies_true, Body.ofArguments_succeeds, Body.ofRun_succeeds, and_self]

theorem fieldEntries_succeed : ∀ e ∈ fieldEntries, e.body.Succeeds := by
  simp only [fieldEntries, List.mem_cons, forall_eq_or_imp, List.not_mem_nil, false_implies,
    implies_true, Body.ofArguments_succeeds, Body.ofContext_succeeds, Body.ofRun_succeeds, and_self]

theorem lookupEntries_succeed_or : ∀ e ∈ lookupEntries, e.body.Succeeds ∨
    e.Checks "DocumentEmbedLookup" documentProperties ∨
    e.Checks "MediaLookup" mediaProperties := by
  simp only [lookupEntries, List.mem_cons, forall_eq_or_imp, List.not_mem_nil, false_implies,
    implies_true, Body.ofRun_succeeds, Entry.Checks, Entry.arity, List.length_cons, List.length_nil,
    Nat.zero_add, and_self, true_or, or_true]

variable {ctx : Context} {link : String} {v : PolicyViolation} {s t : RunState}

/-- A document is refused if it is a page, before anything is looked up. -/
theorem documentProperties_eq_error (h : documentProperties ctx link s = (.error v, t)) :
    t = s ∧ extensionOf? (Link.lookupPath link) = some "aspx" ∧ v = .pageNotAvailable link := by
  by_cases hp : Link.isPage link
  · simp only [documentProperties, hp, if_true] at h
    cases h
    exact ⟨rfl, by simpa [Link.isPage] using hp, rfl⟩
  · rcases hf : Run.linkedFile? ctx link s with ⟨file | file, u⟩ <;>
      simp [documentProperties, hp, Run.bind_of_eq hf] at h <;> cases h

/-- Media are refused if no source is given, before anything is looked up. -/
theorem mediaProperties_eq_error (h : mediaProperties ctx link s = (.error v, t)) :
    t = s ∧ Text.isBlank link ∧ v = .mediaSourceMissing "MediaWebPart" := by
  by_cases hb : Text.isBlank link
  · simp only [mediaProperties, hb, if_true] at h
    cases h
    exact ⟨rfl, hb, rfl⟩
  · rcases hf : fileProperties "Media" ctx link s with ⟨output, u⟩
    simp [mediaProperties, hb, Run.bind_of_eq hf] at h
    cases h

end Catalog

/-! ### Calls -/

/-- `Refuses library call v` says that the function of a call refuses its text by the rule `v`.
Only the general library has such functions. -/
inductive Refuses : Library → FunctionCall → PolicyViolation → Prop
  | page {call : FunctionCall} (ha : call.addOn = "") (hn : call.name = "DocumentEmbedLookup")
      (hl : call.inputs.length = 1)
      (hp : extensionOf? (Link.lookupPath ((Library.arguments call).text 0)) = some "aspx") :
      Refuses .general call (.pageNotAvailable ((Library.arguments call).text 0))
  | media {call : FunctionCall} (ha : call.addOn = "") (hn : call.name = "MediaLookup")
      (hl : call.inputs.length = 1) (hb : Text.isBlank ((Library.arguments call).text 0)) :
      Refuses .general call (.mediaSourceMissing "MediaWebPart")

namespace Library

/-- The calls whose number of inputs is not the one that their function takes. -/
def Miscounts (library : Library) (call : FunctionCall) : Prop :=
  call.addOn = "" ∧ ∃ e, library.find? call.name = some e ∧ e.arity ≠ 0 ∧
    call.inputs.length ≠ e.arity

theorem succeeds_or_of_mem {library : Library} {e : Entry} (h : e ∈ library.entries) :
    e.body.Succeeds ∨ library = .general ∧
      (e.Checks "DocumentEmbedLookup" Catalog.documentProperties ∨
        e.Checks "MediaLookup" Catalog.mediaProperties) := by
  cases library with
  | general =>
      simp only [entries, List.mem_append] at h
      rcases h with (((h | h) | h) | h) | h
      · exact Or.inl (Catalog.constants_succeed e h)
      · exact Or.inl (Catalog.valueEntries_succeed e h)
      · exact (Catalog.lookupEntries_succeed_or e h).imp_right fun h => ⟨rfl, h⟩
      · exact Or.inl (Catalog.partEntries_succeed e h)
      · exact Or.inl (Catalog.selectorEntries_succeed e h)
  | publishing =>
      rcases List.mem_append.mp h with h | h
      · exact Or.inl (Catalog.constants_succeed e h)
      · exact Or.inl (Catalog.fieldEntries_succeed e h)

variable {library : Library} {ctx : Context} {call : FunctionCall} {e : Entry} {s t : RunState}

theorem apply_of_miscount (hz : e.arity ≠ 0) (hl : call.inputs.length ≠ e.arity) :
    apply ctx e call s =
      (.error (.argumentCount call.name e.arity call.inputs.length), s) := by
  rw [apply, if_pos ⟨hz, hl⟩]
  rfl

theorem apply_of_body {result : Except PolicyViolation Output}
    (h : e.arity ≠ 0 → call.inputs.length = e.arity)
    (hb : e.body ctx (if e.arity = 0 then [] else arguments call) s = (result, t)) :
    apply ctx e call s = (result.mapError .policy, t) := by
  rw [apply, if_neg fun hc => hc.2 (h hc.1)]
  refine (Run.bind_of_eq hb).trans ?_
  cases result <;> rfl

theorem invoke_of_find? (ha : call.addOn = "") (he : library.find? call.name = some e) :
    library.invoke ctx call = apply ctx e call := by
  have hempty : call.addOn.isEmpty = true := by rw [ha]; rfl
  simp only [invoke, hempty, he, if_true]

/-- A function with parameters does to the values of a call what its body does to them. -/
theorem invoke_of_body {result : Except PolicyViolation Output} (ha : call.addOn = "")
    (he : library.find? call.name = some e) (hz : e.arity ≠ 0) (hl : call.inputs.length = e.arity)
    (hb : e.body ctx (arguments call) s = (result, t)) :
    library.invoke ctx call s = (result.mapError .policy, t) := by
  rw [← show (if e.arity = 0 then [] else arguments call) = arguments call from if_neg hz] at hb
  rw [invoke_of_find? ha he, apply_of_body (fun _ => hl) hb]

/-- A call with as many values as a function of the library has parameters. -/
theorem invoke_of_parameters {name : String} {n : Nat} {body : Body}
    (he : ∃ e, library.find? name = some e ∧ e.arity = n + 1 ∧ e.body = body)
    (haddOn : call.addOn = "") (hname : call.name = name) (hcount : call.inputs.length = n + 1)
    {result : Except PolicyViolation Output} (hbody : body ctx (arguments call) s = (result, t)) :
    library.invoke ctx call s = (result.mapError .policy, t) := by
  obtain ⟨e, he, harity, rfl⟩ := he
  refine invoke_of_body haddOn (hname ▸ he) ?_ (hcount.trans harity.symm) hbody
  rw [harity]
  exact Nat.succ_ne_zero n

/-- A call with a wrong number of inputs fails before its function is run. -/
theorem invoke_of_miscounts (ctx : Context) (s : RunState) (h : library.Miscounts call) :
    ∃ n, library.invoke ctx call s =
      (.error (.argumentCount call.name n call.inputs.length), s) := by
  obtain ⟨ha, e, he, hz, hl⟩ := h
  exact ⟨e.arity, by rw [invoke_of_find? ha he, apply_of_miscount hz hl]⟩

/-- A function that may refuse a text refuses it before anything is looked up. -/
theorem refuses_of_checks {v : PolicyViolation} (ha : call.addOn = "")
    (hn : e.name = call.name) (hl : e.arity ≠ 0 → call.inputs.length = e.arity)
    (hc : e.Checks "DocumentEmbedLookup" Catalog.documentProperties ∨
      e.Checks "MediaLookup" Catalog.mediaProperties)
    (hb : e.body ctx (if e.arity = 0 then [] else arguments call) s = (.error v, t)) :
    t = s ∧ Refuses .general call v := by
  rcases hc with ⟨hname, harity, hbody⟩ | ⟨hname, harity, hbody⟩
  · rw [hbody, harity] at hb
    obtain ⟨rfl, hp, rfl⟩ := Catalog.documentProperties_eq_error hb
    exact ⟨rfl, .page ha (hn ▸ hname) (by simp [hl, harity]) hp⟩
  · rw [hbody, harity] at hb
    obtain ⟨rfl, hp, rfl⟩ := Catalog.mediaProperties_eq_error hb
    exact ⟨rfl, .media ha (hn ▸ hname) (by simp [hl, harity]) hp⟩

/-- A call with the right number of inputs yields something, unless it breaks a rule. -/
theorem invoke_of_not_miscounts (ctx : Context) (s : RunState) (h : ¬ library.Miscounts call) :
    (∃ output t, library.invoke ctx call s = (.ok output, t)) ∨
      ∃ v, library.invoke ctx call s = (.error (.policy v), s) ∧ Refuses library call v := by
  by_cases ha : call.addOn = ""
  · cases he : library.find? call.name with
    | none => exact Or.inl ⟨.nothing, s, by simp only [invoke, ha, he]; rfl⟩
    | some e =>
        have hl : e.arity ≠ 0 → call.inputs.length = e.arity := fun hz =>
          Classical.byContradiction fun hl => h ⟨ha, e, he, hz, hl⟩
        rcases hb : e.body ctx (if e.arity = 0 then [] else arguments call) s with
          ⟨v | output, t⟩
        · rcases succeeds_or_of_mem (List.mem_of_find?_eq_some he) with hs | ⟨rfl, hc⟩
          · obtain ⟨output, u, hs⟩ := hs ctx (if e.arity = 0 then [] else arguments call) s
            cases hs.symm.trans hb
          · have hname : e.name = call.name := by simpa using List.find?_some he
            obtain ⟨rfl, hv⟩ := refuses_of_checks ha hname hl hc hb
            exact Or.inr ⟨v, by rw [invoke_of_find? ha he, apply_of_body hl hb]; rfl, hv⟩
        · exact Or.inl ⟨output, t, by rw [invoke_of_find? ha he, apply_of_body hl hb]; rfl⟩
  · have hne : call.addOn.isEmpty = false := by simpa [String.isEmpty_iff] using ha
    exact Or.inl ⟨.nothing, s, by simp only [invoke, hne]; rfl⟩

end Library

end PageMigration
