import PageMigration.Proofs.Transform.Failure
import PageMigration.Transform.Field

/-!
# What the chain of a field reports

The functions of page fields yield texts, and none of them refuses anything.  So the chain of a
field never fails, but it ends at the first expression that is no call or has a wrong number of
inputs.  Each text is stored before the next expression is read, and the last one is reported.

## Main definitions

* `Body.YieldsText` : a function that yields a text in every run.
* `ContentUnit.fieldScope` : what the expressions of a field are bound against.
* `ContentUnit.carriedOut` : the calls of a chain up to its end or to its first fault.
* `ContentUnit.Reports` : what it is for a unit to hold what is reported, and to change no other
  property.

## Main results

* `Library.yieldsText_of_mem` : the functions of page fields yield texts.
* `ContentUnit.Reports.store` : what one stored text changes.
* `ContentUnit.processField_reports` : the chain of a field reports what it leaves in the unit.
-/

namespace PageMigration

/-! ### Functions that yield texts -/

/-- A function that yields a text for all arguments in all runs. -/
def Body.YieldsText (body : Body) : Prop :=
  ∀ ctx args s, ∃ value t, body ctx args s = (.ok (.text value), t)

namespace Body

@[simp] theorem ofArguments_yieldsText (f : Arguments → String) :
    (ofArguments fun args => .text (f args)).YieldsText :=
  fun _ args s => ⟨f args, s, rfl⟩

@[simp] theorem ofContext_yieldsText (f : Context → Arguments → String) :
    (ofContext fun ctx args => .text (f ctx args)).YieldsText :=
  fun ctx args s => ⟨f ctx args, s, rfl⟩

@[simp] theorem ofRun_yieldsText (f : Context → Arguments → Run String) :
    (ofRun fun ctx args => return .text (← f ctx args)).YieldsText :=
  fun ctx args s => ⟨(f ctx args s).1, (f ctx args s).2, rfl⟩

end Body

theorem Catalog.constants_yieldText : ∀ e ∈ constants, e.body.YieldsText := by
  simp only [constants, List.mem_cons, forall_eq_or_imp, List.not_mem_nil, false_implies,
    implies_true, Body.ofArguments_yieldsText, and_self]

theorem Catalog.fieldEntries_yieldText : ∀ e ∈ fieldEntries, e.body.YieldsText := by
  simp only [fieldEntries, List.mem_cons, forall_eq_or_imp, List.not_mem_nil, false_implies,
    implies_true, Body.ofArguments_yieldsText, Body.ofContext_yieldsText, Body.ofRun_yieldsText,
    and_self]

/-- The functions of page fields yield texts. -/
theorem Library.yieldsText_of_mem {e : Entry} (h : e ∈ Library.publishing.entries) :
    e.body.YieldsText := by
  rcases List.mem_append.mp h with h | h
  · exact Catalog.constants_yieldText e h
  · exact Catalog.fieldEntries_yieldText e h

section Evaluate

variable {ctx : Context} {scope : Scope} {expression : String} {s t : RunState}

/-- A call for a field yields a text, unless no function has its name. -/
theorem Library.output_of_invoke_publishing {call : FunctionCall} {output : Output}
    (h : Library.publishing.invoke ctx call s = (.ok output, t)) :
    output = .nothing ∨ ∃ value, output = .text value := by
  by_cases ha : call.addOn = ""
  · cases he : Library.publishing.find? call.name with
    | none =>
        simp only [invoke, ha, he] at h
        cases h
        exact Or.inl rfl
    | some e =>
        rw [invoke_of_find? ha he] at h
        by_cases hl : e.arity ≠ 0 → call.inputs.length = e.arity
        · obtain ⟨value, u, hbody⟩ := yieldsText_of_mem (List.mem_of_find?_eq_some he) ctx
            (if e.arity = 0 then [] else arguments call) s
          cases (apply_of_body hl hbody).symm.trans h
          exact Or.inr ⟨value, rfl⟩
        · obtain ⟨hz, hl⟩ := Classical.not_imp.mp hl
          cases (apply_of_miscount hz hl).symm.trans h
  · have hne : call.addOn.isEmpty = false := by simpa [String.isEmpty_iff] using ha
    simp only [invoke, hne] at h
    cases h
    exact Or.inl rfl

theorem output_of_evaluate_publishing {call : FunctionCall} {output : Output}
    (h : evaluate .publishing ctx scope expression s = (.ok (call, output), t)) :
    output = .nothing ∨ ∃ value, output = .text value := by
  cases hp : parseCall scope expression with
  | error e =>
      rw [evaluate, hp] at h
      cases h
  | ok call' =>
      rw [evaluate_of_parseCall_eq_ok hp] at h
      rcases hi : Library.publishing.invoke ctx call' s with ⟨error | output', u⟩ <;> rw [hi] at h
      · cases h
      · cases h
        exact Library.output_of_invoke_publishing hi

/-- An expression of a field fails for the sake of its chain alone. -/
theorem isChainLocal_of_evaluate_publishing {e : CallError}
    (h : evaluate .publishing ctx scope expression s = (.error e, t)) : e.isChainLocal := by
  obtain ⟨-, ⟨hlocal, -⟩ | ⟨-, call, v, -, hrefuses, -⟩⟩ := evaluate_eq_error h
  · exact hlocal
  · cases hrefuses

end Evaluate

/-! ### Chains of fields -/

namespace ContentUnit

/-- What the expressions of a field are bound against. -/
def fieldScope (unit : ContentUnit) (field : String) : Scope :=
  { property := some field, declared := unit.declaredProperties, unit }

/-- The calls that are carried out for a field, up to the first expression that is no call or has a
wrong number of inputs. -/
def carriedOut (ctx : Context) (field : String) :
    List String → ContentUnit → RunState → List FunctionCall
  | [], _, _ => []
  | expression :: rest, unit, s =>
      match evaluate .publishing ctx (unit.fieldScope field) expression s with
      | (.ok (call, output), t) =>
          call :: carriedOut ctx field rest (unit.merge call.output output).1 t
      | (.error _, _) => []

/-- `Reports before after calls last` says that a unit holds the value that is reported for some
calls, that it is as before if none is reported, and that no property has changed but those that the
calls are for. -/
structure Reports (before after : ContentUnit) (calls : List FunctionCall)
    (last : Option (String × String)) : Prop where
  value : ∀ name value, last = some (name, value) → after.properties.get? name = some value
  unchanged : last = none → after = before
  others : ∀ entry : String × String,
    (∀ call ∈ calls, Text.sameName entry.1 call.output = false) →
      ∀ i : Nat, after.properties.entries[i]? = some entry ↔
        before.properties.entries[i]? = some entry
  lookups : ∀ name, (∀ call ∈ calls, Text.sameName name call.output = false) →
    after.properties.get? name = before.properties.get? name

namespace Reports

variable {before unit : ContentUnit} {calls : List FunctionCall} {last : Option (String × String)}

theorem refl (unit : ContentUnit) : Reports unit unit [] none where
  value _ _ h := by cases h
  unchanged _ := rfl
  others _ _ _ := Iff.rfl
  lookups _ _ := rfl

/-- A call that yields nothing changes nothing. -/
theorem skip (h : Reports before unit calls last) (call : FunctionCall) :
    Reports before unit (calls ++ [call]) last where
  value := h.value
  unchanged := h.unchanged
  others entry hentry := h.others entry fun c hc => hentry c (List.mem_append_left _ hc)
  lookups name hname := h.lookups name fun c hc => hname c (List.mem_append_left _ hc)

/-- A call that yields a text changes its own property, and the text is reported. -/
theorem store (h : Reports before unit calls last) (call : FunctionCall) (value : String) :
    Reports before (unit.store call.output value) (calls ++ [call])
      (some (call.output, value)) where
  value name value hlast := by
    cases hlast
    exact PropertyBag.get?_set_self _ _ _
  unchanged hlast := by cases hlast
  others entry hentry i := by
    have hcall := hentry call (List.mem_append_right _ List.mem_cons_self)
    have hcalls := h.others entry fun c hc => hentry c (List.mem_append_left _ hc)
    exact (PropertyBag.getElem?_set_iff hcall).trans (hcalls i)
  lookups name hname := by
    have hcall := hname call (List.mem_append_right _ List.mem_cons_self)
    rw [Text.sameName_comm] at hcall
    have hcalls := h.lookups name fun c hc => hname c (List.mem_append_left _ hc)
    exact (PropertyBag.get?_set_of_not_sameName hcall).trans hcalls

/-- The expressions of a field report what they leave in the unit. -/
theorem runFieldExpressions (h : Reports before unit calls last) (ctx : Context) (field : String)
    (xs : List String) (s : RunState) :
    ∃ after last' t, unit.runFieldExpressions ctx field last xs s = ((after, .ok last'), t) ∧
      Reports before after (calls ++ carriedOut ctx field xs unit s) last' := by
  induction xs generalizing unit calls last s with
  | nil =>
      refine ⟨unit, last, s, rfl, ?_⟩
      rw [carriedOut, List.append_nil]
      exact h
  | cons x rest ih =>
      rcases hx : evaluate .publishing ctx (unit.fieldScope field) x s with
        ⟨error | ⟨call, output⟩, t⟩
      · refine ⟨unit, last, t, ?_, ?_⟩
        · rw [runFieldExpressions_cons_of_error hx, isChainLocal_of_evaluate_publishing hx]
          rfl
        · simp only [carriedOut, hx, List.append_nil]
          exact h
      · have hmerged : Reports before (unit.merge call.output output).1 (calls ++ [call])
            ((unit.merge call.output output).2.or last) := by
          rcases output_of_evaluate_publishing hx with rfl | ⟨value, rfl⟩
          · exact h.skip call
          · exact h.store call value
        obtain ⟨after, last', u, hrun, hreports⟩ := ih hmerged t
        refine ⟨after, last', u, (runFieldExpressions_cons_of_ok hx).trans hrun, ?_⟩
        simp only [carriedOut, hx]
        rwa [List.append_cons]

end Reports

/-- **The result of a field.** The chain of a field never fails.  If it reports a name and a value,
the unit has this value for the name.  If it reports none, the unit is as it was.  A property whose
name is not that of any call that is carried out stays as it was, in any case. -/
theorem processField_reports (ctx : Context) (field functions : String) (unit : ContentUnit)
    (s : RunState) :
    ∃ after last t, unit.processField ctx field functions s = ((after, .ok last), t) ∧
      Reports unit after (carriedOut ctx field (Expression.splitChain functions) unit s) last :=
  (Reports.refl unit).runFieldExpressions ctx field _ s

end ContentUnit

end PageMigration
