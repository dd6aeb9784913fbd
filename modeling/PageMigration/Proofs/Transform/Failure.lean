import PageMigration.Proofs.Catalog.Refusal
import PageMigration.Proofs.Expression.Binding
import PageMigration.Proofs.Transform.Growth

/-!
# How the transformation of a part fails

An expression is skipped if it is no call or has a wrong number of inputs.  It then changes
nothing, and since a part only gains names, an expression that has been run once is never skipped
later.  Nothing but a broken rule, or a selector that yields several values, makes the whole
transformation fail.

## Main definitions

* `Runnable` : the expressions that are not skipped.
* `WebPartDefinition.HasExpression` : the expressions of a definition.
* `Part.Fatal` : the failures of a whole transformation.

## Main results

* `evaluate_of_not_runnable`, `evaluate_of_runnable` : what comes of an expression.
* `Part.Reaches.runnable` : an expression that can be run can be run later.
* `Part.fatal_of_process_eq_error` : a transformation fails for these causes only.
-/

namespace PageMigration

variable {library : Library} {ctx : Context}

/-! ### Single expressions -/

/-- The expressions that are calls with a right number of inputs. -/
def Runnable (library : Library) (scope : Scope) (expression : String) : Prop :=
  ∃ call, parseCall scope expression = .ok call ∧ ¬ library.Miscounts call

section Evaluate

variable {scope : Scope} {expression : String} {s : RunState}

theorem evaluate_of_parseCall_eq_ok {call : FunctionCall}
    (h : parseCall scope expression = .ok call) :
    evaluate library ctx scope expression s =
      match library.invoke ctx call s with
      | (result, t) => (result.map fun output => (call, output), t) := by
  rcases hi : library.invoke ctx call s with ⟨result, t⟩
  rw [evaluate, h]
  refine (Run.bind_of_eq hi).trans ?_
  cases result <;> rfl

/-- All expressions come to the same in scopes that bind names to the same inputs. -/
theorem evaluate_congr {scope' : Scope} (hp : scope'.property = scope.property)
    (hu : scope'.unit = scope.unit) (hb : Expression.bind? scope' = Expression.bind? scope) :
    evaluate library ctx scope' expression = evaluate library ctx scope expression := by
  rw [evaluate, parseCall_congr hp hu hb, evaluate]

/-- An expression that is skipped changes nothing. -/
theorem evaluate_of_not_runnable (ctx : Context) (s : RunState)
    (h : ¬ Runnable library scope expression) :
    ∃ e, evaluate library ctx scope expression s = (.error e, s) ∧ e.isChainLocal = true := by
  cases hp : parseCall scope expression with
  | error error => exact ⟨.parse error, by rw [evaluate, hp]; rfl, rfl⟩
  | ok call =>
      have hm : library.Miscounts call := Classical.byContradiction fun hm => h ⟨call, hp, hm⟩
      obtain ⟨n, hi⟩ := Library.invoke_of_miscounts ctx s hm
      refine ⟨.argumentCount call.name n call.inputs.length, ?_, rfl⟩
      rw [evaluate_of_parseCall_eq_ok hp, hi]
      rfl

/-- Any other expression yields something, unless it breaks a rule. -/
theorem evaluate_of_runnable (ctx : Context) (s : RunState)
    (h : Runnable library scope expression) :
    ∃ call, parseCall scope expression = .ok call ∧
      ((∃ output t, library.invoke ctx call s = (.ok output, t) ∧
        evaluate library ctx scope expression s = (.ok (call, output), t)) ∨
      ∃ v, evaluate library ctx scope expression s = (.error (.policy v), s) ∧
        Refuses library call v) := by
  obtain ⟨call, hp, hm⟩ := h
  refine ⟨call, hp, ?_⟩
  rw [evaluate_of_parseCall_eq_ok hp]
  rcases Library.invoke_of_not_miscounts ctx s hm with
    ⟨output, t, hi⟩ | ⟨v, hi, hv⟩
  · exact Or.inl ⟨output, t, hi, by rw [hi]; rfl⟩
  · exact Or.inr ⟨v, by rw [hi]; rfl, hv⟩

/-- The expressions that can be run are those that do not fail for the sake of the chain. -/
theorem runnable_of_evaluate_eq_ok {x : FunctionCall × Output} {t : RunState}
    (h : evaluate library ctx scope expression s = (.ok x, t)) :
    Runnable library scope expression := by
  refine Classical.byContradiction fun hn => ?_
  obtain ⟨e, he, -⟩ := evaluate_of_not_runnable ctx s hn
  cases he.symm.trans h

/-- A failure stops the chain alone if the expression cannot be run; any other one is a
refusal. -/
theorem evaluate_eq_error {e : CallError} {t : RunState}
    (h : evaluate library ctx scope expression s = (.error e, t)) :
    t = s ∧ (e.isChainLocal = true ∧ ¬ Runnable library scope expression ∨
      e.isChainLocal = false ∧ ∃ call v, parseCall scope expression = .ok call ∧
        Refuses library call v ∧ e = .policy v) := by
  by_cases hr : Runnable library scope expression
  · obtain ⟨call, hp, ⟨output, u, -, hu⟩ | ⟨v, hv, href⟩⟩ :=
      evaluate_of_runnable ctx s hr
    · cases hu.symm.trans h
    · cases hv.symm.trans h
      exact ⟨rfl, Or.inr ⟨rfl, call, v, hp, href, rfl⟩⟩
  · obtain ⟨e', he', hlocal⟩ := evaluate_of_not_runnable ctx s hr
    cases he'.symm.trans h
    exact ⟨rfl, Or.inl ⟨hlocal, hr⟩⟩

theorem Runnable.of_covers {scope' : Scope} (h : Runnable library scope expression)
    (hc : scope'.Covers scope) : Runnable library scope' expression := by
  obtain ⟨call, hp, hm⟩ := h
  obtain ⟨call', hp', ha, hn, hl⟩ := exists_parseCall_of_covers hc hp
  refine ⟨call', hp', fun hm' => hm ?_⟩
  simpa only [Library.Miscounts, ha, hn, hl] using hm'

end Evaluate

namespace Part

/-- A part binds all names that it has bound before. -/
theorem Reaches.covers {p q : Part} (h : p.Reaches q) (property : Option String) :
    (q.scope property).Covers (p.scope property) where
  property := rfl
  binds name hb := by
    rw [Expression.bind?_isSome_iff] at hb ⊢
    simp only [scope] at hb ⊢
    rw [h.grows.unitKind]
    refine hb.imp_left fun hb => ?_
    obtain ⟨d, hd, hs⟩ := findProperty?_isSome_iff.mp hb
    obtain ⟨made, hq, -⟩ := h.properties
    exact findProperty?_isSome_iff.mpr ⟨d, by simp [hq, hd], hs⟩

/-- An expression that can be run can be run later. -/
theorem Reaches.runnable {p q : Part} (h : p.Reaches q) {property : Option String}
    {expression : String} (hr : Runnable library (p.scope property) expression) :
    Runnable library (q.scope property) expression :=
  hr.of_covers (h.covers property)

end Part

/-! ### Whole transformations -/

/-- `d.HasExpression property expression` says that the expression is in a chain of the property
or, without a property, that it is the selector. -/
inductive WebPartDefinition.HasExpression (d : WebPartDefinition) : Option String → String → Prop
  | chain {property : PropertyDefinition} {chain expression : String}
      (hp : property ∈ d.properties) (hc : property.chain? = some chain)
      (he : expression ∈ Expression.splitChain chain) :
      d.HasExpression (some property.name) expression
  | selector {expression : String} (hs : d.selector? = some expression) :
      d.HasExpression none expression

namespace Part

/-- `p.Fatal library ctx q e` says that `e` is a failure of the transformation of `p` as a whole,
which has made `q` of it: a refusal by an expression of `p`, or a selector with several values. -/
inductive Fatal (library : Library) (ctx : Context) (p q : Part) : CallError → Prop
  | refusal {property : Option String} {expression : String} {call : FunctionCall}
      {v : PolicyViolation} (he : p.definition.HasExpression property expression)
      (hp : parseCall (q.scope property) expression = .ok call) (hv : Refuses library call v) :
      Fatal library ctx p q (.policy v)
  | values {selector : String} {call : FunctionCall} {values : List (String × String)}
      {s t : RunState} (hs : p.definition.selector? = some selector)
      (hp : parseCall (q.scope none) selector = .ok call)
      (hi : library.invoke ctx call s = (.ok (.map values), t)) :
      Fatal library ctx p q (.nonScalarSelector call.name)

variable {p q : Part} {s t : RunState} {e : CallError}

theorem Reaches.selector? (h : p.Reaches q) : q.definition.selector? = p.definition.selector? := by
  rw [WebPartDefinition.selector?, h.grows.mappings, WebPartDefinition.selector?]

/-- A chain fails as a whole at an expression that breaks a rule. -/
theorem exists_refuses_of_runExpressions {property : Option String} {xs : List String}
    (h : runExpressions library ctx property xs p s = ((q, .error e), t)) :
    ∃ expression ∈ xs, ∃ call v, parseCall (q.scope property) expression = .ok call ∧
      Refuses library call v ∧ e = .policy v := by
  induction xs generalizing p s with
  | nil => cases h
  | cons x rest ih =>
      rcases hx : evaluate library ctx (p.scope property) x s with ⟨e' | ⟨call, output⟩, u⟩
      · rw [runExpressions_cons_of_error hx] at h
        obtain ⟨-, ⟨hlocal, -⟩ | ⟨hlocal, call, v, hp, hv, rfl⟩⟩ := evaluate_eq_error hx
        · rw [hlocal] at h
          cases h
        · rw [hlocal] at h
          cases h
          exact ⟨x, List.mem_cons_self, call, v, hp, hv, rfl⟩
      · rw [runExpressions_cons_of_ok hx] at h
        obtain ⟨expression, hmem, hrest⟩ := ih h
        exact ⟨expression, List.mem_cons_of_mem x hmem, hrest⟩

theorem fatal_of_runProperties_eq_error
    (h : runProperties library ctx 0 p s = ((q, .error e), t)) : p.Fatal library ctx q e := by
  obtain ⟨r, u, d, chain, -, hd, hc, hr⟩ := exists_runChain_eq_error h
  obtain ⟨expression, hmem, call, v, hp, hv, rfl⟩ := exists_refuses_of_runExpressions hr
  exact .refusal (.chain hd hc hmem) hp hv

/-! ### Selectors -/

section Selector

variable {selector : String}

theorem runSelector_of_error (h : evaluate library ctx (p.scope none) selector s = (.error e, t)) :
    runSelector library ctx selector p s =
      (if e.isChainLocal then
          .ok (none, some { property := none, expression := selector, error := e })
        else .error e, t) :=
  Run.bind_of_eq h

theorem runSelector_of_ok {call : FunctionCall} {output : Output}
    (h : evaluate library ctx (p.scope none) selector s = (.ok (call, output), t)) :
    runSelector library ctx selector p s =
      (match output with
        | .map _ => .error (.nonScalarSelector call.name)
        | output => .ok (output.scalar?, none), t) := by
  refine (Run.bind_of_eq h).trans ?_
  cases output <;> rfl

/-- A selector fails if it breaks a rule or yields several values. -/
theorem fatal_of_runSelector_eq_error (hs : p.definition.selector? = some selector)
    (h : runSelector library ctx selector q s = (.error e, t)) : p.Fatal library ctx q e := by
  rcases hx : evaluate library ctx (q.scope none) selector s with ⟨e' | ⟨call, output⟩, u⟩
  · rw [runSelector_of_error hx] at h
    obtain ⟨-, ⟨hlocal, -⟩ | ⟨hlocal, call, v, hp, hv, rfl⟩⟩ := evaluate_eq_error hx
    · rw [hlocal] at h
      cases h
    · rw [hlocal] at h
      cases h
      exact .refusal (.selector hs) hp hv
  · obtain ⟨call', hp, ⟨output', u', hi, hu⟩ | ⟨v, hv, -⟩⟩ :=
      evaluate_of_runnable ctx s (runnable_of_evaluate_eq_ok hx)
    · cases hu.symm.trans hx
      rw [runSelector_of_ok hx] at h
      cases output with
      | map values =>
          cases h
          exact .values hs hp hi
      | text value => cases h
      | bool value => cases h
      | nothing => cases h
    · cases hv.symm.trans hx

/-- A selector that is skipped gives no value. -/
theorem runSelector_eq_some {value : Option String} {skip : Skipped}
    (h : runSelector library ctx selector p s = (.ok (value, some skip), t)) :
    value = none ∧ skip.property = none ∧ skip.expression = selector ∧
      skip.error.isChainLocal = true := by
  rcases hx : evaluate library ctx (p.scope none) selector s with ⟨e | ⟨call, output⟩, u⟩
  · rw [runSelector_of_error hx] at h
    obtain ⟨-, ⟨hlocal, -⟩ | ⟨hlocal, -⟩⟩ := evaluate_eq_error hx
    · rw [hlocal] at h
      cases h
      exact ⟨rfl, rfl, rfl, hlocal⟩
    · rw [hlocal] at h
      cases h
  · rw [runSelector_of_ok hx] at h
    cases output <;> cases h

end Selector

/-- **Failures of a transformation.** The transformation of a part fails only if an expression
breaks a rule or the selector yields several values. -/
theorem fatal_of_process_eq_error (h : p.process library ctx s = ((q, .error e), t)) :
    p.Fatal library ctx q e := by
  rcases hr : runProperties library ctx 0 p s with ⟨⟨r, e' | skipped⟩, u⟩
  · rw [process_of_error hr] at h
    cases h
    exact fatal_of_runProperties_eq_error hr
  · have hreach := reaches_of_runProperties hr
    cases hs : r.definition.selector? with
    | none =>
        rw [process_of_no_selector hr hs] at h
        cases h
    | some selector =>
        rcases hsel : runSelector library ctx selector r u with ⟨e' | ⟨value, more⟩, u'⟩
        · rw [process_of_selector hr hs hsel] at h
          cases h
          exact fatal_of_runSelector_eq_error (hreach.selector?.symm.trans hs) hsel
        · rw [process_of_selector hr hs hsel] at h
          cases h

end Part

end PageMigration
