import Mathlib.Data.List.Basic
import PageMigration.Proofs.Transform.ChainSequence
import PageMigration.Proofs.Transform.DeclaredTypes
import PageMigration.Site.Snapshot

/-!
# What is skipped of loosely typed parts

A loosely typed unit binds every name.  Whether an expression can be read and has the right number
of inputs is then a matter of its text and of the library alone, and so is what it is skipped for.
So the expressions that are skipped in a transformation can be told from the definition, whatever
the unit holds and whatever is looked up on the way.

## Main definitions

* `Library.fault?` : what an expression is skipped for.
* `WebPartDefinition.faults` : what is skipped of a definition.

## Main results

* `skipError?_evaluate` : an expression is skipped for its fault and not without one.
* `Part.skipped_eq_faults` : what a transformation skips are the faults of the definition.
* `Part.skipped_of_loose` : two transformations with one definition skip the same.
-/

namespace PageMigration

open Expression

/-! ### Reading in loosely typed units -/

/-- The add-on, the name and the number of inputs of a call. -/
def FunctionCall.outline (call : FunctionCall) : String × String × Nat :=
  (call.addOn, call.name, call.inputs.length)

/-- A scope of a loosely typed unit in which nothing is declared. -/
def Scope.loose : Scope where
  declared := []
  unit := { typeName := "", kind := .clientSide }

namespace Expression

/-- A loosely typed unit binds all arguments. -/
theorem exists_bindArguments_of_loose {scope : Scope} (h : scope.unit.kind.isLooselyTyped)
    (bodies : List (List Char)) (k offset : Nat) (args : List (List Char)) :
    ∃ inputs, bindArguments scope bodies k offset args = .ok inputs ∧
      inputs.length = args.length := by
  refine exists_bindArguments_eq_ok bodies (fun raw _ name _ => ?_) k offset
  rw [bind?_of_loose h]
  rfl

/-- The text of a call does not depend on the scope. -/
theorem outputAndCall_snd (scope scope' : Scope) (text : List Char) :
    (outputAndCall scope text).2 = (outputAndCall scope' text).2 := by
  simp only [outputAndCall]
  cases Chars.cut? '=' text <;> rfl

end Expression

/-- **Reading for loosely typed units.** All loosely typed units read an expression as a call of the
same function with as many inputs, or find the same error in it. -/
theorem map_outline_parseCall {scope scope' : Scope} (h : scope.unit.kind.isLooselyTyped)
    (h' : scope'.unit.kind.isLooselyTyped) (expression : String) :
    (parseCall scope expression).map FunctionCall.outline =
      (parseCall scope' expression).map FunctionCall.outline := by
  have hsnd := outputAndCall_snd scope scope'
    (protectedText (segments (Chars.trim expression.toList)))
  simp only [parseCall]
  rcases hcall : outputAndCall scope
    (protectedText (segments (Chars.trim expression.toList))) with ⟨output, text, offset⟩
  rcases hcall' : outputAndCall scope'
    (protectedText (segments (Chars.trim expression.toList))) with ⟨output', text', offset'⟩
  rw [hcall, hcall'] at hsnd
  obtain ⟨rfl, rfl⟩ := Prod.mk.inj hsnd
  dsimp only
  cases Chars.cut? '(' text with
  | none => rfl
  | some sides =>
      obtain ⟨beforeOpen, afterOpen⟩ := sides
      dsimp only
      by_cases hname : (addOnAndName (Chars.trim beforeOpen)).2.isEmpty
      · rw [if_pos hname, if_pos hname]
      · obtain ⟨inputs, hinputs, hlength⟩ := exists_bindArguments_of_loose h
          (literals (segments (Chars.trim expression.toList))) 0
          (offset + Chars.byteLength beforeOpen + 1) (argumentPieces afterOpen)
        obtain ⟨inputs', hinputs', hlength'⟩ := exists_bindArguments_of_loose h'
          (literals (segments (Chars.trim expression.toList))) 0
          (offset + Chars.byteLength beforeOpen + 1) (argumentPieces afterOpen)
        rw [if_neg hname, if_neg hname, hinputs, hinputs']
        simp [Except.map, FunctionCall.outline, hlength, hlength']

/-! ### Faults of expressions -/

namespace Library

variable (library : Library)

/-- The failure of a call with the wrong number of inputs. -/
def miscount? (call : FunctionCall) : Option CallError :=
  if call.addOn.isEmpty then
    (library.find? call.name).bind fun e =>
      if e.arity ≠ 0 ∧ call.inputs.length ≠ e.arity then
        some (.argumentCount call.name e.arity call.inputs.length)
      else none
  else none

/-- What an expression is skipped for in loosely typed parts, if it is skipped. -/
def fault? (expression : String) : Option CallError :=
  match parseCall .loose expression with
  | .error e => some (.parse e)
  | .ok call => library.miscount? call

/-- The first of expressions that is skipped in loosely typed parts, if one is. -/
def firstFault? (property : Option String) (expressions : List String) : Option Skipped :=
  expressions.findSome? fun expression =>
    (library.fault? expression).map fun error => { property, expression, error }

variable {call call' : FunctionCall}

theorem miscount?_congr (h : call.outline = call'.outline) :
    library.miscount? call = library.miscount? call' := by
  obtain ⟨haddOn, hrest⟩ := Prod.mk.inj h
  obtain ⟨hname, hlength⟩ := Prod.mk.inj hrest
  rw [miscount?, haddOn, hname, hlength, miscount?]

variable {library}

theorem not_miscounts_of_miscount? (h : library.miscount? call = none) :
    ¬ library.Miscounts call := by
  rintro ⟨haddOn, e, he, hz, hl⟩
  simp [miscount?, haddOn, he, hz, hl] at h

theorem invoke_of_miscount? (ctx : Context) (s : RunState) {error : CallError}
    (h : library.miscount? call = some error) :
    library.invoke ctx call s = (.error error, s) ∧ error.isChainLocal = true := by
  rw [miscount?] at h
  split at h
  · next haddOn =>
      obtain ⟨e, he, h⟩ := Option.bind_eq_some_iff.mp h
      split at h
      · next hcount =>
          obtain rfl := Option.some.inj h
          rw [invoke_of_find? (String.isEmpty_iff.mp haddOn) he,
            apply_of_miscount hcount.1 hcount.2]
          exact ⟨rfl, rfl⟩
      · cases h
  · cases h

end Library

/-- The failure that stops a chain alone, if a result is one. -/
def skipError? {α : Type} : Except CallError α → Option CallError
  | .ok _ => none
  | .error e => if e.isChainLocal then some e else none

variable {library : Library} {ctx : Context}

/-- **Faults.** In a loosely typed part an expression is skipped for its fault, and not at all if it
has none. -/
theorem skipError?_evaluate (ctx : Context) {scope : Scope}
    (h : scope.unit.kind.isLooselyTyped) (expression : String) (s : RunState) :
    skipError? (evaluate library ctx scope expression s).1 = library.fault? expression := by
  have hloose : Scope.loose.unit.kind.isLooselyTyped := rfl
  have houtline := map_outline_parseCall h hloose expression
  rw [Library.fault?]
  cases hp : parseCall scope expression with
  | error e =>
      rw [hp] at houtline
      cases hp' : parseCall .loose expression with
      | error e' =>
          rw [hp'] at houtline
          cases houtline
          rw [evaluate, hp]
          rfl
      | ok call' =>
          rw [hp'] at houtline
          cases houtline
  | ok call =>
      rw [hp] at houtline
      cases hp' : parseCall .loose expression with
      | error e' =>
          rw [hp'] at houtline
          cases houtline
      | ok call' =>
          rw [hp'] at houtline
          have hcall := Library.miscount?_congr library (Except.ok.inj houtline)
          rw [evaluate_of_parseCall_eq_ok hp]
          dsimp only
          cases hm : library.miscount? call with
          | some error =>
              obtain ⟨hi, hlocal⟩ := Library.invoke_of_miscount? ctx s hm
              rw [hi, ← hcall, hm]
              simp [skipError?, Except.map, hlocal]
          | none =>
              rw [← hcall, hm]
              rcases Library.invoke_of_not_miscounts ctx s
                (Library.not_miscounts_of_miscount? hm) with ⟨output, t, hi⟩ | ⟨v, hi, -⟩
              · rw [hi]
                rfl
              · rw [hi]
                rfl

/-- What stops a chain alone is the fault of its expression. -/
theorem fault?_of_error {scope : Scope} (h : scope.unit.kind.isLooselyTyped) {expression : String}
    {s t : RunState} {e : CallError}
    (he : evaluate library ctx scope expression s = (.error e, t))
    (hlocal : e.isChainLocal = true) : library.fault? expression = some e := by
  rw [← skipError?_evaluate ctx h expression s, he]
  simp [skipError?, hlocal]

/-- An expression that yields something has no fault. -/
theorem fault?_of_ok {scope : Scope} (h : scope.unit.kind.isLooselyTyped) {expression : String}
    {s t : RunState} {x : FunctionCall × Output}
    (hx : evaluate library ctx scope expression s = (.ok x, t)) :
    library.fault? expression = none := by
  rw [← skipError?_evaluate ctx h expression s, hx]
  rfl

/-! ### Faults of definitions -/

/-- What is skipped of a definition in loosely typed parts: the first fault of each chain, in
order, and the fault of the selector. -/
def WebPartDefinition.faults (library : Library) (d : WebPartDefinition) : List Skipped :=
  d.chains.filterMap (fun (name, chain) =>
    library.firstFault? (some name) (splitChain chain)) ++
    (d.selector?.bind fun selector => library.firstFault? none [selector]).toList

namespace Library

variable {property : Option String} {expression : String} {rest : List String}

theorem firstFault?_cons_of_some {error : CallError} (h : library.fault? expression = some error) :
    library.firstFault? property (expression :: rest) =
      some { property, expression, error } := by
  simp [firstFault?, h]

theorem firstFault?_cons_of_none (h : library.fault? expression = none) :
    library.firstFault? property (expression :: rest) = library.firstFault? property rest := by
  simp [firstFault?, h]

end Library

namespace Part

variable {p q : Part} {s t : RunState}

theorem Reaches.loose (h : p.Reaches q) (hl : p.unit.kind.isLooselyTyped) :
    q.unit.kind.isLooselyTyped := by
  rw [h.grows.unitKind]
  exact hl

/-- A chain skips its first expression with a fault. -/
theorem eq_firstFault?_of_runExpressions {property : Option String} {xs : List String}
    {skip : Option Skipped} (hl : p.unit.kind.isLooselyTyped)
    (h : runExpressions library ctx property xs p s = ((q, .ok skip), t)) :
    skip = library.firstFault? property xs := by
  induction xs generalizing p s with
  | nil =>
      cases h
      rfl
  | cons x rest ih =>
      rcases hx : evaluate library ctx (p.scope property) x s with ⟨e | ⟨call, output⟩, u⟩
      · rw [runExpressions_cons_of_error hx] at h
        cases hlocal : e.isChainLocal <;> rw [hlocal] at h <;> cases h
        exact (Library.firstFault?_cons_of_some (fault?_of_error hl hx hlocal)).symm
      · rw [runExpressions_cons_of_ok hx] at h
        rw [Library.firstFault?_cons_of_none (fault?_of_ok hl hx)]
        exact ih ((reaches_merge p call.output output).loose hl) h

/-- Chains one after the other skip their first expressions with faults. -/
theorem eq_faults_of_runChains {chains : List (String × String)} {skipped : List Skipped}
    (hl : p.unit.kind.isLooselyTyped)
    (h : runChains library ctx chains p s = ((q, .ok skipped), t)) :
    skipped = chains.filterMap fun (name, chain) =>
      library.firstFault? (some name) (splitChain chain) := by
  induction chains generalizing p q s t skipped with
  | nil =>
      cases h
      rfl
  | cons head rest ih =>
      obtain ⟨name, chain⟩ := head
      rcases hc : runChain library ctx (some name) chain p s with ⟨⟨r, e | skip⟩, u⟩
      · rw [runChains_cons_of_error hc] at h
        cases h
      · rcases hrest : runChains library ctx rest r u with ⟨⟨r', e | more⟩, u'⟩
        all_goals
          rw [runChains_cons_of_ok hc, hrest] at h
          cases h
        have hskip := eq_firstFault?_of_runExpressions hl hc
        rw [ih ((reaches_of_runChain hc).loose hl) hrest, hskip]
        cases hf : library.firstFault? (some name) (splitChain chain) <;> simp [hf]

/-- A selector is skipped for its fault. -/
theorem eq_firstFault?_of_runSelector {selector : String} {value : Option String}
    {more : Option Skipped} (hl : p.unit.kind.isLooselyTyped)
    (h : runSelector library ctx selector p s = (.ok (value, more), t)) :
    more = library.firstFault? none [selector] := by
  rcases hx : evaluate library ctx (p.scope none) selector s with ⟨e | ⟨call, output⟩, u⟩
  · rw [runSelector_of_error hx] at h
    cases hlocal : e.isChainLocal <;> rw [hlocal] at h <;> cases h
    exact (Library.firstFault?_cons_of_some (fault?_of_error hl hx hlocal)).symm
  · rw [runSelector_of_ok hx] at h
    rw [Library.firstFault?_cons_of_none (fault?_of_ok hl hx)]
    cases output <;> cases h <;> rfl

/-- **Faults of a definition.** A transformation of a loosely typed part that succeeds has skipped
the faults of its definition. -/
theorem skipped_eq_faults {outcome : Outcome} (hl : p.unit.kind.isLooselyTyped)
    (h : (p.process library ctx s).1.2 = .ok outcome) :
    outcome.skipped = p.definition.faults library := by
  rw [process_eq_runChains] at h
  rcases hr : runChains library ctx p.definition.chains p s with ⟨⟨r, e | skipped⟩, u⟩
  · rw [hr] at h
    cases h
  · rw [hr] at h
    rw [WebPartDefinition.faults, ← eq_faults_of_runChains hl hr]
    cases hs : p.definition.selector? with
    | none =>
        rw [hs] at h
        cases h
        simp
    | some selector =>
        rcases hsel : runSelector library ctx selector r u with ⟨e | ⟨value, more⟩, u'⟩
        all_goals
          simp only [hs, hsel] at h
          cases h
        rw [eq_firstFault?_of_runSelector ((reaches_of_runChains hr).loose hl) hsel]
        rfl

/-- **What is skipped depends on the definition alone.** Two transformations of loosely typed units
by one definition, in whatever runs, have skipped the same if they succeed: the expressions that
have a fault, which is told from the definition. -/
theorem skipped_of_loose {library : Library} {d : WebPartDefinition} {unit unit' : ContentUnit}
    (hl : unit.kind.isLooselyTyped) (hl' : unit'.kind.isLooselyTyped) {ctx ctx' : Context}
    {s s' : RunState} {outcome outcome' : Outcome}
    (h : (Part.process library ctx ⟨d, unit⟩ s).1.2 = .ok outcome)
    (h' : (Part.process library ctx' ⟨d, unit'⟩ s').1.2 = .ok outcome') :
    outcome.skipped = outcome'.skipped ∧ outcome.skipped = d.faults library := by
  have hskipped := skipped_eq_faults hl h
  have hskipped' := skipped_eq_faults hl' h'
  exact ⟨hskipped.trans hskipped'.symm, hskipped⟩

/-- An expression that is no call, one with too many inputs and a selector with too few are skipped
for two units with different properties, in runs with different settings. -/
theorem skipped_of_loose_of_three_faults :
    let ctx : Context := { source := (Snapshot.ofUrl "https://contoso.sharepoint.com").source }
    let ctx' : Context :=
      { source := (Snapshot.ofUrl "https://fabrikam.com").source
        settings := { keepLinks := true } }
    let d : WebPartDefinition :=
      { typeName := "Text"
        properties := [{ name := "A", functions := some "HtmlEncode(B); B; HtmlEncode(A)" },
          { name := "B", functions := some "HtmlEncode(A, C)" }]
        mappings := some { selector := some "TextSelector()" } }
    let unit : ContentUnit := { typeName := "Text", kind := .addIn }
    let unit' : ContentUnit :=
      { typeName := "Page", kind := .clientSide, properties := PropertyBag.set {} "b" "x & y" }
    let skipped : List Skipped :=
      [⟨some "A", "B", .parse ⟨.missingParenthesis "B", 1, "B"⟩⟩,
        ⟨some "B", "HtmlEncode(A, C)", .argumentCount "HtmlEncode" 1 2⟩,
        ⟨none, "TextSelector()", .argumentCount "TextSelector" 1 0⟩]
    unit.kind.isLooselyTyped ∧ unit'.kind.isLooselyTyped ∧
      (Part.process .general ctx ⟨d, unit⟩ (ctx.start {})).1.2 = .ok { skipped } ∧
      (Part.process .general ctx' ⟨d, unit'⟩ (ctx'.start {})).1.2 = .ok { skipped } ∧
      skipped = d.faults .general := by
  intro ctx ctx' d unit unit' skipped
  have h : (Part.process .general ctx ⟨d, unit⟩ (ctx.start {})).1.2 = .ok { skipped } := by
    rw [process_eq_runChains]
    decide +kernel
  have h' : (Part.process .general ctx' ⟨d, unit'⟩ (ctx'.start {})).1.2 = .ok { skipped } := by
    rw [process_eq_runChains]
    decide +kernel
  exact ⟨rfl, rfl, h, h', (skipped_of_loose rfl rfl h h').2⟩

end Part

end PageMigration
