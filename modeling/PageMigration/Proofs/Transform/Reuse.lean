import PageMigration.Proofs.Transform.ChainSequence
import PageMigration.Proofs.Transform.DeclaredTypes
import PageMigration.Site.Snapshot

/-!
# Definitions that are used again

A definition that has transformed one unit is left with declarations of what was made for it, and
is then used for the next unit.  These declarations are of strings without chains.  A loosely typed
unit takes names that are not declared for strings, so it is transformed as if the definition had
never been used.

## Main definitions

* `WebPartDefinition.AfterUses` : a definition after other units have been transformed with it.
* `Part.Matches` : a loosely typed unit with two definitions in which names mean the same.

## Main results

* `Part.Matches.store`, `Part.Matches.exists_runExpressions` : steps and runs keep parts matched.
* `Part.process_of_afterUses` : the uses of a definition do not show.
-/

namespace PageMigration

/-! ### Uses of a definition -/

/-- `d.AfterUses d'` says that `d'` is what is left of `d` when units have been transformed with it
one after the other, or chains have been applied to them, in whatever runs. -/
inductive WebPartDefinition.AfterUses (d : WebPartDefinition) : WebPartDefinition → Prop
  | unused : d.AfterUses d
  | process {d' : WebPartDefinition} (h : d.AfterUses d') (library : Library) (ctx : Context)
      (unit : ContentUnit) (s : RunState) :
      d.AfterUses (Part.process library ctx ⟨d', unit⟩ s).1.1.definition
  | functions {d' : WebPartDefinition} (h : d.AfterUses d') (library : Library) (ctx : Context)
      (chain : String) (unit : ContentUnit) (s : RunState) :
      d.AfterUses (Part.processFunctions library ctx chain ⟨d', unit⟩ s).1.1.definition

/-- `d.Extends d'` says that `d'` is `d` with declarations of strings without chains behind its
properties. -/
structure WebPartDefinition.Extends (d d' : WebPartDefinition) : Prop where
  mappings : d'.mappings = d.mappings
  properties : ∃ made, d'.properties = d.properties ++ made ∧
    ∀ e ∈ made, e.typeName = "string" ∧ e.functions = none

namespace WebPartDefinition

variable {d d' d'' : WebPartDefinition}

theorem Extends.refl (d : WebPartDefinition) : d.Extends d :=
  ⟨rfl, [], by simp⟩

theorem Extends.trans (h : d.Extends d') (k : d'.Extends d'') : d.Extends d'' := by
  obtain ⟨made, hd', hmade⟩ := h.properties
  obtain ⟨more, hd'', hmore⟩ := k.properties
  refine ⟨k.mappings.trans h.mappings, made ++ more, by rw [hd'', hd', List.append_assoc], ?_⟩
  intro e he
  exact (List.mem_append.mp he).elim (hmade e) (hmore e)

theorem Extends.chains (h : d.Extends d') : d'.chains = d.chains := by
  obtain ⟨made, hd', hmade⟩ := h.properties
  have hnone : ∀ e ∈ made, e.chain? = none := fun e he => by
    rw [PropertyDefinition.chain?, (hmade e he).2]
    rfl
  rw [WebPartDefinition.chains, hd', chainsOf_append, chainsOf_eq_nil hnone, List.append_nil,
    WebPartDefinition.chains]

theorem Extends.selector? (h : d.Extends d') : d'.selector? = d.selector? := by
  rw [WebPartDefinition.selector?, h.mappings, WebPartDefinition.selector?]

/-- Declarations of strings give names no other type than they have by default. -/
theorem Extends.types (h : d.Extends d') (name : String) :
    (declaredType? d'.properties name).getD .string =
      (declaredType? d.properties name).getD .string := by
  obtain ⟨made, hd', hmade⟩ := h.properties
  rw [hd', declaredType?_append, declaredType?_of_strings fun e he => (hmade e he).1]
  cases declaredType? d.properties name with
  | some type => rfl
  | none => split <;> rfl

end WebPartDefinition

namespace Part

/-- What a part becomes extends its definition. -/
theorem Reaches.extends {p q : Part} (h : p.Reaches q) : p.definition.Extends q.definition := by
  obtain ⟨made, hq, hmade⟩ := h.grows.properties
  exact ⟨h.grows.mappings, made, hq, fun e he => ⟨(hmade e he).1, (hmade e he).2.1⟩⟩

variable (library : Library) (ctx : Context)

theorem reaches_process (p : Part) (s : RunState) : p.Reaches (p.process library ctx s).1.1 := by
  rw [process_fst]
  exact reaches_of_runProperties rfl

theorem reaches_processFunctions (chain : String) (p : Part) (s : RunState) :
    p.Reaches (p.processFunctions library ctx chain s).1.1 :=
  reaches_runExpressions library ctx none (Expression.splitChain chain) p s

end Part

/-- Whatever a definition is used for, it only gains declarations. -/
theorem WebPartDefinition.AfterUses.extends {d d' : WebPartDefinition} (h : d.AfterUses d') :
    d.Extends d' := by
  induction h with
  | unused => exact .refl d
  | process _ library ctx unit s ih =>
      exact ih.trans (Part.reaches_process library ctx ⟨_, unit⟩ s).extends
  | functions _ library ctx chain unit s ih =>
      exact ih.trans (Part.reaches_processFunctions library ctx chain ⟨_, unit⟩ s).extends

/-! ### Parts with one unit -/

namespace Part

/-- `p.Matches q` says that `p` and `q` have the same unit, which is loosely typed, and that their
definitions give the same types to names. -/
structure Matches (p q : Part) : Prop where
  unit : q.unit = p.unit
  loose : p.unit.kind.isLooselyTyped
  types : ∀ name, (declaredType? q.definition.properties name).getD .string =
    (declaredType? p.definition.properties name).getD .string

namespace Matches

variable {library : Library} {ctx : Context} {p q p' : Part} {s t : RunState}

/-- A stored value is declared as a string, which the name was taken for anyway. -/
theorem store (h : p.Matches q) (name value : String) :
    (p.store name value).Matches (q.store name value) where
  unit := by simp only [Part.store, h.unit]
  loose := h.loose
  types key := by
    simp only [Part.store, getD_declaredType?_declare]
    exact h.types key

theorem merge (h : p.Matches q) (name : String) (output : Output) :
    (p.merge name output).Matches (q.merge name output) := by
  cases output with
  | text value => exact h.store name value
  | bool value => exact h.store name (boolText value)
  | nothing => exact h
  | map values =>
      simp only [Part.merge]
      induction values generalizing p q with
      | nil => exact h
      | cons v values ih => exact ih (h.store v.1 v.2)

theorem evaluate (h : p.Matches q) (property : Option String) (expression : String) :
    evaluate library ctx (q.scope property) expression =
      PageMigration.evaluate library ctx (p.scope property) expression :=
  evaluate_congr rfl h.unit (Expression.bind?_congr_of_loose h.unit h.loose h.types)

/-- Expressions come to the same for matched parts and keep them matched. -/
theorem exists_runExpressions {property : Option String} {xs : List String}
    {result : Except CallError (Option Skipped)} (h : p.Matches q)
    (hr : runExpressions library ctx property xs p s = ((p', result), t)) :
    ∃ q', runExpressions library ctx property xs q s = ((q', result), t) ∧ p'.Matches q' := by
  induction xs generalizing p q s with
  | nil =>
      cases hr
      exact ⟨q, rfl, h⟩
  | cons x rest ih =>
      rcases hx : PageMigration.evaluate library ctx (p.scope property) x s with
        ⟨e | ⟨call, output⟩, u⟩
      · rw [runExpressions_cons_of_error hx] at hr
        cases hr
        exact ⟨q, runExpressions_cons_of_error (by rw [h.evaluate, hx]), h⟩
      · rw [runExpressions_cons_of_ok hx] at hr
        obtain ⟨q', hq', hmatch⟩ := ih (h.merge call.output output) hr
        exact ⟨q', by rw [runExpressions_cons_of_ok (by rw [h.evaluate, hx]), hq'], hmatch⟩

/-- Chains one after the other come to the same for matched parts. -/
theorem exists_runChains {chains : List (String × String)}
    {result : Except CallError (List Skipped)} (h : p.Matches q)
    (hr : runChains library ctx chains p s = ((p', result), t)) :
    ∃ q', runChains library ctx chains q s = ((q', result), t) ∧ p'.Matches q' := by
  induction chains generalizing p q s p' result t with
  | nil =>
      cases hr
      exact ⟨q, rfl, h⟩
  | cons head rest ih =>
      obtain ⟨name, chain⟩ := head
      rcases hc : runChain library ctx (some name) chain p s with ⟨⟨r, e | skipped⟩, u⟩
      all_goals obtain ⟨r', hc', hmatch⟩ := h.exists_runExpressions hc
      · rw [runChains_cons_of_error hc] at hr
        cases hr
        exact ⟨r', runChains_cons_of_error hc', hmatch⟩
      · rcases hrest : runChains library ctx rest r u with ⟨⟨p'', result'⟩, t'⟩
        rw [runChains_cons_of_ok hc, hrest] at hr
        cases hr
        obtain ⟨q', hq', hend⟩ := ih hmatch hrest
        exact ⟨q', by rw [runChains_cons_of_ok hc', hq'], hend⟩

theorem runSelector (h : p.Matches q) (selector : String) :
    runSelector library ctx selector q = Part.runSelector library ctx selector p := by
  rw [Part.runSelector, h.evaluate, Part.runSelector]

end Matches

/-- **Used definitions.** A loosely typed unit is transformed by a definition in the same way, from
the same state of a run and to the same one, whatever the definition was used for before. -/
theorem process_of_afterUses {d d' : WebPartDefinition} (h : d.AfterUses d') (library : Library)
    (ctx : Context) {unit : ContentUnit} (hloose : unit.kind.isLooselyTyped) (s : RunState) :
    let fresh := Part.process library ctx ⟨d, unit⟩ s
    let used := Part.process library ctx ⟨d', unit⟩ s
    used.1.2 = fresh.1.2 ∧ used.1.1.unit = fresh.1.1.unit ∧ used.2 = fresh.2 := by
  have hextends := h.extends
  have hmatch : Matches ⟨d, unit⟩ ⟨d', unit⟩ := ⟨rfl, hloose, hextends.types⟩
  rcases hr : runChains library ctx d.chains ⟨d, unit⟩ s with ⟨⟨p, e | skipped⟩, t⟩
  all_goals
    obtain ⟨q, hr', hend⟩ := hmatch.exists_runChains hr
    simp only [process_eq_runChains, hextends.chains, hextends.selector?, hr, hr']
  · exact ⟨trivial, hend.unit, trivial⟩
  · cases d.selector? with
    | none => exact ⟨rfl, hend.unit, rfl⟩
    | some selector =>
        simp only [hend.runSelector selector]
        exact ⟨rfl, hend.unit, rfl⟩

/-- The first unit makes the definition declare a name, by which the second one has a property. -/
theorem process_of_afterUses_of_declared :
    let ctx : Context := { source := (Snapshot.ofUrl "https://contoso.sharepoint.com").source }
    let d : WebPartDefinition :=
      { typeName := "Text"
        properties := [{ name := "A", functions := some "HtmlEncode(\x7bC\x7d); Missing" }] }
    let other : ContentUnit := { typeName := "Text" }
    let unit : ContentUnit :=
      { typeName := "Text", kind := .addIn, properties := PropertyBag.set {} "C" "x & y" }
    let first := Part.processFunctions .general ctx "\x7bC\x7d = StaticString('z')" ⟨d, other⟩
      (ctx.start {})
    let d' := first.1.1.definition
    d.AfterUses d' ∧ d'.properties.map (·.name) = ["A", "C"] ∧ unit.kind.isLooselyTyped ∧
      (Part.process .general ctx ⟨d', unit⟩ first.2).1.2 =
        (Part.process .general ctx ⟨d, unit⟩ first.2).1.2 ∧
      (Part.process .general ctx ⟨d', unit⟩ first.2).1.1.unit.properties.entries =
        [("C", "x & y"), ("A", "x &amp; y")] := by
  intro ctx d other unit first d'
  have huses : d.AfterUses d' := .functions .unused .general ctx _ other (ctx.start {})
  have hloose : unit.kind.isLooselyTyped := rfl
  obtain ⟨hresult, hunit, -⟩ := process_of_afterUses huses .general ctx hloose first.2
  refine ⟨huses, by decide +kernel, hloose, hresult, ?_⟩
  rw [hunit, process_eq_runChains]
  decide +kernel

end Part

end PageMigration
