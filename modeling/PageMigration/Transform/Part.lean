import PageMigration.Catalog.Library
import PageMigration.Expression.Chain

/-!
# Transformation of parts

A part is a content unit with the definition of its type.  The functions of the definition are
run in order and what they yield is stored in the unit; a property that they make is declared, so
that later expressions may refer to it.  An expression that fails is skipped together with the
rest of its chain, unless its failure concerns the whole part.

## Main definitions

* `Part`, `Part.store`, `Part.merge` : a part, and the part after a function has yielded
  something.
* `Part.runChain` : one chain of expressions.
* `Part.Reaches` : the parts that arise from a part when values are stored.
* `Part.runProperties` : the walk along the properties, whose list grows on the way.
* `Part.process` : all chains of the properties, and the selector.
* `Part.processFunctions` : a chain that belongs to no property.

## Main results

* `Part.reaches_of_runChain` : a chain does nothing to a part but store values.
-/

namespace PageMigration

/-- A content unit with the definition of its type. -/
structure Part where
  definition : WebPartDefinition
  unit : ContentUnit
  deriving DecidableEq, Repr

/-- An expression that was skipped together with the rest of its chain. -/
structure Skipped where
  /-- The property that the chain belongs to, if it belongs to one. -/
  property : Option String
  expression : String
  error : CallError
  deriving DecidableEq, Repr

/-- What came of the transformation of a part. -/
structure Outcome where
  /-- The value of the selector. -/
  selector : Option String := none
  skipped : List Skipped := []
  deriving DecidableEq, Repr

/-- The output name of an expression and what its function yields. -/
def evaluate (library : Library) (ctx : Context) (scope : Scope) (expression : String) :
    Run (Except CallError (FunctionCall × Output)) :=
  match parseCall scope expression with
  | .error e => return .error (.parse e)
  | .ok call => do
      match ← library.invoke ctx call with
      | .ok output => return .ok (call, output)
      | .error e => return .error e

namespace Part

/-- What the expressions of a chain are bound against. -/
def scope (p : Part) (property : Option String) : Scope where
  property
  declared := p.definition.properties
  unit := p.unit

/-- The part with the value of a property, which is declared if it was not. -/
def store (p : Part) (name value : String) : Part where
  definition := p.definition.declare name
  unit := { p.unit with properties := p.unit.properties.set name value }

/-- The part after a function has yielded something for a property. -/
def merge (p : Part) (name : String) : Output → Part
  | .text value => p.store name value
  | .bool value => p.store name (boolText value)
  | .map values => values.foldl (fun p (name, value) => p.store name value) p
  | .nothing => p

variable (library : Library) (ctx : Context)

/-- The part after expressions have been run one after the other, up to the first one that fails.
That one is skipped if its failure stops only the chain. -/
def runExpressions (property : Option String) :
    List String → Part → Run (Part × Except CallError (Option Skipped))
  | [], p => return (p, .ok none)
  | expression :: rest, p => do
      match ← evaluate library ctx (p.scope property) expression with
      | .ok (call, output) => runExpressions property rest (p.merge call.output output)
      | .error error =>
          return (p, if error.isChainLocal then .ok (some { property, expression, error })
            else .error error)

section RunExpressions

variable {library ctx} {property : Option String} {expression : String} {rest : List String}
  {p : Part} {s t : RunState}

theorem runExpressions_nil : runExpressions library ctx property [] p s = ((p, .ok none), s) :=
  rfl

theorem runExpressions_cons_of_ok {call : FunctionCall} {output : Output}
    (h : evaluate library ctx (p.scope property) expression s = (.ok (call, output), t)) :
    runExpressions library ctx property (expression :: rest) p s =
      runExpressions library ctx property rest (p.merge call.output output) t :=
  Run.bind_of_eq h

theorem runExpressions_cons_of_error {error : CallError}
    (h : evaluate library ctx (p.scope property) expression s = (.error error, t)) :
    runExpressions library ctx property (expression :: rest) p s =
      ((p, if error.isChainLocal then .ok (some { property, expression, error })
        else .error error), t) :=
  Run.bind_of_eq h

end RunExpressions

/-- The part after a chain. -/
def runChain (property : Option String) (chain : String) (p : Part) :
    Run (Part × Except CallError (Option Skipped)) :=
  runExpressions library ctx property (Expression.splitChain chain) p

/-! ### Growth of the definition -/

/-- `p.Reaches q` says that `q` arises from `p` when values of properties are stored one after the
other.  It is all that expressions do to a part. -/
inductive Reaches (p : Part) : Part → Prop
  | refl : Reaches p p
  | store {q : Part} (name value : String) (h : Reaches p q) : Reaches p (q.store name value)

theorem Reaches.trans {p q r : Part} (h : p.Reaches q) (k : q.Reaches r) : p.Reaches r := by
  induction k with
  | refl => exact h
  | store name value _ ih => exact .store name value ih

theorem reaches_foldl_store (values : List (String × String)) (p : Part) :
    p.Reaches (values.foldl (fun p (name, value) => p.store name value) p) := by
  induction values generalizing p with
  | nil => exact .refl
  | cons v values ih => exact (Reaches.refl.store v.1 v.2).trans (ih _)

theorem reaches_merge (p : Part) (name : String) (output : Output) :
    p.Reaches (p.merge name output) := by
  cases output with
  | text value => exact Reaches.refl.store name value
  | bool value => exact Reaches.refl.store name (boolText value)
  | map values => exact reaches_foldl_store values p
  | nothing => exact .refl

theorem reaches_runExpressions (property : Option String) (expressions : List String) (p : Part)
    (s : RunState) : p.Reaches (runExpressions library ctx property expressions p s).1.1 := by
  induction expressions generalizing p s with
  | nil => exact .refl
  | cons expression rest ih =>
      rcases h : evaluate library ctx (p.scope property) expression s with ⟨e | ⟨call, output⟩, t⟩
      · rw [runExpressions_cons_of_error h]
        exact .refl
      · rw [runExpressions_cons_of_ok h]
        exact (reaches_merge p call.output output).trans (ih _ _)

variable {library ctx} in
/-- A chain does nothing to a part but store values of properties. -/
theorem reaches_of_runChain {property : Option String} {chain : String} {p q : Part}
    {s t : RunState} {result : Except CallError (Option Skipped)}
    (h : runChain library ctx property chain p s = ((q, result), t)) : p.Reaches q := by
  have hreach := reaches_runExpressions library ctx property (Expression.splitChain chain) p s
  rw [runChain] at h
  rwa [h] at hreach

/-- The properties of a part stay in their places, and the ones that are added have no chain. -/
theorem Reaches.properties {p q : Part} (h : p.Reaches q) :
    ∃ made, q.definition.properties = p.definition.properties ++ made ∧
      ∀ d ∈ made, d.chain? = none := by
  induction h with
  | refl => exact ⟨[], by simp⟩
  | @store q name value _ ih =>
      obtain ⟨made, hq, hmade⟩ := ih
      simp only [Part.store, WebPartDefinition.declare]
      split
      · exact ⟨made, hq, hmade⟩
      · refine ⟨made ++ [{ name := name }], by simp [hq], fun d hd => ?_⟩
        rcases List.mem_append.mp hd with hd | hd
        · exact hmade d hd
        · rw [List.mem_singleton.mp hd]
          rfl

/-- What a part has gained brings no chains. -/
theorem Reaches.chainsOf_drop {p q : Part} (h : p.Reaches q) {i : Nat}
    (hi : i ≤ p.definition.properties.length) :
    chainsOf (q.definition.properties.drop i) = chainsOf (p.definition.properties.drop i) := by
  obtain ⟨made, hq, hmade⟩ := h.properties
  rw [hq, List.drop_append_of_le_length hi, chainsOf_append, chainsOf_eq_nil hmade,
    List.append_nil]

/-! ### The walk along the properties -/

/-- The part after the chains of its properties from a position on, with the expressions that were
skipped.  The list of properties grows while it is walked; what it gains has no chains. -/
def runProperties (index : Nat) (p : Part) (s : RunState) :
    (Part × Except CallError (List Skipped)) × RunState :=
  match _hp : p.definition.properties[index]? with
  | none => ((p, .ok []), s)
  | some property =>
      match _hc : property.chain? with
      | none => runProperties (index + 1) p s
      | some chain =>
          match _hr : runChain library ctx (some property.name) chain p s with
          | ((q, .error e), t) => ((q, .error e), t)
          | ((q, .ok skipped), t) =>
              let ((r, result), u) := runProperties (index + 1) q t
              ((r, result.map (skipped.toList ++ ·)), u)
termination_by
  ((chainsOf (p.definition.properties.drop index)).length,
    p.definition.properties.length - index)
decreasing_by
  · obtain ⟨hi, -⟩ := List.getElem?_eq_some_iff.mp _hp
    rw [chainsOf_drop_of_none _hp _hc]
    exact Prod.Lex.right _ (by omega)
  · obtain ⟨hi, -⟩ := List.getElem?_eq_some_iff.mp _hp
    rw [(reaches_of_runChain _hr).chainsOf_drop hi, chainsOf_drop_of_some _hp _hc]
    exact Prod.Lex.left _ _ (Nat.lt_succ_self _)

/-! ### Parts -/

/-- The value of a selector, or the expression where it is skipped. -/
def runSelector (selector : String) (p : Part) :
    Run (Except CallError (Option String × Option Skipped)) := do
  match ← evaluate library ctx (p.scope none) selector with
  | .ok (call, .map _) => return .error (.nonScalarSelector call.name)
  | .ok (_, output) => return .ok (output.scalar?, none)
  | .error error =>
      return if error.isChainLocal then
          .ok (none, some { property := none, expression := selector, error })
        else .error error

/-- The part after the chains of its properties, with the value of the selector. -/
def process (p : Part) : Run (Part × Except CallError Outcome) := do
  match ← (runProperties library ctx 0 p : Run _) with
  | (p, .error e) => return (p, .error e)
  | (p, .ok skipped) =>
      match p.definition.selector? with
      | none => return (p, .ok { skipped })
      | some selector =>
          match ← runSelector library ctx selector p with
          | .error e => return (p, .error e)
          | .ok (value, more) =>
              return (p, .ok { selector := value, skipped := skipped ++ more.toList })

section Process

variable {library ctx} {p q : Part} {s t u : RunState} {skipped : List Skipped}

theorem process_of_error {error : CallError}
    (h : runProperties library ctx 0 p s = ((q, .error error), t)) :
    p.process library ctx s = ((q, .error error), t) :=
  Run.bind_of_eq h

theorem process_of_no_selector (h : runProperties library ctx 0 p s = ((q, .ok skipped), t))
    (hs : q.definition.selector? = none) :
    p.process library ctx s = ((q, .ok { skipped }), t) := by
  rw [process, Run.bind_of_eq h]
  simp only [hs]
  rfl

theorem process_of_selector {selector : String}
    {result : Except CallError (Option String × Option Skipped)}
    (h : runProperties library ctx 0 p s = ((q, .ok skipped), t))
    (hs : q.definition.selector? = some selector)
    (hr : runSelector library ctx selector q t = (result, u)) :
    p.process library ctx s =
      ((q, result.map fun (value, more) =>
        { selector := value, skipped := skipped ++ more.toList }), u) := by
  rw [process, Run.bind_of_eq h]
  simp only [hs]
  rw [Run.bind_of_eq hr]
  cases result <;> rfl

end Process

/-- The part after a chain that belongs to no property. -/
def processFunctions (functions : String) (p : Part) : Run (Part × Except CallError Outcome) := do
  let (p, result) ← runChain library ctx none functions p
  return (p, result.map fun skipped => { skipped := skipped.toList })

end Part

end PageMigration
