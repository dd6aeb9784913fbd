import PageMigration.Proofs.Transform.Failure

/-!
# Transformations as sequences of chains

The walk along the properties of a part goes over a list that grows on the way, but what the list
gains has no chains.  So the transformation of a part runs the chains of the definition with which
it begins one after the other, and then the selector of that definition.

## Main definitions

* `Part.runChains` : chains one after the other.

## Main results

* `Part.runProperties_eq_runChains` : the walk along the properties runs the chains in order.
* `Part.process_eq_runChains` : a transformation in terms of its chains.
-/

namespace PageMigration.Part

variable (library : Library) (ctx : Context)

/-- The part after chains have been run one after the other, each for the property it is given
with, and the expressions that were skipped.  A chain that fails as a whole ends the run. -/
def runChains : List (String × String) → Part → Run (Part × Except CallError (List Skipped))
  | [], p => return (p, .ok [])
  | (name, chain) :: rest, p => do
      match ← runChain library ctx (some name) chain p with
      | (q, .error e) => return (q, .error e)
      | (q, .ok skipped) =>
          let (r, result) ← runChains rest q
          return (r, result.map (skipped.toList ++ ·))

variable {library ctx}

section Equations

variable {name chain : String} {rest : List (String × String)} {p q r : Part} {s t u : RunState}

theorem runChains_nil : runChains library ctx [] p s = ((p, .ok []), s) := rfl

theorem runChains_cons_of_error {e : CallError}
    (h : runChain library ctx (some name) chain p s = ((q, .error e), t)) :
    runChains library ctx ((name, chain) :: rest) p s = ((q, .error e), t) :=
  Run.bind_of_eq h

theorem runChains_cons_of_ok {skipped : Option Skipped}
    (h : runChain library ctx (some name) chain p s = ((q, .ok skipped), t)) :
    runChains library ctx ((name, chain) :: rest) p s =
      match runChains library ctx rest q t with
      | ((r, result), u) => ((r, result.map (skipped.toList ++ ·)), u) :=
  Run.bind_of_eq h

end Equations

/-- Chains do nothing to a part but store values of properties. -/
theorem reaches_of_runChains {chains : List (String × String)} {p q : Part} {s t : RunState}
    {result : Except CallError (List Skipped)}
    (h : runChains library ctx chains p s = ((q, result), t)) : p.Reaches q := by
  induction chains generalizing p q s t result with
  | nil =>
      cases h
      exact .refl
  | cons head rest ih =>
      obtain ⟨name, chain⟩ := head
      rcases hc : runChain library ctx (some name) chain p s with ⟨⟨r, e | skipped⟩, u⟩
      · rw [runChains_cons_of_error hc] at h
        cases h
        exact reaches_of_runChain hc
      · rcases hrest : runChains library ctx rest r u with ⟨⟨r', result'⟩, u'⟩
        rw [runChains_cons_of_ok hc, hrest] at h
        cases h
        exact (reaches_of_runChain hc).trans (ih hrest)

/-- **Chains in order.** The walk along the properties from a position on runs the chains of the
properties from there on. -/
theorem runProperties_eq_runChains (i : Nat) (p : Part) (s : RunState) :
    runProperties library ctx i p s =
      runChains library ctx (chainsOf (p.definition.properties.drop i)) p s := by
  fun_induction runProperties library ctx i p s with
  | case1 i p s hi =>
      rw [List.drop_eq_nil_of_le (List.getElem?_eq_none_iff.mp hi)]
      rfl
  | case2 i p s d hd hc ih => rw [ih, chainsOf_drop_of_none hd hc]
  | case3 i p s d hd chain hc q e t hr =>
      rw [chainsOf_drop_of_some hd hc, runChains_cons_of_error hr]
  | case4 i p s d hd chain hc q skipped t hr r result u hrest ih =>
      obtain ⟨hi, -⟩ := List.getElem?_eq_some_iff.mp hd
      have hchains := (reaches_of_runChain hr).chainsOf_drop (Nat.succ_le_of_lt hi)
      rw [chainsOf_drop_of_some hd hc, runChains_cons_of_ok hr, ← hchains, ← ih, hrest]

/-- **A transformation in terms of chains.** A part is transformed by its chains in order and then
by its selector, if it has one and no chain has failed as a whole. -/
theorem process_eq_runChains (p : Part) (s : RunState) :
    p.process library ctx s =
      match runChains library ctx p.definition.chains p s with
      | ((q, .error e), t) => ((q, .error e), t)
      | ((q, .ok skipped), t) =>
          match p.definition.selector? with
          | none => ((q, .ok { skipped }), t)
          | some selector =>
              match runSelector library ctx selector q t with
              | (result, u) => ((q, result.map fun (value, more) =>
                  { selector := value, skipped := skipped ++ more.toList }), u) := by
  rcases hr : runProperties library ctx 0 p s with ⟨⟨q, e | skipped⟩, t⟩
  all_goals
    have hchains : runChains library ctx p.definition.chains p s = _ :=
      (runProperties_eq_runChains 0 p s).symm.trans hr
    rw [hchains]
  · exact process_of_error hr
  · have hselector := (reaches_of_runProperties hr).selector?
    rw [← hselector]
    cases hs : q.definition.selector? with
    | none => exact process_of_no_selector hr hs
    | some selector => exact process_of_selector hr hs rfl

section WithoutSelector

variable {p : Part} (hselector : p.definition.selector? = none)
include hselector

theorem process_of_chains_eq_nil (hchains : p.definition.chains = []) (s : RunState) :
    p.process library ctx s = ((p, .ok {}), s) := by
  rw [process_eq_runChains, hchains, runChains_nil]
  simp only [hselector]

/-- A part with one chain is transformed by that chain. -/
theorem process_of_chains_eq_singleton {name chain : String}
    (hchains : p.definition.chains = [(name, chain)]) (s : RunState) :
    p.process library ctx s =
      match runChain library ctx (some name) chain p s with
      | ((q, result), t) => ((q, result.map fun skipped => { skipped := skipped.toList }), t) := by
  rw [process_eq_runChains, hchains]
  rcases hr : runChain library ctx (some name) chain p s with ⟨⟨q, e | skipped⟩, t⟩
  · rw [runChains_cons_of_error hr]
    rfl
  · rw [runChains_cons_of_ok hr, runChains_nil]
    simp [Except.map, hselector]

end WithoutSelector

end PageMigration.Part
