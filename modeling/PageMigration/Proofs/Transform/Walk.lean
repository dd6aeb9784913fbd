import PageMigration.Transform.Part

/-!
# Walks along the properties of a part

A walk visits the properties of a part from a position on, to the end of a list that grows on the
way.  The relation records which chains are run at the visits and which expressions are skipped.
It holds of a walk that comes to its end, as the function does that carries the walk out.  The
properties that are added on the way have no chains, so the chains that are run are those of the
properties with which the walk begins.

## Main definitions

* `Part.Walk` : the walks that come to their end.

## Main results

* `Part.runProperties_eq_ok_iff` : the function carries out exactly these walks.
* `Part.Walk.ran_eq_chains` : a walk along all properties runs the chains of the definition.
* `Part.reaches_of_runProperties`, `Part.process_fst` : a part is changed by storing values alone.
* `Part.exists_runChain_eq_error` : a walk that fails does so in one of these chains.
-/

namespace PageMigration

namespace Part

variable (library : Library) (ctx : Context)

/-- `Walk library ctx i p s ran skips q t` says that the walk from position `i` of the properties
of `p` on, which begins in the state `s`, comes to its end with the part `q` in the state `t`.  On
the way it has run the chains `ran`, and each visit of a property has skipped what `skips` tells. -/
inductive Walk : Nat → Part → RunState → List (String × String) → List (Option Skipped) →
    Part → RunState → Prop
  | stop {i p s} (hi : p.definition.properties[i]? = none) : Walk i p s [] [] p s
  | pass {i p s d ran skips q t} (hd : p.definition.properties[i]? = some d)
      (hc : d.chain? = none) (h : Walk (i + 1) p s ran skips q t) :
      Walk i p s ran (none :: skips) q t
  | run {i p s d chain r skip u ran skips q t} (hd : p.definition.properties[i]? = some d)
      (hc : d.chain? = some chain)
      (hr : runChain library ctx (some d.name) chain p s = ((r, .ok skip), u))
      (h : Walk (i + 1) r u ran skips q t) :
      Walk i p s ((d.name, chain) :: ran) (skip :: skips) q t

variable {library ctx}

/-! ### The function and the relation -/

section Steps

variable {i : Nat} {p q : Part} {s t : RunState} {d : PropertyDefinition} {chain : String}

theorem runProperties_stop (hi : p.definition.properties[i]? = none) :
    runProperties library ctx i p s = ((p, .ok []), s) := by
  unfold runProperties
  grind

theorem runProperties_pass (hd : p.definition.properties[i]? = some d) (hc : d.chain? = none) :
    runProperties library ctx i p s = runProperties library ctx (i + 1) p s := by
  conv => lhs; unfold runProperties
  grind

theorem runProperties_run {skip : Option Skipped} (hd : p.definition.properties[i]? = some d)
    (hc : d.chain? = some chain)
    (hr : runChain library ctx (some d.name) chain p s = ((q, .ok skip), t)) :
    runProperties library ctx i p s =
      match runProperties library ctx (i + 1) q t with
      | ((r, result), u) => ((r, result.map (skip.toList ++ ·)), u) := by
  conv => lhs; unfold runProperties
  grind

theorem runProperties_fail {e : CallError} (hd : p.definition.properties[i]? = some d)
    (hc : d.chain? = some chain)
    (hr : runChain library ctx (some d.name) chain p s = ((q, .error e), t)) :
    runProperties library ctx i p s = ((q, .error e), t) := by
  conv => lhs; unfold runProperties
  grind

end Steps

theorem Walk.runProperties_eq {i : Nat} {p q : Part} {s t : RunState}
    {ran : List (String × String)} {skips : List (Option Skipped)}
    (h : Walk library ctx i p s ran skips q t) :
    runProperties library ctx i p s = ((q, .ok (skips.filterMap id)), t) := by
  induction h with
  | stop hi => exact runProperties_stop hi
  | pass hd hc _ ih => rw [runProperties_pass hd hc, ih]; rfl
  | @run _ _ _ _ _ _ skip _ _ _ _ _ hd hc hr _ ih =>
      rw [runProperties_run hd hc hr, ih]
      cases skip <;> rfl

theorem exists_walk {i : Nat} {p q : Part} {s t : RunState} {skipped : List Skipped}
    (h : runProperties library ctx i p s = ((q, .ok skipped), t)) :
    ∃ ran skips, Walk library ctx i p s ran skips q t ∧ skips.filterMap id = skipped := by
  fun_induction runProperties library ctx i p s generalizing q skipped t with
  | case1 i p s hi =>
      cases h
      exact ⟨[], [], .stop hi, rfl⟩
  | case2 i p s d hd hc ih =>
      obtain ⟨ran, skips, hw, rfl⟩ := ih h
      exact ⟨ran, none :: skips, .pass hd hc hw, rfl⟩
  | case3 => simp at h
  | case4 i p s d hd chain hc r skip u hr r' result u' hrest ih =>
      cases result with
      | error e => simp [Except.map] at h
      | ok rest =>
          obtain ⟨ran, skips, hw, rfl⟩ := ih hrest
          cases h
          exact ⟨(d.name, chain) :: ran, skip :: skips, .run hd hc hr hw, by cases skip <;> rfl⟩

/-- The function carries out the walks that come to their end. -/
theorem runProperties_eq_ok_iff {i : Nat} {p q : Part} {s t : RunState}
    {skipped : List Skipped} :
    runProperties library ctx i p s = ((q, .ok skipped), t) ↔
      ∃ ran skips, Walk library ctx i p s ran skips q t ∧ skips.filterMap id = skipped :=
  ⟨exists_walk, fun ⟨_, _, hw, hs⟩ => hs ▸ hw.runProperties_eq⟩

/-! ### What a walk does -/

theorem reaches_of_runProperties {i : Nat} {p q : Part} {s t : RunState}
    {result : Except CallError (List Skipped)}
    (h : runProperties library ctx i p s = ((q, result), t)) : p.Reaches q := by
  fun_induction runProperties library ctx i p s generalizing q result t with
  | case1 =>
      cases h
      exact .refl
  | case2 i p s d hd hc ih => exact ih h
  | case3 i p s d hd chain hc q' e t' hr =>
      cases h
      exact reaches_of_runChain hr
  | case4 i p s d hd chain hc q' skip t' hr r result' u hrest ih =>
      cases h
      exact (reaches_of_runChain hr).trans (ih hrest)

variable (library ctx) in
/-- A selector changes nothing in a part: the walk along the properties is all that does. -/
theorem process_fst (p : Part) (s : RunState) :
    (p.process library ctx s).1.1 = (runProperties library ctx 0 p s).1.1 := by
  rcases h : runProperties library ctx 0 p s with ⟨⟨q, e | skipped⟩, t⟩
  · rw [process_of_error h]
  · cases hs : q.definition.selector? with
    | none => rw [process_of_no_selector h hs]
    | some selector => rw [process_of_selector h hs rfl]

theorem Reaches.length_le {p q : Part} (h : p.Reaches q) :
    p.definition.properties.length ≤ q.definition.properties.length := by
  obtain ⟨made, hq, -⟩ := h.properties
  simp [hq]

/-- The properties that a part has gained have no chains. -/
theorem Reaches.getElem?_of_chain? {p q : Part} (h : p.Reaches q) {i : Nat}
    {d : PropertyDefinition} {chain : String} (hd : q.definition.properties[i]? = some d)
    (hc : d.chain? = some chain) : p.definition.properties[i]? = some d := by
  obtain ⟨made, hq, hmade⟩ := h.properties
  rw [hq, List.getElem?_append] at hd
  split at hd
  · exact hd
  · simp [hmade d (List.mem_of_getElem? hd)] at hc

/-- A walk that fails does so in a chain of the definition with which it begins. -/
theorem exists_runChain_eq_error {i : Nat} {p q : Part} {s t : RunState} {e : CallError}
    (h : runProperties library ctx i p s = ((q, .error e), t)) :
    ∃ r u d chain, p.Reaches r ∧ d ∈ p.definition.properties ∧ d.chain? = some chain ∧
      runChain library ctx (some d.name) chain r u = ((q, .error e), t) := by
  fun_induction runProperties library ctx i p s with
  | case1 => simp at h
  | case2 i p s d hd hc ih => exact ih h
  | case3 i p s d hd chain hc q' e' t' hr =>
      cases h
      exact ⟨p, s, d, chain, .refl, List.mem_of_getElem? hd, hc, hr⟩
  | case4 i p s d hd chain hc q' skip t' hr r result u hrest ih =>
      cases result with
      | ok rest => simp [Except.map] at h
      | error e' =>
          cases h
          have hq := reaches_of_runChain hr
          obtain ⟨r', u', d', chain', hr', hd', hc', herr⟩ := ih hrest
          obtain ⟨j, hj⟩ := List.mem_iff_getElem?.mp hd'
          exact ⟨r', u', d', chain', hq.trans hr',
            List.mem_of_getElem? (hq.getElem?_of_chain? hj hc'), hc', herr⟩

theorem Walk.ran_eq_chainsOf {i : Nat} {p q : Part} {s t : RunState}
    {ran : List (String × String)} {skips : List (Option Skipped)}
    (h : Walk library ctx i p s ran skips q t) :
    ran = chainsOf (p.definition.properties.drop i) := by
  induction h with
  | stop hi => simp [chainsOf, List.drop_eq_nil_of_le (List.getElem?_eq_none_iff.mp hi)]
  | pass hd hc _ ih => rw [ih, chainsOf_drop_of_none hd hc]
  | @run i p s d chain r skip u ran skips q t hd hc hr _ ih =>
      obtain ⟨hi, -⟩ := List.getElem?_eq_some_iff.mp hd
      rw [ih, (reaches_of_runChain hr).chainsOf_drop hi, chainsOf_drop_of_some hd hc]

/-- **The chains of a walk.** A walk along all properties runs the chains of the definition with
which it begins, each once and in order. -/
theorem Walk.ran_eq_chains {p q : Part} {s t : RunState} {ran : List (String × String)}
    {skips : List (Option Skipped)} (h : Walk library ctx 0 p s ran skips q t) :
    ran = p.definition.chains := by
  simpa [WebPartDefinition.chains] using h.ran_eq_chainsOf

end Part

end PageMigration
