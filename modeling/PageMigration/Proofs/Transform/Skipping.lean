import PageMigration.Proofs.Expression.ChainParts
import PageMigration.Proofs.Transform.Failure

/-!
# What a skipped expression leaves undone

An expression that is skipped takes the rest of its chain with it and nothing else.  The
definition in which every such chain is cut before the expression is transformed in the same way,
with the same look-ups, and no chain of it is skipped.

## Main definitions

* `Part.cut` : a part with its chains cut before what was skipped.
* `PropertyDefinition.Skips`, `WebPartDefinition.SkipsSelector` : what may be skipped.

## Main results

* `Part.runExpressions_cut` : cut chains do not matter to the run of an expression.
* `Part.Walk.cut` : a walk along cut chains.
* `Part.process_confined` : failures are confined to the rest of their chains.
-/

namespace PageMigration

/-! ### Cut definitions -/

namespace PropertyDefinition

/-- The property with its chain cut before the expression that was skipped, if one was. -/
def cutBefore (d : PropertyDefinition) : Option Skipped → PropertyDefinition
  | some skip => { d with functions := d.functions.map (Expression.chainBefore skip.expression) }
  | none => d

/-- What may be skipped of the chain of a property: an expression of the chain, because it cannot
be read or because of the number of its inputs. -/
structure Skips (d : PropertyDefinition) (skip : Skipped) : Prop where
  property : skip.property = some d.name
  expression : ∃ chain, d.chain? = some chain ∧ skip.expression ∈ Expression.splitChain chain
  /-- The cut takes off the text of the chain from the expression on. -/
  functions : ∃ before rest, d.functions = some (before ++ skip.expression ++ rest) ∧
    (d.cutBefore (some skip)).functions = some before
  error : (∃ error, skip.error = .parse error) ∨
    ∃ function expected actual, skip.error = .argumentCount function expected actual

variable (d : PropertyDefinition) (skip : Option Skipped)

@[simp] theorem cutBefore_none : d.cutBefore none = d := rfl

@[simp] theorem cutBefore_name : (d.cutBefore skip).name = d.name := by
  cases skip <;> rfl

@[simp] theorem cutBefore_type : (d.cutBefore skip).type = d.type := by
  cases skip <;> rfl

theorem cutBefore_of_functions_eq_none {d : PropertyDefinition} (h : d.functions = none) :
    d.cutBefore skip = d := by
  cases skip with
  | none => rfl
  | some skip =>
      obtain ⟨name, typeName, functions⟩ := d
      obtain rfl : functions = none := h
      rfl

/-- The chain of a property has the expressions of its functions as they are written. -/
theorem exists_functions_of_chain? {d : PropertyDefinition} {chain : String}
    (hc : d.chain? = some chain) : ∃ functions, d.functions = some functions ∧
      Expression.splitChain functions = Expression.splitChain chain := by
  obtain ⟨functions, hf, hc⟩ := Option.bind_eq_some_iff.mp hc
  exact ⟨functions, hf, by rw [Expression.splitChain_eq_of_nonblank? functions, hc]; rfl⟩

/-- The expressions of a cut chain are those before the one that was skipped. -/
theorem splitChain_cutBefore {d : PropertyDefinition} {chain : String} (hc : d.chain? = some chain)
    {skip : Skipped} (he : skip.expression ≠ "") :
    ((d.cutBefore (some skip)).chain?.map Expression.splitChain).getD [] =
      (Expression.splitChain chain).takeWhile (· ≠ skip.expression) := by
  obtain ⟨functions, hf, hsplit⟩ := exists_functions_of_chain? hc
  rw [← hsplit, ← Expression.splitChain_chainBefore he,
    Expression.splitChain_eq_of_nonblank? (Expression.chainBefore skip.expression functions)]
  simp [chain?, cutBefore, hf]

/-- An expression of a chain is skipped where its failure stops the chain alone. -/
theorem Skips.of_mem_splitChain {d : PropertyDefinition} {chain : String}
    (hc : d.chain? = some chain) {skip : Skipped} (hp : skip.property = some d.name)
    (he : skip.expression ∈ Expression.splitChain chain) (hl : skip.error.isChainLocal = true) :
    d.Skips skip where
  property := hp
  expression := ⟨chain, hc, he⟩
  functions := by
    obtain ⟨functions, hf, hsplit⟩ := exists_functions_of_chain? hc
    rw [← hsplit] at he
    obtain ⟨rest, hrest⟩ := Expression.exists_eq_chainBefore_append he
    refine ⟨Expression.chainBefore skip.expression functions, rest, ?_, ?_⟩
    · rw [hf, ← hrest]
    · rw [cutBefore, hf]
      rfl
  error := CallError.isChainLocal_iff.mp hl

end PropertyDefinition

/-- The selector may be skipped because it cannot be read or because of the number of its
inputs. -/
structure WebPartDefinition.SkipsSelector (d : WebPartDefinition) (skip : Skipped) : Prop where
  property : skip.property = none
  expression : d.selector? = some skip.expression
  error : (∃ error, skip.error = .parse error) ∨
    ∃ function expected actual, skip.error = .argumentCount function expected actual

/-- The type of a declared property is found among the names and types of the properties. -/
theorem map_type_findProperty? (declared : List PropertyDefinition) (name : String) :
    (findProperty? declared name).map PropertyDefinition.type =
      ((declared.map fun d => (d.name, d.type)).find? fun x => Text.sameName x.1 name).map
        Prod.snd := by
  rw [List.find?_map, Option.map_map]
  rfl

namespace Part

/-- The part with the chain of each property cut before what was skipped of it. -/
def cut (p : Part) (skips : List (Option Skipped)) : Part :=
  { p with
    definition := { p.definition with
      properties := p.definition.properties.mapIdx fun i d => d.cutBefore skips[i]?.join } }

variable {library : Library} {ctx : Context} (p q : Part) (skips : List (Option Skipped))

theorem getElem?_cut (i : Nat) : (p.cut skips).definition.properties[i]? =
    p.definition.properties[i]?.map fun d => d.cutBefore skips[i]?.join :=
  List.getElem?_mapIdx

/-- Cuts change neither the names nor the types of the properties. -/
theorem map_cut : (p.cut skips).definition.properties.map (fun d => (d.name, d.type)) =
    p.definition.properties.map fun d => (d.name, d.type) := by
  refine List.ext_getElem? fun i => ?_
  rw [List.getElem?_map, List.getElem?_map, getElem?_cut, Option.map_map]
  simp [Function.comp_def]

theorem map_type_findProperty?_cut (name : String) :
    (findProperty? (p.cut skips).definition.properties name).map PropertyDefinition.type =
      (findProperty? p.definition.properties name).map PropertyDefinition.type := by
  rw [map_type_findProperty?, map_type_findProperty?, map_cut]

/-- Cuts do not matter to expressions. -/
theorem evaluate_cut (property : Option String) (expression : String) :
    evaluate library ctx ((p.cut skips).scope property) expression =
      evaluate library ctx (p.scope property) expression :=
  evaluate_congr rfl rfl (Expression.bind?_congr rfl (map_type_findProperty?_cut p skips))

theorem store_cut (name value : String) :
    (p.cut skips).store name value = (p.store name value).cut skips := by
  have hsome : ((p.cut skips).definition.property? name).isSome =
      (p.definition.property? name).isSome := by
    have h := congrArg Option.isSome (map_type_findProperty?_cut p skips name)
    simpa [WebPartDefinition.property?] using h
  simp only [store, WebPartDefinition.declare, hsome]
  split
  · rfl
  · simp [cut, List.mapIdx_concat, PropertyDefinition.cutBefore_of_functions_eq_none]

theorem merge_cut (name : String) (output : Output) :
    (p.cut skips).merge name output = (p.merge name output).cut skips := by
  cases output with
  | text value => exact store_cut p skips name value
  | bool value => exact store_cut p skips name (boolText value)
  | nothing => rfl
  | map values =>
      simp only [merge]
      induction values generalizing p with
      | nil => rfl
      | cons v values ih => rw [List.foldl_cons, store_cut, ih, List.foldl_cons]

/-- **Expressions of a cut part.** Expressions do to a part with cut chains what they do to the
part. -/
theorem runExpressions_cut (property : Option String) (xs : List String) (s : RunState) :
    runExpressions library ctx property xs (p.cut skips) s =
      match runExpressions library ctx property xs p s with
      | ((q, result), t) => ((q.cut skips, result), t) := by
  induction xs generalizing p s with
  | nil => rfl
  | cons x rest ih =>
      rcases hx : evaluate library ctx (p.scope property) x s with ⟨e | ⟨call, output⟩, t⟩
      · rw [runExpressions_cons_of_error hx,
          runExpressions_cons_of_error (by rw [evaluate_cut]; exact hx)]
      · rw [runExpressions_cons_of_ok hx,
          runExpressions_cons_of_ok (by rw [evaluate_cut]; exact hx), merge_cut, ih]

theorem runSelector_cut (selector : String) :
    runSelector library ctx selector (p.cut skips) = runSelector library ctx selector p := by
  rw [runSelector, evaluate_cut, runSelector]

/-! ### Skipped expressions -/

variable {p q} {s t : RunState}

/-- **A skipped expression.** Expressions up to one that is skipped do what the ones before it do.
An equal expression does not come earlier, since that one would have been run. -/
theorem runExpressions_eq_some {property : Option String} {xs : List String} {skip : Skipped}
    (h : runExpressions library ctx property xs p s = ((q, .ok (some skip)), t)) :
    skip.property = property ∧ skip.expression ∈ xs ∧ skip.error.isChainLocal = true ∧
      ¬ Runnable library (q.scope property) skip.expression ∧
      runExpressions library ctx property (xs.takeWhile (· ≠ skip.expression)) p s =
        ((q, .ok none), t) := by
  induction xs generalizing p s with
  | nil => cases h
  | cons x rest ih =>
      rcases hx : evaluate library ctx (p.scope property) x s with ⟨e | ⟨call, output⟩, u⟩
      · rw [runExpressions_cons_of_error hx] at h
        obtain ⟨rfl, ⟨hlocal, hn⟩ | ⟨hlocal, -⟩⟩ := evaluate_eq_error hx
        · rw [hlocal] at h
          cases h
          exact ⟨rfl, List.mem_cons_self, hlocal, hn, by simp [runExpressions_nil]⟩
        · rw [hlocal] at h
          cases h
      · rw [runExpressions_cons_of_ok hx] at h
        have hreach := (reaches_merge p call.output output).trans
          (reaches_runExpressions library ctx property rest _ u)
        rw [h] at hreach
        obtain ⟨hproperty, hmem, hlocal, hn, hrun⟩ := ih h
        have hne : x ≠ skip.expression := fun he =>
          hn (he ▸ hreach.runnable (runnable_of_evaluate_eq_ok hx))
        refine ⟨hproperty, List.mem_cons_of_mem x hmem, hlocal, hn, ?_⟩
        rw [List.takeWhile_cons_of_pos (by simpa using hne), runExpressions_cons_of_ok hx, hrun]

/-- A chain that was cut before what was skipped of it is run to its end. -/
theorem runExpressions_cutBefore {d : PropertyDefinition} {chain : String}
    (hc : d.chain? = some chain) {skip : Option Skipped}
    (h : runChain library ctx (some d.name) chain p s = ((q, .ok skip), t)) :
    runExpressions library ctx (some d.name)
        (((d.cutBefore skip).chain?.map Expression.splitChain).getD []) p s =
      ((q, .ok none), t) := by
  cases skip with
  | none => simpa [hc, runChain] using h
  | some skip =>
      obtain ⟨-, hmem, -, -, hrun⟩ := runExpressions_eq_some h
      rwa [PropertyDefinition.splitChain_cutBefore hc (Expression.ne_empty_of_mem_splitChain hmem)]

/-! ### Walks along cut chains -/

/-- Each visit of a walk skips at most one expression, of the property that it visits. -/
theorem Walk.skips_spec {i : Nat} {ran : List (String × String)} {skips : List (Option Skipped)}
    (h : Walk library ctx i p s ran skips q t) {j : Nat} {skip : Skipped}
    (hj : skips[j]? = some (some skip)) :
    ∃ d, p.definition.properties[i + j]? = some d ∧ d.Skips skip := by
  induction h generalizing j with
  | stop => simp at hj
  | @pass i p s d ran skips q t hd hc _ ih =>
      cases j with
      | zero => simp at hj
      | succ j =>
          obtain ⟨d', hd', hs⟩ := ih hj
          exact ⟨d', by rwa [Nat.add_right_comm] at hd', hs⟩
  | @run i p s d chain r skip' u ran skips q t hd hc hr _ ih =>
      cases j with
      | zero =>
          obtain rfl : skip' = some skip := by simpa using hj
          obtain ⟨hproperty, hmem, hlocal, -⟩ := runExpressions_eq_some hr
          exact ⟨d, hd, .of_mem_splitChain hc hproperty hmem hlocal⟩
      | succ j =>
          obtain ⟨d', hd', hs⟩ := ih hj
          obtain ⟨chain', hc', -⟩ := hs.expression
          rw [Nat.add_right_comm] at hd'
          exact ⟨d', (reaches_of_runChain hr).getElem?_of_chain? hd' hc', hs⟩

/-- A walk visits all properties, those that were made on the way too. -/
theorem Walk.length_skips {i : Nat} {ran : List (String × String)} {skips : List (Option Skipped)}
    (h : Walk library ctx i p s ran skips q t) (hi : i ≤ p.definition.properties.length) :
    i + skips.length = q.definition.properties.length := by
  induction h with
  | stop hd => exact Nat.le_antisymm hi (List.getElem?_eq_none_iff.mp hd)
  | pass hd _ _ ih =>
      obtain ⟨hlt, -⟩ := List.getElem?_eq_some_iff.mp hd
      rw [List.length_cons, ← ih hlt]
      omega
  | @run i p s d chain r skip u ran skips q t hd hc hr _ ih =>
      obtain ⟨hlt, -⟩ := List.getElem?_eq_some_iff.mp hd
      have hle := (reaches_of_runChain hr).length_le
      rw [List.length_cons, ← ih (Nat.lt_of_lt_of_le hlt hle)]
      omega

/-- **Walks along cut chains.** Where the chains are cut before what a walk has skipped, the walk
is the same and skips nothing. -/
theorem Walk.cut {i : Nat} {ran : List (String × String)} {skips σ : List (Option Skipped)}
    (h : Walk library ctx i p s ran skips q t) (hσ : σ.drop i = skips) :
    ∃ ran', Walk library ctx i (p.cut σ) s ran' (skips.map fun _ => none) (q.cut σ) t := by
  have hhead {i : Nat} {skip : Option Skipped} {rest : List (Option Skipped)}
      (h : σ.drop i = skip :: rest) : σ[i]?.join = skip ∧ σ.drop (i + 1) = rest := by
    have hi := congrArg List.head? h
    rw [List.head?_drop] at hi
    exact ⟨by simp [hi], by rw [← List.drop_drop, h]; rfl⟩
  induction h with
  | stop hi => exact ⟨[], .stop (by rw [getElem?_cut, hi]; rfl)⟩
  | @pass i p s d ran skips q t hd hc _ ih =>
      obtain ⟨hnone, hrest⟩ := hhead hσ
      obtain ⟨ran', hw⟩ := ih hrest
      exact ⟨ran', .pass (by rw [getElem?_cut, hd, hnone]; rfl) hc hw⟩
  | @run i p s d chain r skip u ran skips q t hd hc hr _ ih =>
      obtain ⟨hskip, hrest⟩ := hhead hσ
      obtain ⟨ran', hw⟩ := ih hrest
      have hd' : (p.cut σ).definition.properties[i]? = some (d.cutBefore skip) := by
        rw [getElem?_cut, hd, hskip]
        rfl
      have hrun := runExpressions_cutBefore hc hr
      have hcut : runExpressions library ctx (some d.name)
          (((d.cutBefore skip).chain?.map Expression.splitChain).getD []) (p.cut σ) s =
            ((r.cut σ, .ok none), u) := by
        rw [runExpressions_cut, hrun]
      cases hc' : (d.cutBefore skip).chain? with
      | none =>
          -- nothing is left of the chain, so the property is passed
          rw [hc'] at hrun
          cases hrun
          exact ⟨ran', .pass hd' hc' hw⟩
      | some chain' =>
          rw [hc'] at hcut
          exact ⟨_, .run hd' hc' (by rwa [PropertyDefinition.cutBefore_name]) hw⟩

/-! ### Whole transformations -/

/-- **Confinement of failures.** A transformation fails only if an expression breaks a rule or the
selector yields several values.  Otherwise at most one expression is skipped at each visit of a
property, in the order of the visits, and at last perhaps the selector.  The part with its chains
cut before these expressions is then transformed with the same outcome, and no chain of it is
skipped. -/
theorem process_confined (library : Library) (ctx : Context) (p : Part) (s : RunState) :
    match p.process library ctx s with
    | ((q, .error e), _) => p.Fatal library ctx q e
    | ((q, .ok outcome), t) => ∃ (skips : List (Option Skipped)) (more : Option Skipped),
        outcome.skipped = skips.filterMap id ++ more.toList ∧
        skips.length = q.definition.properties.length ∧
        (∀ (i : Nat) (skip : Skipped), skips[i]? = some (some skip) →
          ∃ d : PropertyDefinition, p.definition.properties[i]? = some d ∧ d.Skips skip) ∧
        (∀ skip ∈ more, p.definition.SkipsSelector skip ∧ outcome.selector = none) ∧
        (p.cut skips).process library ctx s =
          ((q.cut skips, .ok { outcome with skipped := more.toList }), t) := by
  rcases h : p.process library ctx s with ⟨⟨q, e | outcome⟩, t⟩
  · exact fatal_of_process_eq_error h
  rcases hr : runProperties library ctx 0 p s with ⟨⟨r, e | skipped⟩, u⟩
  · cases (process_of_error hr).symm.trans h
  obtain ⟨ran, skips, hw, rfl⟩ := exists_walk hr
  have hspec (i : Nat) (skip : Skipped) (hi : skips[i]? = some (some skip)) :
      ∃ d : PropertyDefinition, p.definition.properties[i]? = some d ∧ d.Skips skip := by
    simpa using hw.skips_spec hi
  have hlength : skips.length = r.definition.properties.length := by
    simpa using hw.length_skips (Nat.zero_le _)
  have hcut : runProperties library ctx 0 (p.cut skips) s = ((r.cut skips, .ok []), u) := by
    obtain ⟨ran', hwcut⟩ := hw.cut (show skips.drop 0 = skips from rfl)
    rw [hwcut.runProperties_eq]
    simp
  have hreach := reaches_of_runProperties hr
  cases hs : r.definition.selector? with
  | none =>
      cases (process_of_no_selector hr hs).symm.trans h
      refine ⟨skips, none, by simp, hlength, hspec, by simp, ?_⟩
      rw [process_of_no_selector hcut hs]
      rfl
  | some selector =>
      rcases hsel : runSelector library ctx selector r u with ⟨e | ⟨value, more⟩, u'⟩
      · cases (process_of_selector hr hs hsel).symm.trans h
      have hsel' : runSelector library ctx selector (r.cut skips) u = (.ok (value, more), u') := by
        rw [runSelector_cut, hsel]
      cases (process_of_selector hr hs hsel).symm.trans h
      refine ⟨skips, more, rfl, hlength, hspec, fun skip hskip => ?_, ?_⟩
      · obtain rfl : more = some skip := hskip
        obtain ⟨rfl, hproperty, hexpression, hlocal⟩ := runSelector_eq_some hsel
        exact ⟨⟨hproperty, by rw [← hreach.selector?, hs, hexpression],
          CallError.isChainLocal_iff.mp hlocal⟩, rfl⟩
      · rw [process_of_selector hcut hs hsel']
        rfl

end Part

end PageMigration
