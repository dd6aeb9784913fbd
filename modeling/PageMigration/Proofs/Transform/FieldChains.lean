import PageMigration.Proofs.Expression.ChainParts
import PageMigration.Proofs.Transform.ChainSequence
import PageMigration.Proofs.Transform.DeclaredTypes
import PageMigration.Site.Snapshot
import PageMigration.Transform.Field

/-!
# Chains of fields as chains of properties

The chain of a field refers to all properties of its unit, which are listed anew before each
expression.  A part whose definition declares the properties of its unit as strings goes on
declaring them while values are stored, so the same chain does the same to it.

## Main definitions

* `Part.DeclaresBag` : the parts that declare the properties of their units as strings.

## Main results

* `Part.DeclaresBag.store` : a stored value keeps this so.
* `Part.DeclaresBag.runFieldExpressions` : expressions of a field, said of a part.
* `ContentUnit.processField_eq_process` : the chain of a field does what a transformation does.
-/

namespace PageMigration

/-! ### Declared properties -/

theorem PropertyBag.contains_set (bag : PropertyBag) (name value key : String) :
    (bag.set name value).contains key = (bag.contains key || Text.sameName name key) := by
  rw [Bool.eq_iff_iff, Bool.or_eq_true]
  constructor
  · intro h
    obtain ⟨k, hk, hs⟩ := contains_iff.mp h
    rw [names_set] at hk
    split at hk
    · exact Or.inl (contains_iff.mpr ⟨k, hk, hs⟩)
    · rcases List.mem_append.mp hk with hk | hk
      · exact Or.inl (contains_iff.mpr ⟨k, hk, hs⟩)
      · exact Or.inr (by rwa [List.mem_singleton.mp hk] at hs)
  · rintro (h | h)
    · exact contains_set_of_contains value h
    · obtain ⟨k, hk, hs⟩ := contains_iff.mp (contains_set_self bag name value)
      exact contains_iff.mpr ⟨k, hk, Text.sameName_trans hs h⟩

/-- The names of a unit are declared as strings. -/
theorem ContentUnit.declaredType?_declaredProperties (unit : ContentUnit) (name : String) :
    declaredType? unit.declaredProperties name =
      if unit.properties.contains name then some .string else none := by
  have hstrings : ∀ d ∈ unit.declaredProperties, d.typeName = "string" := by
    intro d hd
    obtain ⟨entry, -, rfl⟩ := List.mem_map.mp hd
    rfl
  have hnames : (∃ d ∈ unit.declaredProperties, Text.sameName d.name name) ↔
      unit.properties.contains name := by
    rw [PropertyBag.contains_iff, PropertyBag.names]
    constructor
    · rintro ⟨d, hd, hs⟩
      obtain ⟨entry, hentry, rfl⟩ := List.mem_map.mp hd
      exact ⟨entry.1, List.mem_map_of_mem (List.mem_mergeSort.mp hentry), hs⟩
    · rintro ⟨key, hkey, hs⟩
      obtain ⟨entry, hentry, rfl⟩ := List.mem_map.mp hkey
      exact ⟨{ name := entry.1 }, List.mem_map.mpr ⟨entry, List.mem_mergeSort.mpr hentry, rfl⟩, hs⟩
  rw [declaredType?_of_strings hstrings]
  simp only [hnames]

namespace Part

/-- The parts that declare the properties of their units, and these alone, as strings. -/
def DeclaresBag (p : Part) : Prop :=
  ∀ name, declaredType? p.definition.properties name =
    if p.unit.properties.contains name then some .string else none

namespace DeclaresBag

variable {p : Part}

/-- A stored value is declared as a string. -/
theorem store (h : p.DeclaresBag) (name value : String) : (p.store name value).DeclaresBag := by
  intro key
  simp only [Part.store, declaredType?_declare, PropertyBag.contains_set, h key]
  cases p.unit.properties.contains key <;> simp

end DeclaresBag

theorem Reaches.declaresBag {p q : Part} (h : p.Reaches q) (hp : p.DeclaresBag) :
    q.DeclaresBag := by
  induction h with
  | refl => exact hp
  | store name value _ ih => exact ih.store name value

theorem unit_foldl_store (values : List (String × String)) (p : Part) :
    (values.foldl (fun p (name, value) => p.store name value) p).unit =
      values.foldl (fun u (name, value) => u.store name value) p.unit := by
  induction values generalizing p with
  | nil => rfl
  | cons v values ih => exact ih (p.store v.1 v.2)

/-- A part and its unit alone are given the same values. -/
theorem unit_merge (p : Part) (name : String) (output : Output) :
    (p.merge name output).unit = (p.unit.merge name output).1 := by
  cases output with
  | text value => rfl
  | bool value => rfl
  | map values => exact unit_foldl_store values p
  | nothing => rfl

/-! ### Runs -/

variable {p : Part}

/-- An expression of a field means what it means for a part. -/
theorem DeclaresBag.evaluate (h : p.DeclaresBag) (ctx : Context) (field expression : String) :
    evaluate .publishing ctx
        { property := some field, declared := p.unit.declaredProperties, unit := p.unit }
        expression =
      PageMigration.evaluate .publishing ctx (p.scope (some field)) expression :=
  evaluate_congr rfl rfl <| Expression.bind?_congr rfl fun name =>
    (p.unit.declaredType?_declaredProperties name).trans (h name).symm

/-- **Expressions of a field.** They leave the unit of a part and the state of the run as they do
where they are run for a property of the part, and they fail in the same way. -/
theorem DeclaresBag.runFieldExpressions (h : p.DeclaresBag) (ctx : Context) (field : String)
    (last : Option (String × String)) (xs : List String) (s : RunState) :
    let run := p.unit.runFieldExpressions ctx field last xs s
    let run' := runExpressions .publishing ctx (some field) xs p s
    run.1.1 = run'.1.1.unit ∧ run.2 = run'.2 ∧ ∀ e, run.1.2 = .error e ↔ run'.1.2 = .error e := by
  induction xs generalizing p last s with
  | nil => exact ⟨rfl, rfl, fun e => by constructor <;> intro he <;> cases he⟩
  | cons x rest ih =>
      have heval := h.evaluate ctx field x
      rcases hx : PageMigration.evaluate .publishing ctx (p.scope (some field)) x s with
        ⟨error | ⟨call, output⟩, t⟩
      · rw [runExpressions_cons_of_error hx,
          ContentUnit.runFieldExpressions_cons_of_error (by rw [heval, hx])]
        refine ⟨rfl, rfl, fun e => ?_⟩
        cases error.isChainLocal <;> simp
      · rw [runExpressions_cons_of_ok hx,
          ContentUnit.runFieldExpressions_cons_of_ok (by rw [heval, hx]), ← unit_merge]
        exact ih ((reaches_merge p call.output output).declaresBag h) _ t

end Part

/-! ### Fields and definitions -/

namespace ContentUnit

/-- The properties of a definition for the chain of a field: the names of a bag as strings, of
which the one that matches the field has its spelling and the chain. -/
def fieldProperties (bag : PropertyBag) (field chain : String) : List PropertyDefinition :=
  bag.names.map fun name =>
    if Text.sameName name field then { name := field, functions := some chain } else { name }

section FieldProperties

variable {bag : PropertyBag} {field chain : String}

theorem of_mem_fieldProperties {d : PropertyDefinition} (h : d ∈ fieldProperties bag field chain) :
    d.typeName = "string" ∧ ∃ name ∈ bag.names, Text.sameName name d.name := by
  obtain ⟨name, hname, rfl⟩ := List.mem_map.mp h
  split
  · next hs => exact ⟨rfl, name, hname, hs⟩
  · exact ⟨rfl, name, hname, Text.sameName_self name⟩

theorem exists_mem_fieldProperties {name : String} (h : name ∈ bag.names) :
    ∃ d ∈ fieldProperties bag field chain, Text.sameName d.name name := by
  refine ⟨_, List.mem_map_of_mem h, ?_⟩
  split
  · next hs => rwa [Text.sameName_comm]
  · exact Text.sameName_self name

/-- The one chain among these properties is that of the field, unless it is blank. -/
theorem chainsOf_fieldProperties
    (hnames : bag.names.Pairwise fun a b => Text.sameName a b = false)
    (hfield : bag.contains field) :
    chainsOf (fieldProperties bag field chain) =
      ((Text.nonblank? chain).map fun chain => (field, chain)).toList := by
  obtain ⟨key, hkey, hs⟩ := PropertyBag.contains_iff.mp hfield
  obtain ⟨before, after, hsplit⟩ := List.append_of_mem hkey
  have hother {names : List String} (h : ∀ name ∈ names, Text.sameName name key = false) :
      chainsOf (names.map fun name => if Text.sameName name field
        then { name := field, functions := some chain } else { name }) = [] := by
    refine chainsOf_eq_nil fun d hd => ?_
    obtain ⟨name, hname, rfl⟩ := List.mem_map.mp hd
    have hne : Text.sameName name field = false := by
      rw [Bool.eq_false_iff]
      intro hname'
      have := Text.sameName_trans hname' (by rwa [Text.sameName_comm] at hs)
      simp [h name hname] at this
    simp [hne, PropertyDefinition.chain?]
  rw [hsplit, List.pairwise_append, List.pairwise_cons] at hnames
  obtain ⟨-, ⟨hafter, -⟩, hbefore⟩ := hnames
  rw [fieldProperties, hsplit, List.map_append, chainsOf_append,
    hother fun name hname => hbefore name hname key List.mem_cons_self, List.map_cons, if_pos hs,
    ← List.singleton_append, chainsOf_append, hother fun name hname => by
      rw [Text.sameName_comm]
      exact hafter name hname]
  cases hc : Text.nonblank? chain <;> simp [chainsOf, PropertyDefinition.chain?, hc]

/-- A definition with these properties declares the bag. -/
theorem declaresBag_of_perm {definition : WebPartDefinition} {unit : ContentUnit}
    (h : definition.properties.Perm (fieldProperties unit.properties field chain)) :
    Part.DeclaresBag ⟨definition, unit⟩ := by
  intro name
  have hnames : (∃ d ∈ definition.properties, Text.sameName d.name name) ↔
      unit.properties.contains name := by
    rw [PropertyBag.contains_iff]
    constructor
    · rintro ⟨d, hd, hs⟩
      obtain ⟨-, key, hkey, hk⟩ := of_mem_fieldProperties (h.mem_iff.mp hd)
      exact ⟨key, hkey, Text.sameName_trans hk hs⟩
    · rintro ⟨key, hkey, hs⟩
      obtain ⟨d, hd, hk⟩ := exists_mem_fieldProperties hkey
      exact ⟨d, h.mem_iff.mpr hd, Text.sameName_trans hk hs⟩
  rw [declaredType?_of_strings fun d hd => (of_mem_fieldProperties (h.mem_iff.mp hd)).1]
  simp only [hnames]

end FieldProperties

/-- **Fields and parts.** Where no two names in the bag of a unit are the same up to case, the chain
of a field that the bag holds leaves the unit, the folder and the caches as they are left by the
transformation with a definition that declares the names of the bag as strings, in any order, and
has the chain at the name of the field and no selector.  It also fails in the same way. -/
theorem processField_eq_process (ctx : Context) (unit : ContentUnit) (field chain : String)
    (definition : WebPartDefinition) (s : RunState)
    (hnames : unit.properties.names.Pairwise fun a b => Text.sameName a b = false)
    (hfield : unit.properties.contains field) (hmappings : definition.mappings = none)
    (hproperties : definition.properties.Perm (fieldProperties unit.properties field chain)) :
    let run := unit.processField ctx field chain s
    let run' := Part.process .publishing ctx ⟨definition, unit⟩ s
    run.1.1 = run'.1.1.unit ∧ run.2 = run'.2 ∧ ∀ e, run.1.2 = .error e ↔ run'.1.2 = .error e := by
  have hdeclares : Part.DeclaresBag ⟨definition, unit⟩ := declaresBag_of_perm hproperties
  have hchains : definition.chains = ((Text.nonblank? chain).map (field, ·)).toList := by
    have hperm := hproperties.filterMap fun d => d.chain?.map fun chain => (d.name, chain)
    rw [← chainsOf, ← chainsOf, chainsOf_fieldProperties hnames hfield] at hperm
    rw [WebPartDefinition.chains]
    cases hc : Text.nonblank? chain with
    | none => exact List.perm_nil.mp (by simpa [hc] using hperm)
    | some c => exact List.perm_singleton.mp (by simpa [hc] using hperm)
  have hselector : definition.selector? = none := by
    rw [WebPartDefinition.selector?, hmappings]
    rfl
  cases hc : Text.nonblank? chain with
  | none =>
      have hsplit : Expression.splitChain chain = [] := by
        rw [Expression.splitChain_eq_of_nonblank?, hc]
        rfl
      rw [processField, hsplit, Part.process_of_chains_eq_nil hselector (by rw [hchains, hc]; rfl)]
      exact ⟨rfl, rfl, fun e => by constructor <;> intro he <;> cases he⟩
  | some c =>
      have hsplit : Expression.splitChain chain = Expression.splitChain c := by
        rw [Expression.splitChain_eq_of_nonblank?, hc]
        rfl
      have hrun := hdeclares.runFieldExpressions ctx field none (Expression.splitChain c) s
      rw [processField, hsplit,
        Part.process_of_chains_eq_singleton hselector (by rw [hchains, hc]; rfl), Part.runChain]
      generalize Part.runExpressions .publishing ctx (some field) (Expression.splitChain c)
        ⟨definition, unit⟩ s = run at hrun ⊢
      obtain ⟨⟨q, result⟩, t⟩ := run
      obtain ⟨hunit, hstate, hfails⟩ := hrun
      refine ⟨hunit, hstate, fun e => (hfails e).trans ?_⟩
      cases result <;> simp [Except.map]

/-- A value that the chain makes is used by its next expression, and a name that the page does not
have ends the chain. -/
theorem processField_eq_process_of_made_value :
    let ctx : Context := { source := (Snapshot.ofUrl "https://contoso.sharepoint.com").source }
    let unit : ContentUnit := { typeName := "Page", properties := ⟨[("A", "x"), ("B", "y")]⟩ }
    let chain := "\x7bC\x7d = StaticString(a); StaticString(c); ToDate(z)"
    let definition : WebPartDefinition :=
      { typeName := "Fields"
        properties := [{ name := "b", functions := some chain }, { name := "A" }] }
    unit.properties.names.Pairwise (fun a b => Text.sameName a b = false) ∧
      unit.properties.contains "b" ∧
      definition.properties.Perm (fieldProperties unit.properties "b" chain) ∧
      (unit.processField ctx "b" chain (ctx.start {})).1.1 =
        (Part.process .publishing ctx ⟨definition, unit⟩ (ctx.start {})).1.1.unit ∧
      (Part.process .publishing ctx ⟨definition, unit⟩
          (ctx.start {})).1.1.unit.properties.entries = [("A", "x"), ("B", "x"), ("C", "x")] := by
  intro ctx unit chain definition
  have hnames : unit.properties.names.Pairwise fun a b => Text.sameName a b = false := by decide
  have hfield : unit.properties.contains "b" := by decide
  have hperm : definition.properties.Perm (fieldProperties unit.properties "b" chain) := by decide
  obtain ⟨hunit, -⟩ := processField_eq_process ctx unit "b" chain definition (ctx.start {})
    hnames hfield rfl hperm
  refine ⟨hnames, hfield, hperm, hunit, ?_⟩
  rw [Part.process_eq_runChains]
  decide +kernel

end ContentUnit

end PageMigration
