import PageMigration.Proofs.Transform.Walk

/-!
# What the transformation of a part leaves alone

While a part is transformed its definition and its bag grow together.  The definition keeps its
properties and gains strings without functions, each under a name that is new up to case and for
which the bag holds a value.  The bag keeps its names, and whatever is new or changed in it is
declared.  All this is true whether the transformation succeeds or fails, since every step of it
stores one value.

## Main definitions

* `Part.Grows` : what a part and the part that it becomes have to do with each other.
* `Part.Selects` : what is left to do after the walk along the properties.

## Main results

* `Part.Reaches.grows` : storing values makes a part grow.
* `Part.exists_walk_of_process` : a transformation that succeeds is a walk and then a selection.
* `Part.process_grows` : the transformation makes a part grow, and runs the chains with which the
  part begins.
-/

namespace PageMigration

namespace Part

/-- `p.Grows q` says that `q` is `p` with properties made on the way. -/
structure Grows (p q : Part) : Prop where
  typeName : q.definition.typeName = p.definition.typeName
  mappings : q.definition.mappings = p.definition.mappings
  unitTypeName : q.unit.typeName = p.unit.typeName
  unitKind : q.unit.kind = p.unit.kind
  /-- The properties stay at the front, and what follows them are strings without functions for
  which the bag holds values. -/
  properties : ∃ made, q.definition.properties = p.definition.properties ++ made ∧
    ∀ d ∈ made, d.typeName = "string" ∧ d.functions = none ∧ q.unit.properties.contains d.name
  /-- The name of a property that was made differs from those before it by more than case. -/
  fresh : ∀ before d after, q.definition.properties = before ++ d :: after →
    p.definition.properties.length ≤ before.length →
    ∀ e ∈ before, Text.sameName e.name d.name = false
  /-- The names stay in the bag, in their places. -/
  kept : p.unit.properties.names <+: q.unit.properties.names
  /-- What is new or changed in the bag is declared. -/
  declared : ∀ (i : Nat) (entry : String × String), q.unit.properties.entries[i]? = some entry →
    p.unit.properties.entries[i]? = some entry ∨
      ∃ d ∈ q.definition.properties, Text.sameName d.name entry.1

theorem Grows.refl (p : Part) : p.Grows p where
  typeName := rfl
  mappings := rfl
  unitTypeName := rfl
  unitKind := rfl
  properties := ⟨[], by simp⟩
  fresh before d after h hle := by
    have := congrArg List.length h
    simp at this
    omega
  kept := List.prefix_rfl
  declared _ _ h := Or.inl h

end Part

/-! ### One value -/

namespace WebPartDefinition

/-- A declaration adds one property, under a new name, or nothing at all. -/
theorem declare_eq_or (d : WebPartDefinition) (name : String) :
    ((∃ e ∈ d.properties, Text.sameName e.name name) ∧ d.declare name = d) ∨
      ((∀ e ∈ d.properties, Text.sameName e.name name = false) ∧
        d.declare name = { d with properties := d.properties ++ [{ name }] }) := by
  by_cases h : (d.property? name).isSome
  · exact Or.inl ⟨findProperty?_isSome_iff.mp h, by simp [declare, h]⟩
  · refine Or.inr ⟨fun e he => ?_, by simp [declare, h]⟩
    rw [Bool.eq_false_iff]
    exact fun hs => h (findProperty?_isSome_iff.mpr ⟨e, he, hs⟩)

/-- A declared name is declared. -/
theorem exists_mem_declare (d : WebPartDefinition) (name : String) :
    ∃ e ∈ (d.declare name).properties, Text.sameName e.name name := by
  rcases d.declare_eq_or name with ⟨h, heq⟩ | ⟨-, heq⟩
  · rwa [heq]
  · exact ⟨{ name := name }, by simp [heq], Text.sameName_self name⟩

theorem mem_declare_of_mem {d : WebPartDefinition} (name : String) {e : PropertyDefinition}
    (h : e ∈ d.properties) : e ∈ (d.declare name).properties := by
  rcases d.declare_eq_or name with ⟨-, heq⟩ | ⟨-, heq⟩
  · rwa [heq]
  · simp [heq, h]

end WebPartDefinition

namespace PropertyBag

variable {bag : PropertyBag} {name : String}

theorem names_prefix_names_set (bag : PropertyBag) (name value : String) :
    bag.names <+: (bag.set name value).names := by
  rw [names_set]
  split
  · exact List.prefix_rfl
  · exact List.prefix_append ..

theorem contains_set_of_contains (value : String) {key : String} (h : bag.contains key) :
    (bag.set name value).contains key := by
  obtain ⟨k, hk, hs⟩ := contains_iff.mp h
  exact contains_iff.mpr ⟨k, (names_prefix_names_set bag name value).subset hk, hs⟩

theorem contains_set_self (bag : PropertyBag) (name value : String) :
    (bag.set name value).contains name := by
  by_cases h : bag.contains name
  · exact contains_set_of_contains value h
  · refine contains_iff.mpr ⟨name, ?_, Text.sameName_self name⟩
    rw [names_set, if_neg h]
    simp

end PropertyBag

namespace Part

variable {p q : Part}

/-- One stored value keeps all that growth says. -/
theorem Grows.store (h : p.Grows q) (name value : String) : p.Grows (q.store name value) where
  typeName := by
    rcases q.definition.declare_eq_or name with ⟨-, heq⟩ | ⟨-, heq⟩ <;>
      simpa [Part.store, heq] using h.typeName
  mappings := by
    rcases q.definition.declare_eq_or name with ⟨-, heq⟩ | ⟨-, heq⟩ <;>
      simpa [Part.store, heq] using h.mappings
  unitTypeName := h.unitTypeName
  unitKind := h.unitKind
  properties := by
    obtain ⟨made, hq, hmade⟩ := h.properties
    have hold : ∀ d ∈ made, d.typeName = "string" ∧ d.functions = none ∧
        (q.store name value).unit.properties.contains d.name := fun d hd =>
      ⟨(hmade d hd).1, (hmade d hd).2.1,
        PropertyBag.contains_set_of_contains value (hmade d hd).2.2⟩
    rcases q.definition.declare_eq_or name with ⟨-, heq⟩ | ⟨-, heq⟩
    · exact ⟨made, by simp [Part.store, heq, hq], hold⟩
    · refine ⟨made ++ [{ name := name }], by simp [Part.store, heq, hq], fun d hd => ?_⟩
      rcases List.mem_append.mp hd with hd | hd
      · exact hold d hd
      · rw [List.mem_singleton.mp hd]
        exact ⟨rfl, rfl, PropertyBag.contains_set_self q.unit.properties name value⟩
  fresh before d after hsplit hle e he := by
    rcases q.definition.declare_eq_or name with ⟨-, heq⟩ | ⟨hnew, heq⟩
    · exact h.fresh before d after (by simpa [Part.store, heq] using hsplit) hle e he
    · have hsplit : q.definition.properties ++ [{ name := name }] = before ++ d :: after := by
        simpa [Part.store, heq] using hsplit
      rcases List.eq_nil_or_concat after with rfl | ⟨after, x, rfl⟩
      · obtain ⟨rfl, hd⟩ := List.append_inj' hsplit rfl
        obtain rfl := (List.singleton_inj.mp hd).symm
        exact hnew e he
      · have hq : q.definition.properties = before ++ d :: after :=
          (List.append_inj' (hsplit.trans (by simp [List.concat_eq_append]) :
            _ = (before ++ d :: after) ++ [x]) rfl).1
        exact h.fresh before d after hq hle e he
  kept := h.kept.trans (PropertyBag.names_prefix_names_set q.unit.properties name value)
  declared i entry hentry := by
    rcases PropertyBag.getElem?_set hentry with hold | hsame
    · refine (h.declared i entry hold).imp_right ?_
      rintro ⟨d, hd, hs⟩
      exact ⟨d, WebPartDefinition.mem_declare_of_mem name hd, hs⟩
    · obtain ⟨d, hd, hs⟩ := q.definition.exists_mem_declare name
      exact Or.inr ⟨d, hd, Text.sameName_trans hs (by rwa [Text.sameName_comm])⟩

/-- Storing values makes a part grow. -/
theorem Reaches.grows (h : p.Reaches q) : p.Grows q := by
  induction h with
  | refl => exact .refl p
  | store name value _ ih => exact ih.store name value

/-! ### Whole transformations -/

/-- `Selects library ctx q t skipped outcome u` says that `outcome`, in the state `u`, is what comes
of a part `q` that the walk has reached in the state `t`, where it has skipped the expressions
`skipped`: the selector is run, if there is one, and may be skipped as well. -/
def Selects (library : Library) (ctx : Context) (q : Part) (t : RunState) (skipped : List Skipped)
    (outcome : Outcome) (u : RunState) : Prop :=
  match q.definition.selector? with
  | none => outcome = { skipped } ∧ u = t
  | some selector => ∃ more,
      runSelector library ctx selector q t = (.ok (outcome.selector, more), u) ∧
        outcome.skipped = skipped ++ more.toList

/-- A transformation that succeeds is a walk along the properties and then a selection. -/
theorem exists_walk_of_process {library : Library} {ctx : Context} {s u : RunState}
    {outcome : Outcome} (h : p.process library ctx s = ((q, .ok outcome), u)) :
    ∃ skips t, Walk library ctx 0 p s p.definition.chains skips q t ∧
      Selects library ctx q t (skips.filterMap id) outcome u := by
  rcases hr : runProperties library ctx 0 p s with ⟨⟨r, e | skipped⟩, t⟩
  · cases (process_of_error hr).symm.trans h
  obtain ⟨ran, skips, hw, rfl⟩ := exists_walk hr
  rw [hw.ran_eq_chains] at hw
  cases hs : r.definition.selector? with
  | none =>
      cases (process_of_no_selector hr hs).symm.trans h
      refine ⟨skips, u, hw, ?_⟩
      rw [Selects, hs]
      exact ⟨rfl, rfl⟩
  | some selector =>
      rcases hsel : runSelector library ctx selector r t with ⟨e | ⟨value, more⟩, t'⟩
      · cases (process_of_selector hr hs hsel).symm.trans h
      cases (process_of_selector hr hs hsel).symm.trans h
      refine ⟨skips, t, hw, ?_⟩
      rw [Selects, hs]
      exact ⟨more, hsel, rfl⟩

/-- **Growth of a part.** Whether its transformation succeeds or fails, a part only grows.  Where
it succeeds, the walk along the list of properties has come to its end with the part that comes
back, and what is skipped and the state afterwards are those of the walk and of the selector that
is run then.  Any such walk runs the chains with which the part begins, each once and in order. -/
theorem process_grows (library : Library) (ctx : Context) (p : Part) (s : RunState) :
    match p.process library ctx s with
    | ((q, .error _), _) => p.Grows q
    | ((q, .ok outcome), u) => p.Grows q ∧
        (∃ skips t, Walk library ctx 0 p s p.definition.chains skips q t ∧
          Selects library ctx q t (skips.filterMap id) outcome u) ∧
        ∀ ran skips r t, Walk library ctx 0 p s ran skips r t → ran = p.definition.chains := by
  have hgrows : p.Grows (p.process library ctx s).1.1 := by
    rw [process_fst]
    exact (reaches_of_runProperties rfl).grows
  rcases h : p.process library ctx s with ⟨⟨q, e | outcome⟩, u⟩
  all_goals rw [h] at hgrows
  · exact hgrows
  · exact ⟨hgrows, exists_walk_of_process h, fun _ _ _ _ hw => hw.ran_eq_chains⟩

end Part

end PageMigration
