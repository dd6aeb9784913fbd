import PageMigration.Proofs.Transform.Failure

/-!
# Types of declared properties

What a declaration does for expressions is to give a type to a name.  Values that are stored on the
way declare strings, so they give the type of strings to names that had no type before and change
nothing else.  A loosely typed part takes a name without a type for a string anyway.

## Main definitions

* `declaredType?` : the type that a name is declared with.

## Main results

* `declaredType?_declare` : the types after one more declaration.
* `Expression.bind?_congr_of_loose` : scopes of a loosely typed part in which names mean the same.
-/

namespace PageMigration

/-- The type that a name is declared with. -/
def declaredType? (declared : List PropertyDefinition) (name : String) : Option ValueType :=
  (findProperty? declared name).map PropertyDefinition.type

theorem declaredType?_append (a b : List PropertyDefinition) (name : String) :
    declaredType? (a ++ b) name = (declaredType? a name).or (declaredType? b name) := by
  rw [declaredType?, findProperty?, List.find?_append, Option.map_or]
  rfl

/-- Among strings a name has the type of strings or none. -/
theorem declaredType?_of_strings {declared : List PropertyDefinition}
    (h : ∀ d ∈ declared, d.typeName = "string") (name : String) :
    declaredType? declared name =
      if ∃ d ∈ declared, Text.sameName d.name name then some .string else none := by
  simp only [declaredType?, ← findProperty?_isSome_iff]
  cases hd : findProperty? declared name with
  | none => rfl
  | some d =>
      have htype : d.type = .string := by
        rw [PropertyDefinition.type, h d (List.mem_of_find?_eq_some hd)]
        decide
      simp [htype]

/-- **Types after a declaration.** A declaration gives the type of strings to the spellings of its
name, unless they have a type. -/
theorem declaredType?_declare (d : WebPartDefinition) (name key : String) :
    declaredType? (d.declare name).properties key =
      (declaredType? d.properties key).or
        (if Text.sameName name key then some .string else none) := by
  rcases d.declare_eq_or name with ⟨⟨e, he, hname⟩, heq⟩ | ⟨-, heq⟩
  · rw [heq]
    split
    · next hkey =>
        have hsome : (declaredType? d.properties key).isSome := by
          rw [declaredType?, Option.isSome_map]
          exact findProperty?_isSome_iff.mpr ⟨e, he, Text.sameName_trans hname hkey⟩
        rw [Option.or_of_isSome hsome]
    · rw [Option.or_none]
  · have hmade : declaredType? [{ name }] key =
        if Text.sameName name key then some .string else none := by
      rw [declaredType?_of_strings (by simp)]
      simp
    rw [heq, declaredType?_append, hmade]

/-- A name that has no type is taken for a string, before a declaration and after it. -/
theorem getD_declaredType?_declare (d : WebPartDefinition) (name key : String) :
    (declaredType? (d.declare name).properties key).getD .string =
      (declaredType? d.properties key).getD .string := by
  rw [declaredType?_declare]
  cases declaredType? d.properties key with
  | some type => rfl
  | none => split <;> rfl

namespace Expression

/-- A loosely typed unit binds every name. -/
theorem bind?_of_loose {scope : Scope} (h : scope.unit.kind.isLooselyTyped) (name : String) :
    bind? scope name = some
      { name
        type := (declaredType? scope.declared name).getD .string
        value := (scope.unit.properties.get? name).getD "" } := by
  simp only [bind?, h, if_true, declaredType?]
  cases findProperty? scope.declared name <;> rfl

/-- In the scopes of a loosely typed unit names mean the same if those with a type other than that
of strings have it in both. -/
theorem bind?_congr_of_loose {scope scope' : Scope} (hu : scope'.unit = scope.unit)
    (h : scope.unit.kind.isLooselyTyped)
    (ht : ∀ name, (declaredType? scope'.declared name).getD .string =
      (declaredType? scope.declared name).getD .string) :
    bind? scope' = bind? scope := by
  funext name
  rw [bind?_of_loose h, bind?_of_loose (by rw [hu]; exact h), hu, ht]

end Expression

end PageMigration
