import PageMigration.Value.Argument
import PageMigration.Text

/-!
# Web part definitions

A mapping describes, for each type of web part, the properties that the part has, the functions
that transform them, and the variants of the modern part that can take its place.  A selector is
an expression whose value names the variant.

## Main definitions

* `PropertyDefinition` : a declared property and its function chain.
* `MappingVariant`, `MappingSet` : the variants and the selector.
* `WebPartDefinition` : the mapping of one type of web part.
* `WebPartDefinition.chains` : the chains of its properties.
* `WebPartDefinition.declare` : the definition with a property that a function produced.
* `WebPartDefinition.selectVariant` : the variant that a selector value picks.
-/

namespace PageMigration

/-- A property that a mapping declares, with the chain of functions attached to it. -/
structure PropertyDefinition where
  name : String
  typeName : String := "string"
  functions : Option String := none
  deriving DecidableEq, Repr

namespace PropertyDefinition

/-- The type of values that the property has. -/
def type (p : PropertyDefinition) : ValueType :=
  .ofName p.typeName

/-- The attached function chain, if it is not blank. -/
def chain? (p : PropertyDefinition) : Option String :=
  p.functions.bind Text.nonblank?

end PropertyDefinition

/-- The chains of properties, each with the name of its property. -/
def chainsOf (properties : List PropertyDefinition) : List (String × String) :=
  properties.filterMap fun d => d.chain?.map fun chain => (d.name, chain)

section ChainsOf

variable {properties : List PropertyDefinition} {d : PropertyDefinition} {i : Nat}

theorem chainsOf_append (a b : List PropertyDefinition) :
    chainsOf (a ++ b) = chainsOf a ++ chainsOf b :=
  List.filterMap_append

theorem chainsOf_eq_nil (h : ∀ d ∈ properties, d.chain? = none) : chainsOf properties = [] :=
  List.filterMap_eq_nil_iff.mpr fun d hd => by simp [h d hd]

theorem chainsOf_drop_of_some {chain : String} (hd : properties[i]? = some d)
    (hc : d.chain? = some chain) :
    chainsOf (properties.drop i) = (d.name, chain) :: chainsOf (properties.drop (i + 1)) := by
  obtain ⟨hi, rfl⟩ := List.getElem?_eq_some_iff.mp hd
  rw [List.drop_eq_getElem_cons hi, chainsOf, List.filterMap_cons_some (by rw [hc]; rfl), chainsOf]

theorem chainsOf_drop_of_none (hd : properties[i]? = some d) (hc : d.chain? = none) :
    chainsOf (properties.drop i) = chainsOf (properties.drop (i + 1)) := by
  obtain ⟨hi, rfl⟩ := List.getElem?_eq_some_iff.mp hd
  rw [List.drop_eq_getElem_cons hi, chainsOf, List.filterMap_cons_none (by rw [hc]; rfl), chainsOf]

end ChainsOf

/-- One form that the modern part can take, with functions of its own. -/
structure MappingVariant where
  name : String
  isDefault : Bool := false
  functions : Option String := none
  deriving DecidableEq, Repr

/-- The variants of a modern part and the expression that selects one. -/
structure MappingSet where
  selector : Option String := none
  variants : List MappingVariant := []
  deriving DecidableEq, Repr

/-- The mapping of one type of web part. -/
structure WebPartDefinition where
  typeName : String
  properties : List PropertyDefinition := []
  mappings : Option MappingSet := none
  deriving DecidableEq, Repr

/-- The first declared property with a given name, without regard to case. -/
def findProperty? (declared : List PropertyDefinition) (name : String) :
    Option PropertyDefinition :=
  declared.find? fun p => Text.sameName p.name name

theorem findProperty?_isSome_iff {declared : List PropertyDefinition} {name : String} :
    (findProperty? declared name).isSome ↔ ∃ d ∈ declared, Text.sameName d.name name := by
  simp [findProperty?]

/-- A type name without the assembly that follows its first comma. -/
def shortTypeName (typeName : String) : String :=
  String.ofList (Chars.trim (typeName.toList.takeWhile (· != ',')))

namespace WebPartDefinition

variable (d : WebPartDefinition)

/-- A declared property. -/
def property? (name : String) : Option PropertyDefinition :=
  findProperty? d.properties name

/-- The definition with a string property of a given name, which is added at the end unless it
is declared already. -/
def declare (name : String) : WebPartDefinition :=
  if (d.property? name).isSome then d
  else { d with properties := d.properties ++ [{ name }] }

/-- The chains of the properties, in order. -/
def chains : List (String × String) :=
  chainsOf d.properties

/-- The selector expression, if it is not blank. -/
def selector? : Option String :=
  (d.mappings.bind MappingSet.selector).bind Text.nonblank?

/-- The variant that a selector value names, or else the default variant, or else the first. -/
def selectVariant (value : Option String) : Option MappingVariant :=
  d.mappings.bind fun set =>
    (value.bind fun name => set.variants.find? fun v => Text.sameName v.name name).or <|
      (set.variants.find? MappingVariant.isDefault).or set.variants.head?

/-- Whether the definition is that of a given type, assemblies and case left aside. -/
def appliesTo (typeName : String) : Bool :=
  Text.sameName (shortTypeName d.typeName) (shortTypeName typeName)

/-- The definition with a property added at the end. -/
def addProperty (p : PropertyDefinition) : WebPartDefinition :=
  { d with properties := d.properties ++ [p] }

/-- The definition with a selector. -/
def withSelector (selector : String) : WebPartDefinition :=
  { d with mappings := some { d.mappings.getD {} with selector := some selector } }

/-- The definition with a variant added at the end. -/
def addVariant (variant : MappingVariant) : WebPartDefinition :=
  let set := d.mappings.getD {}
  { d with mappings := some { set with variants := set.variants ++ [variant] } }

end WebPartDefinition

end PageMigration
