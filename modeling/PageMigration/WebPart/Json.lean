import PageMigration.Json.Record
import PageMigration.WebPart.Definition
import PageMigration.WebPart.Unit

/-!
# Web parts in JSON

The written forms of definitions and of content units.

## Main definitions

* `WebPartDefinition.ofJson?`, `WebPartDefinition.toJson` : definitions.
* `ContentUnit.ofJson?`, `PropertyBag.ofJson?` : units and their properties.
-/

namespace PageMigration

open Json Record

/-- A declared property in JSON. -/
def PropertyDefinition.ofJson? (json : Json) : Option PropertyDefinition := do
  let fields ← record? ["name", "type_name", "functions"] json
  let name ← required? fields "name" string?
  let typeName ← optional? fields "type_name" string? "string"
  let functions ← optional? fields "functions" (nullable? string?) none
  some { name, typeName, functions }

/-- A variant in JSON. -/
def MappingVariant.ofJson? (json : Json) : Option MappingVariant := do
  let fields ← record? ["name", "default", "functions"] json
  let name ← required? fields "name" string?
  let isDefault ← optional? fields "default" bool? false
  let functions ← optional? fields "functions" (nullable? string?) none
  some { name, isDefault, functions }

/-- Variants and their selector in JSON. -/
def MappingSet.ofJson? (json : Json) : Option MappingSet := do
  let fields ← record? ["selector", "mappings"] json
  let selector ← optional? fields "selector" (nullable? string?) none
  let variants ← optional? fields "mappings" (list? MappingVariant.ofJson?) []
  some { selector, variants }

/-- A definition in JSON. -/
def WebPartDefinition.ofJson? (json : Json) : Option WebPartDefinition := do
  let fields ← record? ["type_name", "properties", "mappings"] json
  let typeName ← required? fields "type_name" string?
  let properties ← optional? fields "properties" (list? PropertyDefinition.ofJson?) []
  let mappings ← optional? fields "mappings" (nullable? MappingSet.ofJson?) none
  some { typeName, properties, mappings }

/-- A field that is left out where it has no value. -/
def presentField (name : String) (value : Option Json) : List (String × Json) :=
  match value with
  | some v => [(name, v)]
  | none => []

/-- The written form of a declared property. -/
def PropertyDefinition.toJson (p : PropertyDefinition) : Json :=
  .object <| [("name", .string p.name), ("type_name", .string p.typeName)] ++
    presentField "functions" (p.functions.map .string)

/-- The written form of a variant. -/
def MappingVariant.toJson (v : MappingVariant) : Json :=
  .object <| [("name", .string v.name), ("default", .bool v.isDefault)] ++
    presentField "functions" (v.functions.map .string)

/-- The written form of variants and their selector. -/
def MappingSet.toJson (s : MappingSet) : Json :=
  .object <| presentField "selector" (s.selector.map .string) ++
    [("mappings", .array (s.variants.map MappingVariant.toJson))]

/-- The written form of a definition. -/
def WebPartDefinition.toJson (d : WebPartDefinition) : Json :=
  .object <| [("type_name", .string d.typeName),
      ("properties", .array (d.properties.map PropertyDefinition.toJson))] ++
    presentField "mappings" (d.mappings.map MappingSet.toJson)

/-- The kind of part that a name stands for. -/
def WebPartKind.ofName? : String → Option WebPartKind
  | "classic" => some .classic
  | "clientside" => some .clientSide
  | "addin" => some .addIn
  | _ => none

/-- Named strings, of which the last one of each name counts. -/
def stringEntries? : List (String × Json) → Option (List (String × String))
  | [] => some []
  | (name, value) :: rest => do
      let value ← value.string?
      let rest ← stringEntries? rest
      some (if rest.any fun e => e.1 == name then rest else (name, value) :: rest)

/-- A bag in JSON. -/
def PropertyBag.ofJson? : Json → Option PropertyBag
  | .object fields => (stringEntries? fields).map fun entries => ⟨entries⟩
  | _ => none

/-- A unit in JSON. -/
def ContentUnit.ofJson? (json : Json) : Option ContentUnit := do
  let fields ← record? ["type_name", "kind", "properties"] json
  let typeName ← required? fields "type_name" string?
  let kind ← optional? fields "kind" (choice? WebPartKind.ofName?) .classic
  let properties ← optional? fields "properties" PropertyBag.ofJson? {}
  some { typeName, kind, properties }

end PageMigration
