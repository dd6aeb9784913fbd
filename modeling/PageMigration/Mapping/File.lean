import PageMigration.WebPart.Definition
import PageMigration.Xml.Outline

/-!
# Mapping files

A mapping file holds one definition for each type of web part.  An element is known by its name
without a qualifier, and elements of other names are passed over, but the elements of one list
stand together.

## Main definitions

* `MappingFile.ofText?` : the definitions in a file.
* `MappingFile.find?` : the definition of a type.
-/

namespace PageMigration.MappingFile

open Xml

/-! ### Elements -/

/-- A name without its qualifier. -/
def localName (name : List Char) : List Char :=
  match Chars.cut? ':' name with
  | some (_, name) => name
  | none => name

/-- The name by which an attribute is known: without its qualifier, unless that is reserved. -/
def attributeName (name : List Char) : List Char :=
  match Chars.cut? ':' name with
  | some (qualifier, rest) =>
      if qualifier = "xmlns".toList ∨ qualifier = "xml".toList then name else rest
  | none => name

/-- An element with its attributes by the names by which they are known. -/
structure Record where
  attributes : List (String × List Char)
  /-- What the element holds, without blank texts. -/
  items : List Item

/-- The record of an element, if its attributes and the references in its texts can be read. -/
def record? : Item → Option Record
  | .text _ => none
  | .element _ tag children => do
      let attributes ← rawAttributes? tag
      if children.any fun | .text content => content.isNone | .element .. => false then none
      some {
        attributes := attributes.map fun (name, value) =>
          (String.ofList (attributeName name), value)
        items := children.filter fun item => !item.isBlank }

/-- Whether an item is an element that is known by a name. -/
def isNamed (name : String) : Item → Bool
  | .element n .. => localName n == name.toList
  | .text _ => false

/-- Whether two items are elements of one name. -/
def sameTag : Item → Item → Bool
  | .element a .., .element b .. => a == b
  | _, _ => false

namespace Record

/-- The value of an attribute as written, if the record has it; it cannot have it twice. -/
def value? (r : Record) (name : String) : Option (Option (List Char)) :=
  match r.attributes.filter fun a => a.1 == name with
  | [] => some none
  | [(_, value)] => some (some value)
  | _ => none

/-- The text of an attribute that has to be there. -/
def text? (r : Record) (name : String) : Option String :=
  (r.value? name).bind fun value => value.bind unescape?

/-- The text of an attribute, if it is there and not empty. -/
def optionalText? (r : Record) (name : String) : Option (Option String) :=
  (r.value? name).bind fun value =>
    match value with
    | none => some none
    | some value => if value.isEmpty then some none else (unescape? value).map some

/-- The text of an attribute, if it is there and not blank. -/
def chain? (r : Record) (name : String) : Option (Option String) :=
  (r.optionalText? name).map fun text => text.filter fun text => !Text.isBlank text

/-- The truth value of an attribute, which is false if it is missing. -/
def flag? (r : Record) (name : String) : Option Bool :=
  (r.value? name).bind fun value =>
    match value.map fun value => Chars.trimWhere isSpace value with
    | none => some false
    | some value =>
        if value = "true".toList ∨ value = "1".toList then some true
        else if value = "false".toList ∨ value = "0".toList then some false
        else none

/-- The element of a name, if the record has it; it cannot have it twice. -/
def child? (r : Record) (name : String) : Option (Option Record) :=
  match r.items.filter (isNamed name) with
  | [] => some none
  | [item] => (record? item).map some
  | _ => none

/-- The elements of a name, which stand together and have the same qualifier. -/
def list? (r : Record) (name : String) : Option (List Record) :=
  match r.items.dropWhile fun item => !isNamed name item with
  | [] => some []
  | first :: rest =>
      if (rest.dropWhile (sameTag first)).any (isNamed name) then none
      else (first :: rest.takeWhile (sameTag first)).mapM record?

end Record

/-! ### Definitions -/

/-- The property that an element declares. -/
def property? (r : Record) : Option PropertyDefinition := do
  let name ← r.text? "Name"
  let type ← r.optionalText? "Type"
  let functions ← r.chain? "Functions"
  some { name, typeName := type.getD "string", functions }

/-- The variant that an element describes. -/
def variant? (r : Record) : Option MappingVariant := do
  let name ← r.text? "Name"
  let isDefault ← r.flag? "Default"
  let functions ← r.chain? "Functions"
  some { name, isDefault, functions }

/-- The variants that an element holds, with their selector. -/
def set? (r : Record) : Option MappingSet := do
  let selector ← r.chain? "Selector"
  let variants ← (← r.list? "Mapping").mapM variant?
  some { selector, variants }

/-- The definition that an element holds. -/
def definition? (r : Record) : Option WebPartDefinition := do
  let typeName ← r.text? "Type"
  let properties ← match ← r.child? "Properties" with
    | some r => do (← r.list? "Property").mapM property?
    | none => some []
  let mappings ← match ← r.child? "Mappings" with
    | some r => (set? r).map some
    | none => some none
  some { typeName, properties, mappings }

/-- The definitions in the text of a file. -/
def ofText? (text : String) : Option (List WebPartDefinition) := do
  let root ← (outlineOf? text).bind record?
  match ← root.child? "WebParts" with
  | some r => do (← r.list? "WebPart").mapM definition?
  | none => some []

/-- The first definition that applies to a type. -/
def find? (definitions : List WebPartDefinition) (typeName : String) : Option WebPartDefinition :=
  definitions.find? fun d => d.appliesTo typeName

end PageMigration.MappingFile
