import PageMigration.Json.Printer
import PageMigration.Json.Reader
import PageMigration.Catalog.Output

/-!
# Channels of a rollup

The properties of a modern part that collects content are written as JSON.  Beside them stand
three more objects, which give the texts that can be searched, the links and the images in the
properties by the paths at which they occur.

## Main definitions

* `RollupChannels` : the properties and the three objects.
* `RollupChannels.output` : their written form.
* `Json.ofTextOrNull` : a value read from a text, or null.
-/

namespace PageMigration

/-- The value that a text holds, or null if it holds none. -/
def Json.ofTextOrNull (text : String) : Json :=
  ((Json.ofText? text).getD .null).normal

/-- The string in a field of a value, or the empty string. -/
def Json.stringField (value : Json) (name : String) : String :=
  ((value.field? name).bind Json.string?).getD ""

/-- The properties of a part and what is found at paths in them. -/
structure RollupChannels where
  properties : Json
  searchableTexts : List (String × String) := []
  links : List (String × String) := []
  imageSources : List (String × String) := []

/-- Texts by paths as an object. -/
def pathsObject (texts : List (String × String)) : Json :=
  .ofFields (texts.map fun (path, text) => (path, .string text))

/-- The written form of the channels. -/
def RollupChannels.output (c : RollupChannels) : Output :=
  .map [("ImageSources", (pathsObject c.imageSources).compact),
    ("JsonProperties", c.properties.normal.compact),
    ("Links", (pathsObject c.links).compact),
    ("SearchablePlainTexts", (pathsObject c.searchableTexts).compact)]

end PageMigration
