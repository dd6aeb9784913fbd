import PageMigration.Catalog.Library
import PageMigration.Json.Printer

/-!
# Manual of the functions

The descriptions of the functions are written as a text with headings and tables, or as JSON.

## Main definitions

* `Manual.markdown` : the chapter of a library.
* `Manual.chapters` : the chapters of several libraries.
* `Manual.json` : the descriptions as JSON.
-/

namespace PageMigration.Manual

/-- The name of a kind of function. -/
def kindName : EntryKind → String
  | .function => "function"
  | .selector => "selector"

/-- The heading of a kind of function. -/
def kindHeading : EntryKind → String
  | .function => "Functions"
  | .selector => "Selectors"

/-- The heading of a library. -/
def libraryHeading : Library → String
  | .general => "General functions"
  | .publishing => "Publishing functions"

/-- A line and an empty line. -/
def paragraph (text : String) : String :=
  text ++ "\n\n"

/-- A text in the cell of a table, where bars are escaped and line ends are blanks. -/
def cell (text : String) : String :=
  Text.replaceAll "\n" " " (Text.replaceAll "|" "\\|" text)

/-- The row of a parameter. -/
def parameterRow (p : Parameter) : String :=
  "| " ++ p.name ++ " | " ++ p.type.name ++ " | " ++ cell p.description ++ " |\n"

/-- The table of parameters, if there are any. -/
def parameterTable (parameters : List Parameter) : String :=
  if parameters.isEmpty then ""
  else
    "| Parameter | Type | Description |\n|---|---|---|\n" ++
      String.join (parameters.map parameterRow) ++ "\n"

/-- The section of a function. -/
def section_ (e : Entry) : String :=
  paragraph ("### " ++ e.name) ++ paragraph e.description ++
    paragraph ("Example: `" ++ e.sample ++ "`") ++ parameterTable e.parameters ++
    paragraph ("Returns: " ++ e.returns)

/-- The sections of functions, with a heading where the kind changes. -/
def sections (kind : Option EntryKind) : List Entry → String
  | [] => ""
  | e :: rest =>
      (if kind = some e.kind then "" else paragraph ("## " ++ kindHeading e.kind)) ++
        section_ e ++ sections (some e.kind) rest

/-- The chapter of a library. -/
def markdown (library : Library) : String :=
  paragraph ("# " ++ libraryHeading library) ++ sections none library.listing

/-- The chapters of libraries, with an empty line between them. -/
def chapters (libraries : List Library) : String :=
  Text.join "\n" (libraries.map markdown)

/-- The description of a parameter as JSON. -/
def parameterJson (p : Parameter) : Json :=
  .object [("name", .string p.name), ("type", .string p.type.name),
    ("description", .string p.description)]

/-- The description of a function as JSON. -/
def entryJson (library : Library) (e : Entry) : Json :=
  .object [("name", .string e.name), ("library", .string library.name),
    ("kind", .string (kindName e.kind)), ("description", .string e.description),
    ("example", .string e.sample), ("params", .array (e.parameters.map parameterJson)),
    ("returns", .string e.returns)]

/-- The descriptions of the functions of libraries as JSON. -/
def json (libraries : List Library) : String :=
  (Json.array (libraries.flatMap fun library =>
    library.listing.map (entryJson library))).pretty

end PageMigration.Manual
