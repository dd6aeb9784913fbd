import PageMigration.Toml.Basic

/-!
# Tables under construction

The statements of a document fill one tree of tables.  A header opens the table at a path, and an
assignment puts a value under a path of keys.  Tables on the way are made as they are needed, and
what made a table decides how it may be filled later: a table opened by a header is opened once,
and only key paths add to a table that key paths made.  A list of tables grows by one table at a
time, and what is added to it goes into the last one.  A value that has been put in stays as it
is.

## Main definitions

* `Toml.Item` : what stands under a name of a table under construction.
* `Toml.assign?` : a table with a value under a path of keys.
* `Toml.within?` : a table with a change in the table that a path of names leads to.
* `Toml.open?`, `Toml.extend?` : a table with a table opened or a list of tables extended.
* `Toml.close` : the value of a table that is complete.
-/

namespace PageMigration.Toml

/-- What made a table. -/
inductive Maker where
  /-- A header for the table. -/
  | header
  /-- A header for a table in it. -/
  | implied
  /-- The path of an assignment. -/
  | keys
  deriving DecidableEq, Repr

/-- What stands under a name of a table under construction. -/
inductive Item where
  | value (v : Toml)
  | table (maker : Maker) (items : List (String × Item))
  /-- A list of tables, the last one apart. -/
  | tables (earlier : List (List (String × Item))) (last : List (String × Item))

/-- The items of a table. -/
abbrev Items := List (String × Item)

/-- The items with a change of what stands under a name.  A name that is not there is put at
the end. -/
def change? (name : String) (f : Option Item → Option Item) : Items → Option Items
  | [] => (f none).map fun item => [(name, item)]
  | (n, item) :: rest =>
      if n = name then (f (some item)).map fun item => (n, item) :: rest
      else (change? name f rest).map ((n, item) :: ·)

/-- The items with a value under a path of keys, which has to be free.  The path may lead through
a table that a header implies, but not end in it. -/
def assign? (value : Toml) : List String → Items → Option Items
  | [], _ => none
  | [name], items =>
      change? name (fun
        | none => some (.value value)
        | some _ => none) items
  | name :: more, items =>
      change? name (fun
        | none => (assign? value more []).map (.table .keys)
        | some (.table maker inner) =>
            if maker = .keys ∨ (maker = .implied ∧ 1 < more.length) then
              (assign? value more inner).map (.table maker)
            else none
        | some _ => none) items

/-- The items with a change in the table that a path of names leads to. -/
def within? (f : Items → Option Items) : List String → Items → Option Items
  | [], items => f items
  | name :: more, items =>
      change? name (fun
        | none => (within? f more []).map (.table .implied)
        | some (.table maker inner) => (within? f more inner).map (.table maker)
        | some (.tables earlier last) => (within? f more last).map (.tables earlier)
        | some (.value _) => none) items

/-- The items with a table under a name opened. -/
def open? (name : String) : Items → Option Items :=
  change? name fun
    | none => some (.table .header [])
    | some (.table .implied items) => some (.table .header items)
    | some _ => none

/-- The items with a list of tables under a name extended. -/
def extend? (name : String) : Items → Option Items :=
  change? name fun
    | none => some (.tables [] [])
    | some (.tables earlier last) => some (.tables (earlier ++ [last]) [])
    | some _ => none

mutual

/-- The value of an item that is complete. -/
def Item.close : Item → Toml
  | .value v => v
  | .table _ items => .table (closeItems items)
  | .tables earlier last => .array (closeTables earlier ++ [.table (closeItems last)])

/-- The values of items. -/
def closeItems : Items → List (String × Toml)
  | [] => []
  | (name, item) :: rest => (name, item.close) :: closeItems rest

/-- The values of tables. -/
def closeTables : List Items → List Toml
  | [] => []
  | items :: rest => .table (closeItems items) :: closeTables rest

end

/-- The value of a table that is complete. -/
def close (items : Items) : Toml :=
  .table (closeItems items)

/-- The table that assignments make. -/
def ofAssignments? (assignments : List (List String × Toml)) : Option Toml :=
  (assignments.foldlM (fun items (path, value) => assign? value path items) []).map close

end PageMigration.Toml
