import PageMigration.Run.Context

/-!
# Look-ups in a run

Each look-up that reaches the source is recorded.  The answers about lists and users are
remembered; answers about files and terms are not.  A look-up that fails is treated like one that
finds nothing, so no failure of the source stops a run.

## Main definitions

* `Run.list?`, `Run.users`, `Run.file?`, `Run.content?`, `Run.term?` : what a run finds.
-/

namespace PageMigration

/-- The answer of the source to a question, which is recorded whether it fails or not. -/
def Run.ask {α : Type} (question : Lookup) (answer : History → Except SourceError α) :
    LookupM α := fun s =>
  (answer s.history, { s with history := question :: s.history })

/-- What a look-up finds, or nothing where it fails. -/
def Run.orElse {α : Type} (lookup : LookupM α) (nothing : α) : Run α := do
  match ← lookup.run with
  | .ok found => return found
  | .error _ => return nothing

/-- The list with an identifier.  The nil identifier belongs to no list and is not looked up. -/
def Run.list? (ctx : Context) (id : Guid) : Run (Option SiteList) :=
  if id = .nil then return none
  else
    (Run.orElse · none) do
      let s ← get
      let (found, lists) ← s.lists.fetch id (Run.ask (.list id) (ctx.source.list · id))
      modify fun s => { s with lists }
      return found

/-- The users that answer a question. -/
def Run.users (ctx : Context) (query : UserQuery) : Run (List UserRecord) :=
  (Run.orElse · []) do
    let s ← get
    let (found, users) ←
      s.users.fetch query.cacheKey (Run.ask (.users query) (ctx.source.users · query))
    modify fun s => { s with users }
    return found

/-- The file at a path. -/
def Run.file? (ctx : Context) (path : String) : Run (Option FileInfo) :=
  Run.orElse (Run.ask (.file path) (ctx.source.file · path)) none

/-- The content of the file at a path. -/
def Run.content? (ctx : Context) (path : String) : Run (Option Bytes) :=
  Run.orElse (Run.ask (.content path) (ctx.source.content · path)) none

/-- The term with an identifier. -/
def Run.term? (ctx : Context) (id : Guid) : Run (Option Term) :=
  Run.orElse (Run.ask (.term id) (ctx.source.term · id)) none

end PageMigration
