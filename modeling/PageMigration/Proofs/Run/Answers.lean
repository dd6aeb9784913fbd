import PageMigration.Run.Transfer

/-!
# What look-ups find

A look-up is answered by the source in the state that the run is in, and one about lists or users
by the cache if it knows the answer.  These are the values and states that each look-up leaves.

## Main definitions

* `Run.askOnce` : the answer to a question, which a cache remembers.

## Main results

* `Run.askOnce_of_known`, `Run.askOnce_of_unknown` : what becomes of the answer and the cache.
* `Run.list?_eq`, `Run.users_eq` : lists and users are asked for in this way.
* `Run.orElse_ask` : the other look-ups.
-/

namespace PageMigration.Run

variable {α κ : Type} [DecidableEq κ]

theorem orElse_apply (lookup : LookupM α) (nothing : α) (s : RunState) :
    orElse lookup nothing s = ((lookup s).1.toOption.getD nothing, (lookup s).2) := by
  simp only [orElse, bind, StateT.bind, ExceptT.run]
  rcases lookup s with ⟨_ | _, t⟩ <;> rfl

/-! ### Answers that are not remembered -/

theorem orElse_ask (question : Lookup) (answer : History → Except SourceError α) (nothing : α)
    (s : RunState) : orElse (ask question answer) nothing s =
      ((answer s.history).toOption.getD nothing,
        { s with history := question :: s.history }) :=
  orElse_apply _ nothing s

theorem content?_apply (ctx : Context) (path : String) (s : RunState) : content? ctx path s =
    ((ctx.source.content s.history path).toOption.getD none,
      { s with history := .content path :: s.history }) :=
  orElse_ask (.content path) (ctx.source.content · path) none s

/-! ### Answers that are remembered -/

/-- The answer to a question, which a cache remembers. -/
def askOnce (cache : RunState → ReadThrough κ α)
    (store : ReadThrough κ α → RunState → RunState) (key : κ) (question : Lookup)
    (answer : History → Except SourceError α) : LookupM α := do
  let (found, after) ← (cache (← get)).fetch key (ask question answer)
  modify (store after)
  return found

section

variable {cache : RunState → ReadThrough κ α} {store : ReadThrough κ α → RunState → RunState}
  {key : κ} {question : Lookup} {answer : History → Except SourceError α} {s : RunState}

/-- A remembered answer is not asked for. -/
theorem askOnce_of_known {found : α} (h : (cache s).get? key = some found) :
    askOnce cache store key question answer s = (.ok found, store (cache s) s) := by
  simp only [askOnce, ReadThrough.fetch, bind, ExceptT.bind, ExceptT.mk, StateT.bind, get, getThe,
    MonadStateOf.get, liftM, monadLift, MonadLift.monadLift, ExceptT.lift, StateT.get,
    Functor.map, StateT.map, pure, ExceptT.bindCont, h]
  rfl

/-- An answer that is not remembered is asked for, and remembered unless it fails. -/
theorem askOnce_of_unknown (h : (cache s).get? key = none) :
    askOnce cache store key question answer s =
      let t := { s with history := question :: s.history }
      match answer s.history with
      | .ok found => (.ok found, store ((cache s).insert key found) t)
      | .error e => (.error e, t) := by
  simp only [askOnce, ReadThrough.fetch, bind, ExceptT.bind, ExceptT.mk, StateT.bind, get, getThe,
    MonadStateOf.get, liftM, monadLift, MonadLift.monadLift, ExceptT.lift, StateT.get,
    Functor.map, StateT.map, pure, ExceptT.bindCont, h, ask]
  cases answer s.history <;> rfl

end

theorem list?_eq (ctx : Context) {id : Guid} (h : id ≠ .nil) :
    list? ctx id = orElse (askOnce RunState.lists (fun lists s => { s with lists }) id (.list id)
      (ctx.source.list · id)) none := by
  rw [list?, if_neg h]
  rfl

theorem users_eq (ctx : Context) (query : UserQuery) :
    users ctx query = orElse (askOnce RunState.users (fun users s => { s with users })
      query.cacheKey (.users query) (ctx.source.users · query)) [] :=
  rfl

end PageMigration.Run
