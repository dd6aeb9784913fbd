import Mathlib.Logic.Relation
import PageMigration.Proofs.Run.Agreement

/-!
# Steps of a run

All that look-ups and transfers do to the state of a run is to take a few kinds of steps.  A step
asks the source one question, which is recorded, or puts a copy into the folder, or what is left of
one that fails.  Lists and users are asked for only if the cache does not know them, and files only
if they lie in the source web.  What every step keeps is kept by all that is made of look-ups.

## Main definitions

* `Run.Step`, `Run.Steps` : one step, and steps one after the other.

## Main results

* `Context.steps_mirror` : look-ups and transfers take steps only.
-/

namespace PageMigration

/-- The cache after the answer to a question about a key: an error is not remembered. -/
def ReadThrough.remember {ε κ α : Type} [DecidableEq κ] (cache : ReadThrough κ α) (key : κ) :
    Except ε α → ReadThrough κ α
  | .ok found => cache.insert key found
  | .error _ => cache

namespace Run

/-! ### Steps -/

/-- One step of a run. -/
inductive Step (ctx : Context) (s : RunState) : RunState → Prop
  | list {id : Guid} (hid : id ≠ .nil) (hunknown : s.lists.get? id = none) :
      Step ctx s { s with
        history := .list id :: s.history
        lists := s.lists.remember id (ctx.source.list s.history id) }
  | users {query : UserQuery} (hunknown : s.users.get? query.cacheKey = none) :
      Step ctx s { s with
        history := .users query :: s.history
        users := s.users.remember query.cacheKey (ctx.source.users s.history query) }
  | file {path : String} (hinside : ctx.source.web.containsPath path) :
      Step ctx s { s with history := .file path :: s.history }
  | content {path : String} (hinside : ctx.source.web.containsPath path) :
      Step ctx s { s with history := .content path :: s.history }
  | term (id : Guid) : Step ctx s { s with history := .term id :: s.history }
  | copy {path servedFrom name : String} {content : Bytes} {folder : AssetFolder}
      (hcopies : ctx.Copies path servedFrom)
      (hwritten : s.folder.write content (Link.fileName path) = .ok (folder, name)) :
      Step ctx s { s with
        copies := s.copies.insert (copyKey path) (AssetFolder.location servedFrom name)
        folder }
  | breakOff {path servedFrom : String} {content : Bytes} {e : AssetError}
      (hcopies : ctx.Copies path servedFrom)
      (hwritten : s.folder.write content (Link.fileName path) = .error e) :
      Step ctx s { s with folder := s.folder.afterFailure content (Link.fileName path) }

/-- Steps of a run one after the other. -/
abbrev Steps (ctx : Context) : RunState → RunState → Prop :=
  Relation.ReflTransGen (Step ctx)

/-! ### Look-ups take steps -/

section

variable {ctx : Context} {s : RunState} {α κ : Type} [DecidableEq κ]
  {cache : RunState → ReadThrough κ α} {store : ReadThrough κ α → RunState → RunState} {key : κ}
  {question : Lookup} {answer : History → Except SourceError α}

/-- A look-up that is remembered takes no step if the answer is known, and otherwise one in which
the question is recorded and the answer remembered. -/
theorem steps_orElse_askOnce (nothing : α)
    (hkept : ∀ history, store (cache s) { s with history } = { s with history })
    (hstep : (cache s).get? key = none → Step ctx s
      (store ((cache s).remember key (answer s.history))
        { s with history := question :: s.history })) :
    Steps ctx s (orElse (askOnce cache store key question answer) nothing s).2 := by
  rw [orElse_apply]
  cases hknown : (cache s).get? key with
  | some found =>
      rw [askOnce_of_known hknown, hkept s.history]
  | none =>
      have hasked := hstep hknown
      rw [askOnce_of_unknown hknown]
      cases hanswer : answer s.history with
      | ok found =>
          rw [hanswer] at hasked
          exact .single hasked
      | error e =>
          rw [hanswer, ReadThrough.remember, hkept] at hasked
          exact .single hasked

end

section

variable (ctx : Context) (s : RunState)

theorem steps_list? (id : Guid) : Steps ctx s (list? ctx id s).2 := by
  by_cases hid : id = .nil
  · rw [hid]
    exact .refl
  rw [list?_eq ctx hid]
  exact steps_orElse_askOnce none (fun _ => rfl) fun hunknown => .list hid hunknown

theorem steps_users (query : UserQuery) : Steps ctx s (users ctx query s).2 := by
  rw [users_eq]
  exact steps_orElse_askOnce [] (fun _ => rfl) fun hunknown => .users hunknown

variable {ctx} in
theorem steps_file? {path : String} (hinside : ctx.source.web.containsPath path) :
    Steps ctx s (file? ctx path s).2 := by
  rw [file?, orElse_ask]
  exact .single (.file hinside)

variable {ctx} in
theorem steps_content? {path : String} (hinside : ctx.source.web.containsPath path) :
    Steps ctx s (content? ctx path s).2 := by
  rw [content?_apply]
  exact .single (.content hinside)

theorem steps_term? (id : Guid) : Steps ctx s (term? ctx id s).2 := by
  rw [term?, orElse_ask]
  exact .single (.term id)

/-- A transfer asks for the content of a file that may be copied, and may then copy it. -/
theorem steps_transfer (link : String) : Steps ctx s (transfer ctx link s).2 := by
  by_cases hcopies : ∃ servedFrom, ctx.Copies (Link.lookupPath link) servedFrom
  swap
  · rw [transfer_of_not_copies (not_exists.mp hcopies)]
  obtain ⟨servedFrom, hcopies⟩ := hcopies
  rw [transfer_of_copies hcopies]
  have hasked : Steps ctx s { s with history := .content (Link.lookupPath link) :: s.history } :=
    .single (.content hcopies.inside)
  cases s.copies.get? (copyKey (Link.lookupPath link)) with
  | some copy => exact .refl
  | none =>
      rcases ctx.source.content s.history (Link.lookupPath link) with e | _ | content
      · exact hasked
      · exact hasked
      · cases hwritten : s.folder.write content (Link.fileName (Link.lookupPath link)) with
        | error e =>
            simp only [hwritten]
            exact hasked.tail (.breakOff hcopies hwritten)
        | ok written =>
            simp only [hwritten]
            exact hasked.tail (.copy hcopies hwritten)

end

end Run

open Run in
/-- **Steps.** All look-ups and transfers of a run take steps, and so does all that is made of
them. -/
theorem Context.steps_mirror (ctx : Context) (start : RunState) :
    ctx.Mirrors (fun s t => s = t ∧ Steps ctx start s) ctx where
  eq := ⟨ctx.source, ctx.settings.cacheLookups, rfl⟩
  list? id := by
    rintro s _ ⟨rfl, hs⟩
    exact ⟨rfl, rfl, hs.trans (steps_list? ctx s id)⟩
  users query := by
    rintro s _ ⟨rfl, hs⟩
    exact ⟨rfl, rfl, hs.trans (steps_users ctx s query)⟩
  file? path hinside := by
    rintro s _ ⟨rfl, hs⟩
    exact ⟨rfl, rfl, hs.trans (steps_file? s hinside)⟩
  content? path hinside := by
    rintro s _ ⟨rfl, hs⟩
    exact ⟨rfl, rfl, hs.trans (steps_content? s hinside)⟩
  term? id := by
    rintro s _ ⟨rfl, hs⟩
    exact ⟨rfl, rfl, hs.trans (steps_term? ctx s id)⟩
  transfer link := by
    rintro s _ ⟨rfl, hs⟩
    exact ⟨rfl, rfl, hs.trans (steps_transfer ctx s link)⟩

end PageMigration
