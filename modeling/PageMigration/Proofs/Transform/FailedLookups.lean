import PageMigration.Proofs.Transform.Agreement
import PageMigration.Site.Snapshot

/-!
# Look-ups that fail

A look-up that fails is treated like one that finds nothing.  The two are still told apart by the
caches: it is remembered that nothing was found, while a look-up that failed is made again.  So a
run with a source that fails and a run with a source that has nothing there go on with caches that
differ, but only on the keys of these look-ups, where neither cache knows anything that is found.
The sources are asked differently often there, and must not answer other look-ups differently for
it.

## Main definitions

* `Failures` : the look-ups on which a source fails.
* `Source.FailsOn`, `Source.absentOn` : a source that fails, and the one that has nothing instead.
* `Alike` : states of two runs with these sources.

## Main results

* `agree_askOnce` : a look-up that is remembered finds the same in both runs.
* `mirrors_absentOn` : all look-ups do.
* `Job.failing_like_absent` : jobs come to the same with both sources.
-/

namespace PageMigration

/-! ### Sources that fail -/

/-- The look-ups on which a source fails: lists and terms by their identifiers, users by the keys of
questions, and files by their paths. -/
structure Failures where
  list : Guid → Bool := fun _ => false
  file : String → Bool := fun _ => false
  content : String → Bool := fun _ => false
  users : String → Bool := fun _ => false
  term : Guid → Bool := fun _ => false

namespace Failures

/-- Whether a look-up is one of those that fail. -/
def covers (failures : Failures) : Lookup → Bool
  | .list id => failures.list id
  | .file path => failures.file path
  | .content path => failures.content path
  | .users query => failures.users query.cacheKey
  | .term id => failures.term id

/-- The look-ups of a history that do not fail. -/
def answered (failures : Failures) (history : History) : History :=
  history.filter fun lookup => !failures.covers lookup

@[simp] theorem answered_cons_of_covers {failures : Failures} {lookup : Lookup}
    (h : failures.covers lookup) (history : History) :
    failures.answered (lookup :: history) = failures.answered history := by
  simp [answered, h]

end Failures

namespace Source

variable (source : Source) (failures : Failures)

/-- A source that fails on some look-ups, whenever they are made. -/
structure FailsOn : Prop where
  list : ∀ history id, failures.list id → ∃ e, source.list history id = .error e
  file : ∀ history path, failures.file path → ∃ e, source.file history path = .error e
  content : ∀ history path, failures.content path → ∃ e, source.content history path = .error e
  users : ∀ history query, failures.users query.cacheKey → ∃ e,
    source.users history query = .error e
  term : ∀ history id, failures.term id → ∃ e, source.term history id = .error e

/-- A source whose answers do not depend on the look-ups that failed before, of which one run may
make more than another. -/
structure Forgets : Prop where
  list : ∀ id, failures.list id = false → ∀ h h', failures.answered h = failures.answered h' →
    source.list h id = source.list h' id
  file : ∀ path, failures.file path = false → ∀ h h',
    failures.answered h = failures.answered h' → source.file h path = source.file h' path
  content : ∀ path, failures.content path = false → ∀ h h',
    failures.answered h = failures.answered h' → source.content h path = source.content h' path
  users : ∀ query, failures.users query.cacheKey = false → ∀ h h',
    failures.answered h = failures.answered h' → source.users h query = source.users h' query
  term : ∀ id, failures.term id = false → ∀ h h', failures.answered h = failures.answered h' →
    source.term h id = source.term h' id

/-- The source that has nothing where another one fails, and has the same elsewhere. -/
def absentOn : Source where
  web := source.web
  list history id := if failures.list id then .ok none else source.list history id
  file history path := if failures.file path then .ok none else source.file history path
  content history path := if failures.content path then .ok none else source.content history path
  users history query :=
    if failures.users query.cacheKey then .ok [] else source.users history query
  term history id := if failures.term id then .ok none else source.term history id

end Source

/-! ### States that are alike -/

/-- Two caches that differ on the keys of failing look-ups only: there the first one knows nothing,
and the second one knows at most that there is nothing. -/
structure AlikeCaches {κ α : Type} [DecidableEq κ] (fails : κ → Bool) (nothing : α)
    (a b : ReadThrough κ α) : Prop where
  enabled : a.enabled = b.enabled
  same : ∀ key, fails key = false → a.get? key = b.get? key
  unknown : ∀ key, fails key → a.get? key = none
  absent : ∀ key, fails key → b.get? key = none ∨ b.get? key = some nothing

/-- States of a run with a source that fails and of one with a source that has nothing instead. -/
structure Alike (failures : Failures) (s t : RunState) : Prop where
  history : failures.answered s.history = failures.answered t.history
  users : AlikeCaches failures.users [] s.users t.users
  lists : AlikeCaches failures.list none s.lists t.lists
  copies : s.copies = t.copies
  folder : s.folder = t.folder

namespace AlikeCaches

variable {κ α : Type} [DecidableEq κ] {fails : κ → Bool} {nothing : α} {a b : ReadThrough κ α}

theorem empty (enabled : Bool) :
    AlikeCaches fails nothing { enabled : ReadThrough κ α } { enabled } :=
  ⟨rfl, fun _ _ => rfl, fun _ _ => by simp [ReadThrough.get?, ReadThrough.find?],
    fun _ _ => Or.inl (by simp [ReadThrough.get?, ReadThrough.find?])⟩

theorem insert (h : AlikeCaches fails nothing a b) {key : κ} (hkey : fails key = false)
    (value : α) : AlikeCaches fails nothing (a.insert key value) (b.insert key value) := by
  have hother (k : κ) (hk : fails k) : ¬ (key = k) := fun heq => by
    rw [heq, hk] at hkey
    cases hkey
  refine ⟨by simp [h.enabled], fun k hk => ?_, fun k hk => ?_, fun k hk => ?_⟩
  · rw [ReadThrough.get?_insert, ReadThrough.get?_insert, h.enabled, h.same k hk]
  · rw [ReadThrough.get?_insert, if_neg fun hc => hother k hk hc.2]
    exact h.unknown k hk
  · rw [ReadThrough.get?_insert, if_neg fun hc => hother k hk hc.2]
    exact h.absent k hk

/-- The second cache may come to know that there is nothing. -/
theorem insert_nothing (h : AlikeCaches fails nothing a b) {key : κ} (hkey : fails key) :
    AlikeCaches fails nothing a (b.insert key nothing) := by
  refine ⟨by simp [h.enabled], fun k hk => ?_, h.unknown, fun k hk => ?_⟩
  · rw [ReadThrough.get?_insert, if_neg, h.same k hk]
    rintro ⟨-, rfl⟩
    rw [hkey] at hk
    cases hk
  · rw [ReadThrough.get?_insert]
    split_ifs
    · exact Or.inr rfl
    · exact h.absent k hk

end AlikeCaches

namespace Alike

variable {failures : Failures} {s t : RunState}

/-- A look-up that reaches both sources leaves alike states. -/
theorem ask (h : Alike failures s t) (lookup : Lookup) :
    Alike failures { s with history := lookup :: s.history }
      { t with history := lookup :: t.history } :=
  ⟨by simp only [Failures.answered, List.filter_cons]; rw [← Failures.answered, h.history]; rfl,
    h.users, h.lists, h.copies, h.folder⟩

/-- A look-up that fails leaves alike states even if the other source is not asked. -/
theorem ask_left (h : Alike failures s t) {lookup : Lookup} (hcovers : failures.covers lookup) :
    Alike failures { s with history := lookup :: s.history } t :=
  ⟨by rw [Failures.answered_cons_of_covers hcovers, h.history], h.users, h.lists, h.copies,
    h.folder⟩

theorem start (ctx : Context) (source : Source) (folder : AssetFolder) :
    Alike failures (ctx.start folder) ({ ctx with source }.start folder) :=
  ⟨rfl, .empty _, .empty _, rfl, rfl⟩

end Alike

/-! ### Look-ups -/

section Lookups

open Run

variable {α κ : Type} [DecidableEq κ] {failures : Failures}

/-- Two answers to a question: where the look-up fails there is an error and nothing, and elsewhere
the same. -/
structure AnswersAlike (failures : Failures) (question : Lookup) (nothing : α)
    (a b : History → Except SourceError α) : Prop where
  fails : failures.covers question → ∀ history, ∃ e, a history = .error e
  nothing : failures.covers question → ∀ history, b history = .ok nothing
  same : failures.covers question = false → ∀ h h', failures.answered h = failures.answered h' →
    a h = b h'

/-- The answers of a source that fails, and those of the source that has nothing instead. -/
theorem AnswersAlike.of_absent {question : Lookup} {nothing : α}
    {a : History → Except SourceError α}
    (hfails : failures.covers question → ∀ history, ∃ e, a history = .error e)
    (hsame : failures.covers question = false → ∀ h h',
      failures.answered h = failures.answered h' → a h = a h') :
    AnswersAlike failures question nothing a
      fun history => if failures.covers question then .ok nothing else a history := by
  refine ⟨hfails, fun hc _ => if_pos hc, fun hc h h' heq => ?_⟩
  rw [hc, if_neg Bool.false_ne_true]
  exact hsame hc h h' heq

/-- A look-up that is not remembered finds the same in both runs. -/
theorem agree_orElse_ask {question : Lookup} {nothing : α} {a b : History → Except SourceError α}
    (hanswers : AnswersAlike failures question nothing a b) :
    Agree (Alike failures) (orElse (Run.ask question a) nothing)
      (orElse (Run.ask question b) nothing) := by
  intro s t h
  rw [orElse_ask, orElse_ask]
  refine ⟨?_, h.ask question⟩
  cases hc : failures.covers question with
  | true =>
      obtain ⟨e, he⟩ := hanswers.fails hc s.history
      rw [he, hanswers.nothing hc]
      rfl
  | false => rw [hanswers.same hc _ _ h.history]

/-- A look-up that is remembered finds the same in both runs, whether it fails or not. -/
theorem agree_askOnce {cache : RunState → ReadThrough κ α}
    {store : ReadThrough κ α → RunState → RunState} {key : κ} {question : Lookup} {nothing : α}
    {a b : History → Except SourceError α} {fails : κ → Bool}
    (hcaches : ∀ {s t}, Alike failures s t → AlikeCaches fails nothing (cache s) (cache t))
    (hstored : ∀ {s t c d}, Alike failures s t → AlikeCaches fails nothing c d →
      Alike failures (store c s) (store d t))
    (hkept : ∀ s history, store (cache s) { s with history } = { s with history })
    (hfails : failures.covers question = fails key)
    (hanswers : AnswersAlike failures question nothing a b) :
    Agree (Alike failures) (orElse (askOnce cache store key question a) nothing)
      (orElse (askOnce cache store key question b) nothing) := by
  intro s t h
  have hc := hcaches h
  rw [orElse_apply, orElse_apply]
  cases hkey : fails key with
  | true =>
      rw [hkey] at hfails
      obtain ⟨e, he⟩ := hanswers.fails hfails s.history
      rw [askOnce_of_unknown (hc.unknown key hkey)]
      simp only [he]
      rcases hc.absent key hkey with hunknown | hknown
      · rw [askOnce_of_unknown hunknown]
        simp only [hanswers.nothing hfails]
        have hstate := hstored (h.ask question) (hc.insert_nothing hkey)
        rw [hkept] at hstate
        exact ⟨rfl, hstate⟩
      · rw [askOnce_of_known hknown, hkept t t.history]
        exact ⟨rfl, h.ask_left hfails⟩
  | false =>
      rw [hkey] at hfails
      have hsame := hc.same key hkey
      cases hs : (cache s).get? key with
      | some found =>
          rw [askOnce_of_known hs, askOnce_of_known (hsame.symm.trans hs), hkept s s.history,
            hkept t t.history]
          exact ⟨rfl, h⟩
      | none =>
          rw [askOnce_of_unknown hs, askOnce_of_unknown (hsame.symm.trans hs)]
          simp only [hanswers.same hfails _ _ h.history]
          cases b t.history with
          | error e => exact ⟨rfl, h.ask question⟩
          | ok found => exact ⟨rfl, hstored (h.ask question) (hc.insert hkey found)⟩

/-! ### Runs -/

section Runs

variable {ctx : Context} (hfails : ctx.source.FailsOn failures)
  (hforgets : ctx.source.Forgets failures)
include hfails hforgets

theorem answersAlike_content (path : String) : AnswersAlike failures (.content path) none
    (ctx.source.content · path) ((ctx.source.absentOn failures).content · path) :=
  .of_absent (fun hc history => hfails.content history path hc) (hforgets.content path)

/-- A transfer comes to the same in both runs: what cannot be read is not copied. -/
theorem agree_transfer_absentOn (link : String) : Agree (Alike failures) (transfer ctx link)
    (transfer { ctx with source := ctx.source.absentOn failures } link) := by
  intro s t h
  let absent : Context := { ctx with source := ctx.source.absentOn failures }
  have hsame (servedFrom : String) : absent.Copies (Link.lookupPath link) servedFrom ↔
      ctx.Copies (Link.lookupPath link) servedFrom :=
    ctx.copies_answeredBy (ctx.source.absentOn failures) ctx.settings.cacheLookups
  by_cases hcopies : ∃ servedFrom, ctx.Copies (Link.lookupPath link) servedFrom
  swap
  · have hnot := not_exists.mp hcopies
    have hnot' (servedFrom : String) : ¬ absent.Copies (Link.lookupPath link) servedFrom :=
      (hsame servedFrom).not.mpr (hnot servedFrom)
    rw [transfer_of_not_copies hnot, transfer_of_not_copies hnot']
    exact ⟨rfl, h⟩
  obtain ⟨servedFrom, hcopies⟩ := hcopies
  rw [transfer_of_copies hcopies, transfer_of_copies ((hsame servedFrom).mpr hcopies), ← h.copies,
    ← h.folder]
  have hanswers := answersAlike_content hfails hforgets (Link.lookupPath link)
  generalize Link.lookupPath link = path at hanswers ⊢
  have hask := h.ask (.content path)
  rw [← h.copies, ← h.folder] at hask
  cases s.copies.get? (copyKey path) with
  | some copy => exact ⟨rfl, h⟩
  | none =>
      cases hc : failures.covers (.content path) with
      | true =>
          obtain ⟨e, he⟩ := hanswers.fails hc s.history
          have hnothing : absent.source.content t.history path = .ok none :=
            hanswers.nothing hc t.history
          rw [he, hnothing]
          exact ⟨rfl, hask⟩
      | false =>
          have hcontent : ctx.source.content s.history path =
              absent.source.content t.history path := hanswers.same hc _ _ h.history
          rw [hcontent]
          rcases absent.source.content t.history path with e | _ | content
          · exact ⟨rfl, hask⟩
          · exact ⟨rfl, hask⟩
          · dsimp only
            cases s.folder.write content (Link.fileName path) with
            | error e => exact ⟨rfl, hask.history, hask.users, hask.lists, rfl, rfl⟩
            | ok written => exact ⟨rfl, hask.history, hask.users, hask.lists, rfl, rfl⟩

/-- **Failures and absence.** All look-ups find the same in a run with a source that fails and in
one with a source that has nothing instead. -/
theorem mirrors_absentOn :
    ctx.Mirrors (Alike failures) { ctx with source := ctx.source.absentOn failures } where
  eq := ⟨ctx.source.absentOn failures, ctx.settings.cacheLookups, rfl⟩
  list? id := by
    by_cases hid : id = .nil
    · rw [hid]
      exact .pure none
    rw [list?_eq _ hid, list?_eq _ hid]
    exact agree_askOnce Alike.lists
      (fun h hc => ⟨h.history, h.users, hc, h.copies, h.folder⟩) (fun _ _ => rfl) rfl
      (.of_absent (fun hc history => hfails.list history id hc) (hforgets.list id))
  users query := by
    rw [users_eq, users_eq]
    exact agree_askOnce Alike.users
      (fun h hc => ⟨h.history, hc, h.lists, h.copies, h.folder⟩) (fun _ _ => rfl) rfl
      (.of_absent (fun hc history => hfails.users history query hc) (hforgets.users query))
  file? path _ :=
    agree_orElse_ask
      (.of_absent (fun hc history => hfails.file history path hc) (hforgets.file path))
  content? path _ := agree_orElse_ask (answersAlike_content hfails hforgets path)
  term? id :=
    agree_orElse_ask (.of_absent (fun hc history => hfails.term history id hc) (hforgets.term id))
  transfer := agree_transfer_absentOn hfails hforgets

end Runs

end Lookups

/-- **Failing like absent.** Jobs come to the same with a source that fails on some look-ups and
with the one that has nothing instead, and they leave the same files in the folder.  So no failure
of a source is ever a failure of a function. -/
theorem Job.failing_like_absent (ctx : Context) {failures : Failures}
    (hfails : ctx.source.FailsOn failures) (hforgets : ctx.source.Forgets failures)
    (folder : AssetFolder) (jobs : List Job) :
    let absent : Context := { ctx with source := ctx.source.absentOn failures }
    let run := jobs.mapM (Job.run ctx) (ctx.start folder)
    let run' := jobs.mapM (Job.run absent) (absent.start folder)
    run.1 = run'.1 ∧ run.2.folder = run'.2.folder := by
  intro absent run run'
  have hagree := Job.agree_mapM (mirrors_absentOn hfails hforgets) jobs
  obtain ⟨hanswers, halike⟩ :=
    hagree _ _ (Alike.start ctx (ctx.source.absentOn failures) folder)
  exact ⟨hanswers, halike.folder⟩

/-- A person is asked for twice, in vain and then again, and is taken from the login as if the user
list knew nobody. -/
theorem Job.failing_like_absent_of_users :
    let site : Snapshot := { web := ⟨"https://old.com/a", "/a"⟩ }
    let source : Source := { site.source with users := fun _ _ => .error .notAvailable }
    let failures : Failures := { users := fun _ => true }
    let ctx : Context := { source }
    let absent : Context := { ctx with source := source.absentOn failures }
    let job : Job := .call .general
      { addOn := "", name := "LookupPerson", output := "Person"
        inputs := [{ name := "Login", value := "jo@new.com" }] }
    let person : Output := .map [("PersonDepartment", ""), ("PersonEmail", "jo@new.com"),
      ("PersonIsGroup", "false"), ("PersonName", "jo@new.com"), ("PersonPhone", ""),
      ("PersonRole", ""), ("PersonSip", ""), ("PersonUPN", "jo@new.com")]
    source.FailsOn failures ∧ source.Forgets failures ∧
      ([job, job].mapM (Job.run ctx) (ctx.start {})).1 =
        [.output (.ok person), .output (.ok person)] ∧
      ([job, job].mapM (Job.run ctx) (ctx.start {})).2.history.length = 2 ∧
      ([job, job].mapM (Job.run absent) (absent.start {})).2.history.length = 1 := by
  intro site source failures ctx absent job person
  have hfails : source.FailsOn failures :=
    ⟨fun _ _ h => (Bool.false_ne_true h).elim, fun _ _ h => (Bool.false_ne_true h).elim,
      fun _ _ h => (Bool.false_ne_true h).elim, fun _ _ _ => ⟨.notAvailable, rfl⟩,
      fun _ _ h => (Bool.false_ne_true h).elim⟩
  have hforgets : source.Forgets failures :=
    ⟨fun _ _ _ _ _ => rfl, fun _ _ _ _ _ => rfl, fun _ _ _ _ _ => rfl, fun _ _ _ _ _ => rfl,
      fun _ _ _ _ _ => rfl⟩
  refine ⟨hfails, hforgets, ?_, by decide +kernel, by decide +kernel⟩
  rw [(Job.failing_like_absent ctx hfails hforgets {} [job, job]).1]
  decide +kernel

end PageMigration
