import PageMigration.Proofs.Run.Remembered
import PageMigration.Proofs.Transform.Steps

/-!
# Jobs that do not depend on each other

A run from a snapshot that copies no files has nothing to show for what it has done but its caches,
and these hold what the snapshot would answer.  So a job comes to the same whatever jobs have been
done before it, and with the caches on or off.

## Main definitions

* `Context.afterJobs` : the state after jobs one after the other.
* `Context.withCaches`, `Context.Stays` : a run with its caches on or off, and one without copies.

## Main results

* `Context.mirrors_withCaches` : two such runs find the same in all their look-ups.
* `Job.independent_of_earlier` : a job comes to the same in both.
-/

namespace PageMigration

open Run

/-- The state after jobs have been done one after the other. -/
def Context.afterJobs (ctx : Context) (folder : AssetFolder) (jobs : List Job) : RunState :=
  (jobs.mapM (Job.run ctx) (ctx.start folder)).2

/-- The run with its caches on or off. -/
def Context.withCaches (ctx : Context) (enabled : Bool) : Context :=
  { ctx with settings := { ctx.settings with cacheLookups := enabled } }

/-- A run in which no files are copied: content stays in its web, or there is no place for
copies. -/
def Context.Stays (ctx : Context) : Prop :=
  ctx.isCrossSite = false ∨ ctx.servedFrom = none

theorem Context.Stays.not_copies {ctx : Context} (h : ctx.Stays) (path servedFrom : String) :
    ¬ ctx.Copies path servedFrom := by
  intro hcopies
  rcases h with hsame | hnowhere
  · have hcross := hcopies.crossSite
    rw [hsame] at hcross
    cases hcross
  · have hserved := hcopies.served
    rw [hnowhere] at hserved
    cases hserved

section

variable {ctx : Context} {site : Snapshot} (hsource : ctx.source = site.source)
include hsource

theorem Context.faithful_afterJobs (folder : AssetFolder) (jobs : List Job) :
    Faithful site (ctx.afterJobs folder jobs) := by
  have hsteps := Job.steps_mapM ctx jobs (ctx.start folder)
  exact hsteps.faithful hsource (faithful_start ctx site folder)

theorem Context.asksOnce_afterJobs (hcache : ctx.settings.cacheLookups) (folder : AssetFolder)
    (jobs : List Job) : AsksOnce (ctx.afterJobs folder jobs) := by
  have hsteps := Job.steps_mapM ctx jobs (ctx.start folder)
  exact hsteps.asksOnce hsource (asksOnce_start hcache folder)

/-- **Caches do not show.** Two runs from a snapshot that copy no files, each with its caches on or
off, find the same in all their look-ups, whatever their caches hold of the answers. -/
theorem Context.mirrors_withCaches (hstays : ctx.Stays) (enabled : Bool) :
    ctx.Mirrors (fun s t => Faithful site s ∧ Faithful site t) (ctx.withCaches enabled) := by
  have hsource' : (ctx.withCaches enabled).source = site.source := hsource
  have hstays' : (ctx.withCaches enabled).Stays := hstays
  -- Steps keep what the caches hold, so only the values that are found have to be compared.
  have hkept {α : Type} {x y : Run α} (hvalue : ∀ s t, Faithful site s → Faithful site t →
      (x s).1 = (y t).1) (hx : ∀ s, Steps ctx s (x s).2)
      (hy : ∀ t, Steps (ctx.withCaches enabled) t (y t).2) :
      Agree (fun s t => Faithful site s ∧ Faithful site t) x y := by
    rintro s t ⟨hs, ht⟩
    exact ⟨hvalue s t hs ht, (hx s).faithful hsource hs, (hy t).faithful hsource' ht⟩
  constructor
  case eq => exact ⟨ctx.source, enabled, rfl⟩
  case list? =>
    refine fun id => hkept (fun s t hs ht => ?_) (steps_list? _ · id) (steps_list? _ · id)
    by_cases hid : id = .nil
    · rw [hid]
      rfl
    · rw [list?_fst hsource hs hid, list?_fst hsource' ht hid]
  case users =>
    refine fun query => hkept (fun s t hs ht => ?_) (steps_users _ · query) (steps_users _ · query)
    rw [users_fst hsource hs, users_fst hsource' ht]
  case file? =>
    refine fun path hinside =>
      hkept (fun s t _ _ => ?_) (steps_file? · hinside) (steps_file? · hinside)
    rw [file?, file?, orElse_ask, orElse_ask, hsource, hsource']
    rfl
  case content? =>
    refine fun path hinside =>
      hkept (fun s t _ _ => ?_) (steps_content? · hinside) (steps_content? · hinside)
    rw [content?_apply, content?_apply, hsource, hsource']
    rfl
  case term? =>
    refine fun id => hkept (fun s t _ _ => ?_) (steps_term? _ · id) (steps_term? _ · id)
    rw [term?, term?, orElse_ask, orElse_ask, hsource, hsource']
    rfl
  case transfer =>
    refine fun link =>
      hkept (fun s t _ _ => ?_) (steps_transfer _ · link) (steps_transfer _ · link)
    rw [transfer_of_not_copies (hstays.not_copies _), transfer_of_not_copies (hstays'.not_copies _)]

end

/-- **Independent jobs.** In a run from a snapshot that copies no files, a job comes to the same
whatever jobs have been done before it, if any, and with the caches on or off.  If they are on,
no list and no user is asked for twice in the whole run; logins that differ in the case of ASCII
letters are one user. -/
theorem Job.independent_of_earlier {ctx : Context} (site : Snapshot)
    (hsource : ctx.source = site.source) (hstays : ctx.Stays) (folder : AssetFolder)
    (earlier : List Job) (job : Job) :
    (∀ (enabled : Bool) (folder' : AssetFolder) (earlier' : List Job),
      let other := ctx.withCaches enabled
      (job.run ctx (ctx.afterJobs folder earlier)).1 =
        (job.run other (other.afterJobs folder' earlier')).1) ∧
    (ctx.settings.cacheLookups →
      let history := (ctx.afterJobs folder (earlier ++ [job])).history
      (history.filterMap Lookup.listId?).Nodup ∧ (history.filterMap Lookup.userKey?).Nodup ∧
        ∀ a b, (UserQuery.login a).cacheKey = (UserQuery.login b).cacheKey ↔
          Text.sameName a b) := by
  refine ⟨fun enabled folder' earlier' => ?_, fun hcache => ?_⟩
  · have hagree := Job.agree_run (Context.mirrors_withCaches hsource hstays enabled) job
    have hs := Context.faithful_afterJobs hsource folder earlier
    have hsource' : (ctx.withCaches enabled).source = site.source := hsource
    have ht := Context.faithful_afterJobs hsource' folder' earlier'
    exact (hagree _ _ ⟨hs, ht⟩).1
  · have honce := Context.asksOnce_afterJobs hsource hcache folder (earlier ++ [job])
    refine ⟨honce.lists.nodup, honce.users.nodup, fun a b => ?_⟩
    simp [UserQuery.cacheKey_eq_iff]

/-- Jo is asked for in three spellings, the last time for a property of a part, and the user list is
asked once. -/
theorem Job.independent_of_earlier_of_spellings :
    let site : Snapshot :=
      { web := ⟨"https://old.com/a", "/a"⟩
        users := [{ id := 7, loginName := "Jo@old.com", name := "Jo" }] }
    let ctx : Context :=
      { source := site.source, target := some ⟨"https://old.com/A", "/a"⟩, servedFrom := some "/a" }
    let look (login : String) : Job := .call .general
      { addOn := "", name := "LookupPerson", output := "Person"
        inputs := [{ name := "Login", value := login }] }
    let part : Part :=
      { definition := { typeName := "T", properties := [{ name := "Owner" }] }
        unit := { typeName := "T", properties := PropertyBag.set {} "Owner" "jo@OLD.com" } }
    let job : Job := .functions .general "LookupPerson(\x7bOwner\x7d)" part
    let earlier : List Job := [look "JO@old.com", look "Jo@Old.com"]
    let uncached := ctx.withCaches false
    ctx.Stays ∧
      (job.run ctx (ctx.afterJobs {} earlier)).1 =
        (job.run uncached (uncached.afterJobs {} [])).1 ∧
      (ctx.afterJobs {} (earlier ++ [job])).history = [.users (.login "JO@old.com")] ∧
      (uncached.afterJobs {} (earlier ++ [job])).history.length = 3 := by
  intro site ctx look part job earlier uncached
  have hstays : ctx.Stays := Or.inl (by decide +kernel)
  obtain ⟨hsame, -⟩ := Job.independent_of_earlier site rfl hstays {} earlier job
  exact ⟨hstays, hsame false {} [], by decide +kernel, by decide +kernel⟩

end PageMigration
