import PageMigration.Proofs.Run.Steps
import PageMigration.Site.Snapshot

/-!
# Answers that are remembered

A snapshot always answers the same, so what the caches hold is what it would answer.  For lists this
is plain; for users it rests on the keys of questions, which are equal only for questions with the
same answers.  A snapshot never fails either, so if the caches are on, every answer about lists and
users is remembered, and none of these questions reaches the snapshot a second time.

## Main definitions

* `Run.Faithful` : states whose caches hold what a snapshot answers.
* `Run.AsksOnce` : states in which no list and no key of users has been asked for twice.

## Main results

* `Run.Steps.faithful`, `Run.Steps.asksOnce` : steps keep both.
* `Run.list?_fst`, `Run.users_fst` : lists and users are what the snapshot answers.
-/

namespace PageMigration

/-- The identifier of the list that a look-up asks for. -/
def Lookup.listId? : Lookup → Option Guid
  | .list id => some id
  | _ => none

/-- The key of the question about users that a look-up asks. -/
def Lookup.userKey? : Lookup → Option String
  | .users query => some query.cacheKey
  | _ => none

namespace Run

variable {ctx : Context} {site : Snapshot} {s t : RunState}

theorem list_of_snapshot (hsource : ctx.source = site.source) (history : History) (id : Guid) :
    ctx.source.list history id = .ok (site.list? id) := by
  rw [hsource]
  rfl

theorem users_of_snapshot (hsource : ctx.source = site.source) (history : History)
    (query : UserQuery) : ctx.source.users history query = .ok (site.findUsers query) := by
  rw [hsource]
  rfl

/-! ### What the caches hold -/

/-- The caches for lists and users hold nothing but what a snapshot answers. -/
structure Faithful (site : Snapshot) (s : RunState) : Prop where
  lists : ∀ id found, s.lists.get? id = some found → found = site.list? id
  users : ∀ query found, s.users.get? query.cacheKey = some found → found = site.findUsers query

theorem faithful_start (ctx : Context) (site : Snapshot) (folder : AssetFolder) :
    Faithful site (ctx.start folder) where
  lists := by simp [Context.start, ReadThrough.get?, ReadThrough.find?]
  users := by simp [Context.start, ReadThrough.get?, ReadThrough.find?]

theorem Step.faithful (h : Step ctx s t) (hsource : ctx.source = site.source)
    (hs : Faithful site s) : Faithful site t := by
  cases h with
  | @list id hid hunknown =>
      have hanswer := list_of_snapshot hsource s.history id
      refine ⟨fun other found hfound => ?_, hs.users⟩
      simp only [hanswer, ReadThrough.remember, ReadThrough.get?_insert] at hfound
      split_ifs at hfound with hnew
      · rw [← hnew.2]
        exact (Option.some.inj hfound).symm
      · exact hs.lists other found hfound
  | @users query hunknown =>
      have hanswer := users_of_snapshot hsource s.history query
      refine ⟨hs.lists, fun other found hfound => ?_⟩
      simp only [hanswer, ReadThrough.remember, ReadThrough.get?_insert] at hfound
      -- The entry may have been asked for in another spelling of the login.
      split_ifs at hfound with hnew
      · rw [← site.findUsers_congr hnew.2]
        exact (Option.some.inj hfound).symm
      · exact hs.users other found hfound
  | file | content | term | copy | breakOff => exact ⟨hs.lists, hs.users⟩

theorem Steps.faithful (h : Steps ctx s t) (hsource : ctx.source = site.source)
    (hs : Faithful site s) : Faithful site t := by
  induction h with
  | refl => exact hs
  | tail _ hstep ih => exact hstep.faithful hsource ih

/-! ### What look-ups find -/

/-- A look-up finds an answer that the cache holds if it holds any. -/
theorem askOnce_fst {α κ : Type} [DecidableEq κ] {cache : RunState → ReadThrough κ α}
    {store : ReadThrough κ α → RunState → RunState} {key : κ} {question : Lookup}
    {answer : History → Except SourceError α} {value : α} (hanswer : answer s.history = .ok value)
    (hcache : ∀ found, (cache s).get? key = some found → found = value) :
    (askOnce cache store key question answer s).1 = .ok value := by
  cases hknown : (cache s).get? key with
  | some found => rw [askOnce_of_known hknown, hcache found hknown]
  | none =>
      rw [askOnce_of_unknown hknown]
      simp only [hanswer]

theorem list?_fst (hsource : ctx.source = site.source) (hs : Faithful site s) {id : Guid}
    (hid : id ≠ .nil) : (list? ctx id s).1 = site.list? id := by
  have hanswer := list_of_snapshot hsource s.history id
  rw [list?_eq ctx hid, orElse_apply, askOnce_fst hanswer (hs.lists id)]
  rfl

theorem users_fst (hsource : ctx.source = site.source) (hs : Faithful site s) (query : UserQuery) :
    (users ctx query s).1 = site.findUsers query := by
  have hanswer := users_of_snapshot hsource s.history query
  rw [users_eq, orElse_apply, askOnce_fst hanswer (hs.users query)]
  rfl

/-! ### Questions that are asked once -/

/-- A cache that is on knows some keys, of which none occurs twice. -/
structure KnowsOnce {κ α : Type} [DecidableEq κ] (cache : ReadThrough κ α) (keys : List κ) :
    Prop where
  enabled : cache.enabled
  nodup : keys.Nodup
  known : ∀ key ∈ keys, (cache.get? key).isSome

theorem KnowsOnce.insert {κ α : Type} [DecidableEq κ] {cache : ReadThrough κ α} {keys : List κ}
    (h : KnowsOnce cache keys) {key : κ} (hunknown : cache.get? key = none) (value : α) :
    KnowsOnce (cache.insert key value) (key :: keys) where
  enabled := by rw [ReadThrough.enabled_insert, h.enabled]
  nodup := by
    refine List.nodup_cons.mpr ⟨fun hmem => ?_, h.nodup⟩
    have hknown := h.known key hmem
    rw [hunknown] at hknown
    cases hknown
  known := by
    intro other hother
    rw [ReadThrough.get?_insert]
    split_ifs with hnew
    · rfl
    · rcases List.mem_cons.mp hother with rfl | hother
      · exact absurd ⟨h.enabled, rfl⟩ hnew
      · exact h.known other hother

/-- No list and no key of users has been asked for twice. -/
structure AsksOnce (s : RunState) : Prop where
  lists : KnowsOnce s.lists (s.history.filterMap Lookup.listId?)
  users : KnowsOnce s.users (s.history.filterMap Lookup.userKey?)

theorem asksOnce_start (hcache : ctx.settings.cacheLookups) (folder : AssetFolder) :
    AsksOnce (ctx.start folder) :=
  ⟨⟨hcache, .nil, by simp [Context.start]⟩, ⟨hcache, .nil, by simp [Context.start]⟩⟩

theorem Step.asksOnce (h : Step ctx s t) (hsource : ctx.source = site.source) (hs : AsksOnce s) :
    AsksOnce t := by
  cases h with
  | @list id hid hunknown =>
      rw [list_of_snapshot hsource]
      exact ⟨hs.lists.insert hunknown (site.list? id), hs.users⟩
  | @users query hunknown =>
      rw [users_of_snapshot hsource]
      exact ⟨hs.lists, hs.users.insert hunknown (site.findUsers query)⟩
  | file | content | term | copy | breakOff => exact ⟨hs.lists, hs.users⟩

theorem Steps.asksOnce (h : Steps ctx s t) (hsource : ctx.source = site.source)
    (hs : AsksOnce s) : AsksOnce t := by
  induction h with
  | refl => exact hs
  | tail _ hstep ih => exact hstep.asksOnce hsource ih

end Run

end PageMigration
