import Mathlib.Data.Set.Card
import PageMigration.Run.ReadThrough

/-!
# Histories of a cache

A cache is called to look a value up, to put one in, and to fetch one with a computation at hand.
What it replies is told by the history of these calls: the entry for a key is the value that was
last put in or computed for it, and a computation runs only where there is no entry.

Each call to fetch comes with the outcome that its computation has if it runs, whatever that is.
Whether it runs is observed, since the computation reports it.

## Main definitions

* `ReadThrough.Call`, `ReadThrough.Reply`, `ReadThrough.Event` : calls with the replies to them.
* `ReadThrough.Trace.after` : the events and the cache after some calls.
* `ReadThrough.lastWritten` : the entry for a key, as the events tell it.
* `ReadThrough.Event.Follows` : the replies of a plain map.

## Main results

* `ReadThrough.replies_reply` : what one call does.
* `ReadThrough.get?_after`, `ReadThrough.encard_keys_after`, `ReadThrough.follows_after` : the
  entries, their number and the replies after any calls.
* `ReadThrough.FollowsMap.computesOnce` : computations between two values that are put in.
* `ReadThrough.refines_map` : a cache that is on, and one that is off.
-/

namespace PageMigration.ReadThrough

variable {κ α ε : Type}

/-! ### Keys with an entry -/

section Keys

variable [DecidableEq κ]

theorem map_fst_put (key : κ) (value : α) (entries : List (κ × α)) :
    (put key value entries).map Prod.fst =
      if key ∈ entries.map Prod.fst then entries.map Prod.fst
      else entries.map Prod.fst ++ [key] := by
  induction entries with
  | nil => rfl
  | cons entry rest ih =>
      obtain ⟨k, v⟩ := entry
      by_cases hk : k = key
      · simp [put, hk]
      · rw [put, if_neg hk, List.map_cons, ih, List.map_cons]
        split_ifs <;> simp_all [Ne.symm hk]

theorem isSome_find?_iff {key : κ} {entries : List (κ × α)} :
    (find? key entries).isSome ↔ key ∈ entries.map Prod.fst := by
  induction entries with
  | nil => simp [find?]
  | cons entry rest ih =>
      obtain ⟨k, v⟩ := entry
      by_cases hk : k = key
      · simp [find?, hk]
      · rw [find?, if_neg hk, ih, List.map_cons, List.mem_cons, or_iff_right (Ne.symm hk)]

theorem nodup_keys_insert {cache : ReadThrough κ α} (h : (cache.entries.map Prod.fst).Nodup)
    (key : κ) (value : α) : ((cache.insert key value).entries.map Prod.fst).Nodup := by
  rw [insert]
  split_ifs
  · rw [map_fst_put]
    split_ifs with hmem
    · exact h
    · rw [← List.concat_eq_append]
      exact h.concat hmem
  · exact h

end Keys

/-! ### Calls and replies -/

/-- A call of a cache. -/
inductive Call (κ α ε : Type) where
  | get (key : κ)
  | insert (key : κ) (value : α)
  /-- The value for a key is asked for, with a computation of a certain outcome at hand. -/
  | fetch (key : κ) (outcome : Except ε α)

/-- What comes back from a call. -/
inductive Reply (α ε : Type) where
  | found (value : Option α)
  | inserted
  /-- The result, and whether the computation ran. -/
  | fetched (result : Except ε α) (ran : Bool)

/-- A call with its reply. -/
structure Event (κ α ε : Type) where
  call : Call κ α ε
  reply : Reply α ε

/-- A computation of a certain outcome, which reports that it runs. -/
def computation (outcome : Except ε α) : ExceptT ε (StateM Bool) α :=
  fun _ => (outcome, true)

variable [DecidableEq κ]

/-- The reply to a call, and the cache after it.  The cache stays as it is where a computation
fails. -/
def reply (cache : ReadThrough κ α) : Call κ α ε → Reply α ε × ReadThrough κ α
  | .get key => (.found (cache.get? key), cache)
  | .insert key value => (.inserted, cache.insert key value)
  | .fetch key outcome =>
      match cache.fetch key (computation outcome) false with
      | (.ok (value, after), ran) => (.fetched (.ok value) ran, after)
      | (.error e, ran) => (.fetched (.error e) ran, cache)

section

variable {cache : ReadThrough κ α} {key : κ}

theorem reply_known {value : α} (h : cache.get? key = some value) (outcome : Except ε α) :
    cache.reply (.fetch key outcome) = (.fetched (.ok value) false, cache) := by
  simp only [reply, fetch, h]
  rfl

theorem reply_computed (h : cache.get? key = none) (value : α) :
    cache.reply (.fetch key (.ok value : Except ε α)) =
      (.fetched (.ok value) true, cache.insert key value) := by
  simp only [reply, fetch, h]
  rfl

theorem reply_failed (h : cache.get? key = none) (e : ε) :
    cache.reply (.fetch key (.error e)) = (.fetched (.error e) true, cache) := by
  simp only [reply, fetch, h]
  rfl

end

/-- `cache.Replies call reply after` is the rule by which a call is replied and leaves the cache
`after`. -/
inductive Replies (cache : ReadThrough κ α) : Call κ α ε → Reply α ε → ReadThrough κ α → Prop
  | get (key : κ) : Replies cache (.get key) (.found (cache.get? key)) cache
  | insert (key : κ) (value : α) :
      Replies cache (.insert key value) .inserted (cache.insert key value)
  | known {key : κ} {value : α} (h : cache.get? key = some value) (outcome : Except ε α) :
      Replies cache (.fetch key outcome) (.fetched (.ok value) false) cache
  | computed {key : κ} (h : cache.get? key = none) (value : α) :
      Replies cache (.fetch key (.ok value)) (.fetched (.ok value) true) (cache.insert key value)
  | failed {key : κ} (h : cache.get? key = none) (e : ε) :
      Replies cache (.fetch key (.error e)) (.fetched (.error e) true) cache

theorem replies_reply (cache : ReadThrough κ α) (call : Call κ α ε) :
    cache.Replies call (cache.reply call).1 (cache.reply call).2 := by
  cases call with
  | get key => exact .get key
  | insert key value => exact .insert key value
  | fetch key outcome =>
      cases hknown : cache.get? key with
      | some value =>
          rw [reply_known hknown]
          exact .known hknown outcome
      | none =>
          cases outcome with
          | ok value =>
              rw [reply_computed hknown]
              exact .computed hknown value
          | error e =>
              rw [reply_failed hknown]
              exact .failed hknown e

/-! ### Histories -/

/-- The events so far, in order, and the cache after them. -/
structure Trace (κ α ε : Type) where
  events : List (Event κ α ε) := []
  cache : ReadThrough κ α

namespace Trace

/-- The trace with one more call. -/
def next (t : Trace κ α ε) (call : Call κ α ε) : Trace κ α ε where
  events := t.events ++ [⟨call, (t.cache.reply call).1⟩]
  cache := (t.cache.reply call).2

/-- The trace of some calls of a cache that is empty at first. -/
def after (enabled : Bool) (calls : List (Call κ α ε)) : Trace κ α ε :=
  calls.foldl next { cache := { enabled } }

theorem after_append_singleton (enabled : Bool) (calls : List (Call κ α ε)) (call : Call κ α ε) :
    after enabled (calls ++ [call]) = (after enabled calls).next call := by
  rw [after, List.foldl_append]
  rfl

end Trace

/-! ### The map that events tell -/

namespace Event

/-- The value that an event puts in for a key. -/
def inserted? (key : κ) (event : Event κ α ε) : Option α :=
  match event.call with
  | .insert k value => if k = key then some value else none
  | _ => none

/-- The value that a computation for a key ran for and came to. -/
def computed? (key : κ) (event : Event κ α ε) : Option α :=
  match event.call, event.reply with
  | .fetch k _, .fetched (.ok value) true => if k = key then some value else none
  | _, _ => none

/-- The value that an event writes for a key. -/
def written? (key : κ) (event : Event κ α ε) : Option α :=
  (event.inserted? key).or (event.computed? key)

/-- `event.Follows entry` says that the reply is the one of a plain map with these entries: it is
the entry where there is one, and a computation runs only where there is none. -/
inductive Follows (entry : κ → Option α) : Event κ α ε → Prop
  | get (key : κ) : Follows entry ⟨.get key, .found (entry key)⟩
  | insert (key : κ) (value : α) : Follows entry ⟨.insert key value, .inserted⟩
  | known {key : κ} {value : α} (h : entry key = some value) (outcome : Except ε α) :
      Follows entry ⟨.fetch key outcome, .fetched (.ok value) false⟩
  | unknown {key : κ} (h : entry key = none) (outcome : Except ε α) :
      Follows entry ⟨.fetch key outcome, .fetched outcome true⟩

end Event

/-- The value that was last written for a key. -/
def lastWritten (key : κ) (events : List (Event κ α ε)) : Option α :=
  (events.filterMap (Event.written? key)).getLast?

theorem lastWritten_append_singleton (key : κ) (events : List (Event κ α ε))
    (event : Event κ α ε) :
    lastWritten key (events ++ [event]) = (event.written? key).or (lastWritten key events) := by
  rw [lastWritten, List.filterMap_append]
  cases h : event.written? key <;> simp [h, lastWritten]

/-! ### What a call keeps -/

namespace Replies

variable {cache after : ReadThrough κ α} {call : Call κ α ε} {reply : Reply α ε}
  (h : cache.Replies call reply after)

include h

theorem enabled_eq : after.enabled = cache.enabled := by
  cases h with
  | get | known | failed => rfl
  | insert key value | computed _ value => exact enabled_insert ..

/-- A cache replies like the map of its entries. -/
theorem follows : Event.Follows cache.get? ⟨call, reply⟩ := by
  cases h with
  | get key => exact .get key
  | insert key value => exact .insert key value
  | known hknown outcome => exact .known hknown outcome
  | computed hunknown value => exact .unknown hunknown (.ok value)
  | failed hunknown e => exact .unknown hunknown (.error e)

/-- The entries after a call are what the event wrote and the entries before. -/
theorem get?_eq (henabled : cache.enabled) (key : κ) :
    after.get? key = (Event.written? key ⟨call, reply⟩).or (cache.get? key) := by
  cases h with
  | get | known | failed => rfl
  | @insert k value =>
      by_cases hk : k = key <;>
        simp [get?_insert, henabled, hk, Event.written?, Event.inserted?, Event.computed?]
  | @computed k _ value =>
      by_cases hk : k = key <;>
        simp [get?_insert, henabled, hk, Event.written?, Event.inserted?, Event.computed?]

/-- No key has two entries. -/
theorem nodup_keys (hnodup : (cache.entries.map Prod.fst).Nodup) :
    (after.entries.map Prod.fst).Nodup := by
  cases h with
  | get | known | failed => exact hnodup
  | insert key value | computed _ value => exact nodup_keys_insert hnodup ..

/-- A cache that is off stays empty. -/
theorem eq_of_disabled (hdisabled : cache.enabled = false) : after = cache := by
  cases h with
  | get | known | failed => rfl
  | insert key value | computed _ value => simp [ReadThrough.insert, hdisabled]

end Replies

section Histories

variable (calls : List (Call κ α ε))

theorem enabled_after (enabled : Bool) :
    (Trace.after enabled calls).cache.enabled = enabled := by
  induction calls using List.reverseRecOn with
  | nil => rfl
  | append_singleton calls call ih =>
      rw [Trace.after_append_singleton, Trace.next, (replies_reply _ call).enabled_eq, ih]

theorem nodup_keys_after (enabled : Bool) :
    ((Trace.after enabled calls).cache.entries.map Prod.fst).Nodup := by
  induction calls using List.reverseRecOn with
  | nil => exact List.nodup_nil
  | append_singleton calls call ih =>
      rw [Trace.after_append_singleton]
      exact (replies_reply _ call).nodup_keys ih

/-- The number of entries is the number of keys that have one. -/
theorem encard_keys_after :
    {key | ((Trace.after true calls).cache.get? key).isSome}.encard =
      (Trace.after true calls).cache.size := by
  have hkeys : {key | ((Trace.after true calls).cache.get? key).isSome} =
      ↑((Trace.after true calls).cache.entries.map Prod.fst).toFinset := by
    ext key
    simp only [get?, enabled_after, if_true, Set.mem_ofPred_eq, isSome_find?_iff,
      List.coe_toFinset]
  rw [hkeys, Set.encard_coe_eq_coe_finsetCard,
    List.toFinset_card_of_nodup (nodup_keys_after calls true), List.length_map, size]

/-- The entry for a key is the value that was last written for it. -/
theorem get?_after (key : κ) : (Trace.after true calls).cache.get? key =
    lastWritten key (Trace.after true calls).events := by
  induction calls using List.reverseRecOn with
  | nil => rfl
  | append_singleton calls call ih =>
      rw [Trace.after_append_singleton, Trace.next, lastWritten_append_singleton, ← ih]
      exact (replies_reply _ call).get?_eq (enabled_after calls true) key

/-- All replies are those of a plain map, where the entries are told by the events before. -/
theorem follows_after {enabled : Bool} (entry : List (Event κ α ε) → κ → Option α)
    (hentry : ∀ calls : List (Call κ α ε), (Trace.after enabled calls).cache.get? =
      entry (Trace.after enabled calls).events)
    {before rest : List (Event κ α ε)} {event : Event κ α ε}
    (h : (Trace.after enabled calls).events = before ++ event :: rest) :
    event.Follows (entry before) := by
  induction calls using List.reverseRecOn generalizing rest with
  | nil => simp [Trace.after] at h
  | append_singleton calls call ih =>
      rw [Trace.after_append_singleton, Trace.next] at h
      rcases List.eq_nil_or_concat rest with rfl | ⟨rest, last, rfl⟩
      · obtain ⟨rfl, hevent⟩ := List.append_inj' h rfl
        obtain rfl := List.singleton_injective hevent
        rw [← hentry]
        exact (replies_reply _ call).follows
      · rw [List.concat_eq_append, ← List.cons_append, ← List.append_assoc] at h
        exact ih (List.append_inj' h rfl).1

/-- A cache that is off stays empty. -/
theorem cache_after_of_disabled : (Trace.after false calls).cache = { enabled := false } := by
  induction calls using List.reverseRecOn with
  | nil => rfl
  | append_singleton calls call ih =>
      rw [Trace.after_append_singleton, Trace.next,
        (replies_reply _ call).eq_of_disabled (enabled_after calls false), ih]

end Histories

/-! ### Computations between two writes -/

/-- All replies are those of the map that the events before tell. -/
def FollowsMap (events : List (Event κ α ε)) : Prop :=
  ∀ before event rest, events = before ++ event :: rest → event.Follows (lastWritten · before)

section Stretches

variable {key : κ} {value : α}

/-- No computation for a key runs where there is an entry. -/
theorem Event.Follows.computed?_eq_none {event : Event κ α ε} {entry : κ → Option α}
    (h : event.Follows entry) (hknown : entry key = some value) : event.computed? key = none := by
  cases h with
  | get | insert | known => rfl
  | @unknown k hunknown outcome =>
      have hne : k ≠ key := fun hk => by simp [← hk, hunknown] at hknown
      cases outcome <;> simp [Event.computed?, hne]

omit [DecidableEq κ] in
/-- The entry is replied where there is one. -/
theorem Event.Follows.reply_eq {event : Event κ α ε} {entry : κ → Option α}
    (h : event.Follows entry) (hknown : entry key = some value) {outcome : Except ε α}
    (hcall : event.call = .fetch key outcome) : event.reply = .fetched (.ok value) false := by
  cases h with
  | get | insert => cases hcall
  | known h _ =>
      cases hcall
      cases h.symm.trans hknown
      rfl
  | unknown h _ =>
      cases hcall
      cases h.symm.trans hknown

variable {before stretch rest : List (Event κ α ε)}

/-- An entry stays as long as nothing is put in for its key. -/
theorem FollowsMap.lastWritten_append (h : FollowsMap (before ++ stretch ++ rest))
    (hknown : lastWritten key before = some value)
    (hstretch : ∀ event ∈ stretch, event.inserted? key = none) :
    lastWritten key (before ++ stretch) = some value := by
  induction stretch using List.reverseRecOn generalizing rest with
  | nil => simpa using hknown
  | append_singleton stretch event ih =>
      have hentry : lastWritten key (before ++ stretch) = some value :=
        @ih (event :: rest) (by simpa using h)
          fun other hother => hstretch other (List.mem_append_left _ hother)
      have hevent : event.Follows (lastWritten · (before ++ stretch)) :=
        h _ event rest (by simp)
      rw [← List.append_assoc, lastWritten_append_singleton, Event.written?,
        hstretch event (by simp), hevent.computed?_eq_none hentry, hentry]
      rfl

/-- After a computation for a key the entry is its value, as long as nothing is put in for the
key. -/
theorem FollowsMap.follows_of_computed {first between second : List (Event κ α ε)}
    {event later : Event κ α ε}
    (h : FollowsMap (first ++ event :: between ++ later :: second))
    (hcomputed : event.computed? key = some value)
    (hbetween : ∀ other ∈ between, other.inserted? key = none) :
    ∃ entry : κ → Option α, entry key = some value ∧ later.Follows entry := by
  have hwritten : lastWritten key (first ++ [event]) = some value := by
    have hcall : event.inserted? key = none := by
      rcases event with ⟨_ | _ | _, _⟩
      · rfl
      · cases hcomputed
      · rfl
    rw [lastWritten_append_singleton, Event.written?, hcall, hcomputed]
    rfl
  have hsplit : FollowsMap (first ++ [event] ++ between ++ later :: second) := by
    simpa using h
  exact ⟨_, hsplit.lastWritten_append hwritten hbetween, hsplit _ later second rfl⟩

end Stretches

/-- In a stretch of events in which nothing is put in for a key, one computation for the key comes
to a value at most, and all that ask for the key afterwards get its value without a computation. -/
def ComputesOnce (key : κ) (stretch : List (Event κ α ε)) : Prop :=
  (stretch.filterMap (Event.computed? key)).length ≤ 1 ∧
  ∀ first event second value, stretch = first ++ event :: second →
    event.computed? key = some value →
    ∀ later ∈ second, ∀ outcome, later.call = .fetch key outcome →
      later.reply = .fetched (.ok value) false

theorem FollowsMap.computesOnce {key : κ} {before stretch rest : List (Event κ α ε)}
    (h : FollowsMap (before ++ stretch ++ rest))
    (hstretch : ∀ event ∈ stretch, event.inserted? key = none) : ComputesOnce key stretch := by
  have hlater {first second : List (Event κ α ε)} {event later : Event κ α ε} {value : α}
      (heq : stretch = first ++ event :: second) (hcomputed : event.computed? key = some value)
      (hmem : later ∈ second) :
      ∃ entry : κ → Option α, entry key = some value ∧ later.Follows entry := by
    obtain ⟨between, behind, rfl⟩ := List.append_of_mem hmem
    have hsplit :
        FollowsMap (before ++ first ++ event :: between ++ later :: (behind ++ rest)) := by
      simpa [heq] using h
    exact hsplit.follows_of_computed hcomputed fun other hother =>
      hstretch other (by simp [heq, hother])
  constructor
  · cases hvalues : stretch.filterMap (Event.computed? key) with
    | nil => simp
    | cons value values =>
        obtain ⟨first, event, second, heq, -, hcomputed, rfl⟩ :=
          List.filterMap_eq_cons_iff.mp hvalues
        have hnone : second.filterMap (Event.computed? key) = [] := by
          refine List.filterMap_eq_nil_iff.mpr fun later hmem => ?_
          obtain ⟨entry, hentry, hfollows⟩ := hlater heq hcomputed hmem
          exact hfollows.computed?_eq_none hentry
        simp [hnone]
  · intro first event second value heq hcomputed later hmem outcome hcall
    obtain ⟨entry, hentry, hfollows⟩ := hlater heq hcomputed hmem
    exact hfollows.reply_eq hentry hcall

/-! ### Refinement -/

/-- A cache that is on, after some events, as the map that the events tell. -/
structure RefinesMap (events : List (Event κ α ε)) (cache : ReadThrough κ α) : Prop where
  /-- The entry for a key is the value last put in for it or computed for it. -/
  entry : ∀ key, cache.get? key = lastWritten key events
  /-- All replies were those of a plain map: in particular, a computation ran exactly where there
  was no entry. -/
  follows : FollowsMap events
  /-- Between values that are put in for a key at most one is computed for it. -/
  computesOnce : ∀ key before stretch rest, events = before ++ stretch ++ rest →
    (∀ event ∈ stretch, event.inserted? key = none) → ComputesOnce key stretch
  /-- A computation that fails leaves all entries, and its own error comes back. -/
  failed : ∀ key (e : ε), lastWritten key events = none →
    cache.reply (.fetch key (.error e)) = (.fetched (.error e) true, cache)
  /-- The number of entries is the number of keys that have one. -/
  size : {key | (lastWritten key events).isSome}.encard = cache.size

/-- A cache that is off, after some events: it has no entries, and all computations ran. -/
structure PassesThrough (events : List (Event κ α ε)) (cache : ReadThrough κ α) : Prop where
  follows : ∀ event ∈ events, event.Follows fun _ => none
  entry : ∀ key, cache.get? key = none
  size : cache.size = 0

/-- **Refinement.** After all calls, a cache that is on and was empty at first is the map that the
events tell, and a cache that is off has passed all computations through. -/
theorem refines_map (calls : List (Call κ α ε)) :
    RefinesMap (Trace.after true calls).events (Trace.after true calls).cache ∧
    PassesThrough (Trace.after false calls).events (Trace.after false calls).cache := by
  have hentry (calls : List (Call κ α ε)) : (Trace.after true calls).cache.get? =
      (lastWritten · (Trace.after true calls).events) := funext (get?_after calls)
  have hfollows : FollowsMap (Trace.after true calls).events := fun before event rest h =>
    follows_after calls (fun events => (lastWritten · events)) hentry h
  refine ⟨⟨get?_after calls, hfollows, ?_, ?_, ?_⟩, ⟨?_, ?_, ?_⟩⟩
  · intro key before stretch rest heq hstretch
    exact (heq ▸ hfollows : FollowsMap (before ++ stretch ++ rest)).computesOnce hstretch
  · intro key e hunknown
    rw [← get?_after] at hunknown
    exact reply_failed hunknown e
  · simpa only [get?_after] using encard_keys_after calls
  · intro event hevent
    obtain ⟨before, rest, heq⟩ := List.append_of_mem hevent
    refine follows_after calls (fun _ _ => none) (fun calls => ?_) heq
    rw [cache_after_of_disabled]
    rfl
  · intro key
    rw [cache_after_of_disabled]
    rfl
  · rw [cache_after_of_disabled]
    rfl

end PageMigration.ReadThrough
