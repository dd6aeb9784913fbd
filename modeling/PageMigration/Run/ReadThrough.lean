/-!
# Read-through caches

A cache remembers a value for each key.  A value that it does not have is computed and then
remembered; a failed computation is not.  A cache may be disabled, and then remembers nothing.

## Main definitions

* `ReadThrough` : a cache.
* `ReadThrough.get?`, `ReadThrough.insert` : the remembered value, and a new one.
* `ReadThrough.fetch` : the remembered value or the result of a computation.

## Main results

* `ReadThrough.get?_insert` : what is remembered after a new value.
-/

namespace PageMigration

/-- A cache of values by keys. -/
structure ReadThrough (κ α : Type) where
  enabled : Bool
  entries : List (κ × α) := []
  deriving Repr

namespace ReadThrough

variable {κ α : Type} [DecidableEq κ]

/-- Entries with the value for a key put in. -/
def put (key : κ) (value : α) : List (κ × α) → List (κ × α)
  | [] => [(key, value)]
  | (k, v) :: rest => if k = key then (k, value) :: rest else (k, v) :: put key value rest

/-- The value of the first entry for a key. -/
def find? (key : κ) : List (κ × α) → Option α
  | [] => none
  | (k, v) :: rest => if k = key then some v else find? key rest

/-- The remembered value for a key. -/
def get? (cache : ReadThrough κ α) (key : κ) : Option α :=
  if cache.enabled then find? key cache.entries else none

/-- The cache after it has been told the value for a key. -/
def insert (cache : ReadThrough κ α) (key : κ) (value : α) : ReadThrough κ α :=
  if cache.enabled then { cache with entries := put key value cache.entries } else cache

/-- The number of keys with a value. -/
def size (cache : ReadThrough κ α) : Nat :=
  cache.entries.length

/-- The remembered value for a key, or else the result of a computation, with the cache after
it. -/
def fetch {m : Type → Type} [Monad m] (cache : ReadThrough κ α) (key : κ) (compute : m α) :
    m (α × ReadThrough κ α) :=
  match cache.get? key with
  | some value => pure (value, cache)
  | none => do
      let value ← compute
      pure (value, cache.insert key value)

theorem find?_put (key k : κ) (value : α) (entries : List (κ × α)) :
    find? k (put key value entries) = if key = k then some value else find? k entries := by
  induction entries with
  | nil => rfl
  | cons entry rest ih =>
      obtain ⟨k', v⟩ := entry
      by_cases h : k' = key
      · subst h
        by_cases hk : k' = k <;> simp [put, find?, hk]
      · by_cases hk : k' = k
        · subst hk
          simp [put, find?, h, Ne.symm h]
        · simp [put, find?, h, hk, ih]

@[simp] theorem enabled_insert (cache : ReadThrough κ α) (key : κ) (value : α) :
    (cache.insert key value).enabled = cache.enabled := by
  by_cases h : cache.enabled <;> simp [insert, h]

/-- A cache remembers the new value and whatever it knew for the other keys. -/
theorem get?_insert (cache : ReadThrough κ α) (key k : κ) (value : α) :
    (cache.insert key value).get? k =
      if cache.enabled ∧ key = k then some value else cache.get? k := by
  by_cases h : cache.enabled <;> simp [insert, get?, h, find?_put]

end ReadThrough

end PageMigration
