import PageMigration.Text

/-!
# Property bags

The properties of a web part are pairs of names and values.  A name is looked up without regard
to the case of ASCII letters, but a name in the exact spelling is preferred.

## Main definitions

* `PropertyBag` : the properties in the order in which their names first appeared.
* `PropertyBag.get?`, `PropertyBag.set` : look-up and change of one value.
* `PropertyBag.sorted` : the properties in the order of their names.

## Main results

* `PropertyBag.contains_iff`, `PropertyBag.names_set` : the names of a bag and of a changed one.
* `PropertyBag.get?_set_self`, `PropertyBag.get?_set_of_not_sameName` : look-up in a changed bag.
* `PropertyBag.getElem?_set`, `PropertyBag.getElem?_set_iff` : what is new in a changed bag.
-/

namespace PageMigration

/-- Named values, in the order in which the names first appeared. -/
structure PropertyBag where
  entries : List (String × String) := []
  deriving DecidableEq, Repr

namespace PropertyBag

/-- A bag without properties. -/
def empty : PropertyBag := ⟨[]⟩

/-- The names of the properties, in the order in which they first appeared. -/
def names (bag : PropertyBag) : List String :=
  bag.entries.map Prod.fst

/-- The stored spelling that a name refers to: the exact one, or else the first that differs
from it in case alone. -/
def key? (bag : PropertyBag) (name : String) : Option String :=
  (bag.names.find? (· == name)).or (bag.names.find? (Text.sameName · name))

/-- The value of a property. -/
def get? (bag : PropertyBag) (name : String) : Option String :=
  (bag.key? name).bind fun key => bag.entries.lookup key

/-- A bag that holds a property. -/
def contains (bag : PropertyBag) (name : String) : Bool :=
  (bag.get? name).isSome

/-- Entries with the value of one exact name replaced. -/
def replaceValue (key value : String) (entries : List (String × String)) :
    List (String × String) :=
  entries.map fun (k, v) => if k == key then (k, value) else (k, v)

/-- The bag after a property is given a value; a property that the bag has keeps its spelling
and its place. -/
def set (bag : PropertyBag) (name value : String) : PropertyBag :=
  match bag.key? name with
  | some key => ⟨replaceValue key value bag.entries⟩
  | none => ⟨bag.entries ++ [(name, value)]⟩

/-- The bag that arises when the given properties are set one after the other. -/
def ofPairs (pairs : List (String × String)) : PropertyBag :=
  pairs.foldl (fun bag (name, value) => bag.set name value) empty

/-- The number of properties. -/
def size (bag : PropertyBag) : Nat :=
  bag.entries.length

/-- The properties in increasing order of their names, character by character. -/
def sorted (bag : PropertyBag) : List (String × String) :=
  bag.entries.mergeSort fun a b => decide (a.1 ≤ b.1)

/-! ### Look-up and change -/

variable {bag : PropertyBag} {key name other : String}

/-- A name refers to a stored one that is the same up to case. -/
theorem mem_names_of_key? (h : bag.key? name = some key) :
    key ∈ bag.names ∧ Text.sameName key name := by
  rcases Option.or_eq_some_iff.mp h with h | ⟨-, h⟩
  · have he := List.find?_some h
    rw [beq_iff_eq] at he
    exact ⟨List.mem_of_find?_eq_some h, he ▸ Text.sameName_self key⟩
  · exact ⟨List.mem_of_find?_eq_some h, List.find?_some (p := (Text.sameName · name)) h⟩

theorem key?_isSome_iff : (bag.key? name).isSome ↔ ∃ key ∈ bag.names, Text.sameName key name := by
  constructor
  · intro h
    obtain ⟨key, hk⟩ := Option.isSome_iff_exists.mp h
    exact ⟨key, mem_names_of_key? hk⟩
  · rintro ⟨key, hk, hs⟩
    have hfind : (bag.names.find? (Text.sameName · name)).isSome :=
      List.find?_isSome.mpr ⟨key, hk, hs⟩
    simp [key?, hfind]

theorem lookup_isSome_iff : (bag.entries.lookup key).isSome ↔ key ∈ bag.names := by
  simp only [List.lookup_isSome_iff, names, List.mem_map, beq_iff_eq, @eq_comm _ key]

theorem contains_eq (bag : PropertyBag) (name : String) :
    bag.contains name = (bag.key? name).isSome := by
  rw [contains, get?]
  cases h : bag.key? name with
  | none => rfl
  | some key => exact lookup_isSome_iff.mpr (mem_names_of_key? h).1

/-- A bag holds the properties whose names it has in some case. -/
theorem contains_iff : bag.contains name ↔ ∃ key ∈ bag.names, Text.sameName key name := by
  rw [contains_eq, key?_isSome_iff]

/-- A change adds at most its own name, at the end, and only if the bag does not have it. -/
theorem names_set (bag : PropertyBag) (name value : String) :
    (bag.set name value).names =
      if bag.contains name then bag.names else bag.names ++ [name] := by
  have hreplace (key : String) (entries : List (String × String)) :
      (replaceValue key value entries).map Prod.fst = entries.map Prod.fst := by
    simp only [replaceValue, List.map_map]
    refine List.map_congr_left fun e _ => ?_
    simp only [Function.comp_apply]
    split <;> rfl
  rw [contains_eq, set]
  cases h : bag.key? name with
  | none => simp [names]
  | some key => simp [names, hreplace]

/-- Only the value of the changed property is new. -/
theorem getElem?_set {value : String} {i : Nat} {entry : String × String}
    (h : (bag.set name value).entries[i]? = some entry) :
    bag.entries[i]? = some entry ∨ Text.sameName entry.1 name := by
  rw [set] at h
  split at h
  · next key hk =>
      rw [replaceValue, List.getElem?_map] at h
      obtain ⟨e, he, rfl⟩ := Option.map_eq_some_iff.mp h
      dsimp only
      split
      · next heq =>
          rw [beq_iff_eq] at heq
          exact Or.inr (by simpa [heq] using (mem_names_of_key? hk).2)
      · exact Or.inl he
  · rw [List.getElem?_append] at h
    split at h
    · exact Or.inl h
    · rw [List.mem_singleton.mp (List.mem_of_getElem? h)]
      exact Or.inr (Text.sameName_self name)

/-- The values of other properties are as they were. -/
theorem getElem?_set_iff {value : String} {i : Nat} {entry : String × String}
    (h : Text.sameName entry.1 name = false) :
    (bag.set name value).entries[i]? = some entry ↔ bag.entries[i]? = some entry := by
  refine ⟨fun hset => (getElem?_set hset).resolve_right (by simp [h]), fun hbag => ?_⟩
  rw [set]
  split
  · next key hk =>
      have hne : entry.1 ≠ key := by
        rintro rfl
        rw [(mem_names_of_key? hk).2] at h
        cases h
      simp [replaceValue, hbag, hne]
  · exact (List.getElem?_append_left (List.getElem?_eq_some_iff.mp hbag).1).trans hbag

theorem replaceValue_cons (key value name old : String) (entries : List (String × String)) :
    replaceValue key value ((name, old) :: entries) =
      (name, if name = key then value else old) :: replaceValue key value entries := by
  by_cases h : name = key <;> simp [replaceValue, h]

/-- The value of one exact name is replaced, and no other one. -/
theorem lookup_replaceValue (entries : List (String × String)) (value : String) :
    (replaceValue key value entries).lookup name =
      (entries.lookup name).map fun old => if name = key then value else old := by
  induction entries with
  | nil => rfl
  | cons e entries ih =>
      rw [replaceValue_cons, List.lookup_cons, ih, List.lookup_cons]
      by_cases hname : name = e.1
      · simp [hname]
      · simp [beq_eq_false_iff_ne.mpr hname]

/-- A name refers to the changed property if that is new and is the same up to case. -/
theorem key?_set (bag : PropertyBag) (name value : String) :
    (bag.set name value).key? other =
      if bag.contains name = false ∧ Text.sameName name other then some name
      else bag.key? other := by
  rw [key?, key?, names_set]
  by_cases hc : bag.contains name
  · simp [hc]
  rw [if_neg hc, List.find?_append, List.find?_append]
  by_cases hs : Text.sameName name other
  · have hother : ∀ key ∈ bag.names, Text.sameName key other = false := by
      intro key hkey
      rw [Bool.eq_false_iff]
      intro hsame
      rw [Text.sameName_comm] at hs
      exact hc (contains_iff.mpr ⟨key, hkey, Text.sameName_trans hsame hs⟩)
    have hexact : bag.names.find? (· == other) = none := by
      rw [List.find?_eq_none]
      rintro key hkey heq
      have hself := hother key hkey
      rw [beq_iff_eq.mp heq, Text.sameName_self] at hself
      cases hself
    have hfold : bag.names.find? (Text.sameName · other) = none := by
      rw [List.find?_eq_none]
      intro key hkey
      simp [hother key hkey]
    rw [hexact, hfold, if_pos ⟨Bool.eq_false_iff.mpr hc, hs⟩]
    by_cases heq : name = other <;> simp [hs, heq]
  · have heq : name ≠ other := by
      rintro rfl
      exact hs (Text.sameName_self name)
    simp [hs, heq]

/-- A changed property has its new value. -/
theorem get?_set_self (bag : PropertyBag) (name value : String) :
    (bag.set name value).get? name = some value := by
  rw [get?, key?_set, contains_eq, set]
  cases hkey : bag.key? name with
  | none =>
      have hnew : bag.entries.lookup name = none := by
        rw [← Option.not_isSome_iff_eq_none, lookup_isSome_iff]
        intro hmem
        have hsome := key?_isSome_iff.mpr ⟨name, hmem, Text.sameName_self name⟩
        rw [hkey] at hsome
        cases hsome
      simp [List.lookup_append, hnew]
  | some key =>
      obtain ⟨old, hold⟩ := Option.isSome_iff_exists.mp
        (lookup_isSome_iff.mpr (mem_names_of_key? hkey).1)
      simp [lookup_replaceValue, hold]

/-- The other properties have the values that they had. -/
theorem get?_set_of_not_sameName {value : String} (h : Text.sameName name other = false) :
    (bag.set name value).get? other = bag.get? other := by
  rw [get?, key?_set, if_neg (by simp [h]), get?]
  cases hother : bag.key? other with
  | none => rfl
  | some stored =>
      obtain ⟨hmem, hsame⟩ := mem_names_of_key? hother
      obtain ⟨old, hold⟩ := Option.isSome_iff_exists.mp (lookup_isSome_iff.mpr hmem)
      rw [set]
      cases hkey : bag.key? name with
      | none => simp [List.lookup_append, hold]
      | some key =>
          have hne : stored ≠ key := by
            rintro rfl
            have hname := (mem_names_of_key? hkey).2
            rw [Text.sameName_comm] at hname
            rw [Text.sameName_trans hname hsame] at h
            cases h
          simp [lookup_replaceValue, hne]

end PropertyBag

end PageMigration
