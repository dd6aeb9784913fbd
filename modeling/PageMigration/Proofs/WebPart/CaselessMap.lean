import Mathlib.Data.List.Dedup
import Mathlib.Data.List.Induction
import PageMigration.Proofs.Encoding.ByteOrder
import PageMigration.WebPart.PropertyBag

/-!
# Property bags as maps that ignore case

A bag in which no two names are the same up to case reads alike in whatever order its entries
stand: a name refers to one entry at most, so it does not matter which of the names that match is
found first.  Setting a property keeps the names apart, so every bag that arises from the empty one
is such a bag, and it maps each name to the value that was set last, under the spelling that was
set first.

## Main definitions

* `PropertyBag.HasDistinctNames` : no two names are the same up to case.
* `PropertyBag.Arises` : the bags that a row of changes leads to, in any order of their entries.
* `PropertyBag.firstSpelling?`, `PropertyBag.lastValue?` : the spelling and the value of a name in
  a row of changes.

## Main results

* `PropertyBag.HasDistinctNames.get?_eq_some_iff` : look-up as a fact about the entries alone.
* `PropertyBag.Reflects.set`, `PropertyBag.Reflects.rearranged`, `PropertyBag.Arises.reflects` :
  a change, another order, and a whole row of changes.
* `PropertyBag.caseless_map` : what a bag holds after a row of changes.
-/

namespace PageMigration

theorem Text.sameName_iff_lower {a b : String} : sameName a b ↔ lower a = lower b := by
  rw [sameName, Chars.sameName_iff, lower, lower, String.ofList_inj]

namespace PropertyBag

variable {bag other : PropertyBag} {sets : List (String × String)} {key name value : String}

/-! ### Distinct names -/

/-- The names of a bag are different ones, even when their capitals are made small. -/
def HasDistinctNames (bag : PropertyBag) : Prop :=
  (bag.names.map Text.lower).Nodup

theorem hasDistinctNames_iff :
    bag.HasDistinctNames ↔ bag.names.Pairwise fun a b => Text.sameName a b = false := by
  rw [HasDistinctNames, List.nodup_iff_pairwise_ne, List.pairwise_map]
  simp only [ne_eq, ← Text.sameName_iff_lower, Bool.not_eq_true]

theorem mem_names_of_mem (h : (key, value) ∈ bag.entries) : key ∈ bag.names :=
  List.mem_map_of_mem h

namespace HasDistinctNames

theorem nodup (h : bag.HasDistinctNames) : bag.names.Nodup :=
  List.Nodup.of_map Text.lower h

theorem eq_of_sameName (h : bag.HasDistinctNames) {a b : String} (ha : a ∈ bag.names)
    (hb : b ∈ bag.names) (hab : Text.sameName a b) : a = b :=
  List.inj_on_of_nodup_map h ha hb (Text.sameName_iff_lower.mp hab)

/-- A name refers to the one of the bag that is the same up to case. -/
theorem key?_eq_some_iff (h : bag.HasDistinctNames) :
    bag.key? name = some key ↔ key ∈ bag.names ∧ Text.sameName key name := by
  refine ⟨mem_names_of_key?, fun ⟨hkey, hsame⟩ => ?_⟩
  obtain ⟨stored, hstored⟩ := Option.isSome_iff_exists.mp (key?_isSome_iff.mpr ⟨key, hkey, hsame⟩)
  obtain ⟨hmem, hsame'⟩ := mem_names_of_key? hstored
  rw [Text.sameName_comm] at hsame
  rw [hstored, h.eq_of_sameName hmem hkey (Text.sameName_trans hsame' hsame)]

theorem lookup_eq_some_iff (h : bag.HasDistinctNames) :
    bag.entries.lookup key = some value ↔ (key, value) ∈ bag.entries := by
  rw [List.lookup_eq_some_iff]
  constructor
  · rintro ⟨before, after, hsplit, -⟩
    simp [hsplit]
  · intro hmem
    obtain ⟨before, after, hsplit⟩ := List.append_of_mem hmem
    refine ⟨before, after, hsplit, fun e he => ?_⟩
    have hnodup := h.nodup
    rw [names, hsplit, List.map_append, List.nodup_append] at hnodup
    exact bne_iff_ne.mpr (hnodup.2.2 e.1 (List.mem_map_of_mem he) key (by simp)).symm

/-- The value of a name is that of the entry whose name is the same up to case. -/
theorem get?_eq_some_iff (h : bag.HasDistinctNames) :
    bag.get? name = some value ↔ ∃ key, (key, value) ∈ bag.entries ∧ Text.sameName key name := by
  simp only [get?, Option.bind_eq_some_iff, h.key?_eq_some_iff, h.lookup_eq_some_iff]
  constructor
  · rintro ⟨key, ⟨-, hsame⟩, hmem⟩
    exact ⟨key, hmem, hsame⟩
  · rintro ⟨key, hmem, hsame⟩
    exact ⟨key, ⟨mem_names_of_mem hmem, hsame⟩, hmem⟩

/-- Spellings of one name have one value. -/
theorem get?_congr (h : bag.HasDistinctNames) {a b : String} (hab : Text.sameName a b) :
    bag.get? a = bag.get? b := by
  ext value
  simp only [h.get?_eq_some_iff, Text.sameName_iff_lower, Text.sameName_iff_lower.mp hab]

/-- The entries are the names with their values. -/
theorem mem_entries_iff (h : bag.HasDistinctNames) :
    (key, value) ∈ bag.entries ↔ key ∈ bag.names ∧ bag.get? key = some value := by
  rw [h.get?_eq_some_iff]
  constructor
  · exact fun hmem => ⟨mem_names_of_mem hmem, key, hmem, Text.sameName_self key⟩
  · rintro ⟨hkey, stored, hmem, hsame⟩
    rwa [← h.eq_of_sameName (mem_names_of_mem hmem) hkey hsame]

protected theorem perm (h : bag.HasDistinctNames) (hperm : bag.entries.Perm other.entries) :
    other.HasDistinctNames :=
  ((hperm.map Prod.fst).map Text.lower).nodup_iff.mp h

protected theorem set (h : bag.HasDistinctNames) (name value : String) :
    (bag.set name value).HasDistinctNames := by
  rw [hasDistinctNames_iff] at h ⊢
  rw [names_set]
  split
  · exact h
  next hnew =>
    rw [List.pairwise_append]
    refine ⟨h, List.pairwise_singleton _ _, fun key hkey last hlast => ?_⟩
    rw [List.mem_singleton.mp hlast, ← Bool.not_eq_true]
    exact fun hsame => hnew (contains_iff.mpr ⟨key, hkey, hsame⟩)

end HasDistinctNames

/-! ### Rows of changes -/

/-- The bags that arise from the empty one when the given properties are set one after the other.
Between any two steps the entries may come to stand in another order. -/
inductive Arises : List (String × String) → PropertyBag → Prop
  | empty : Arises [] PropertyBag.empty
  | set {sets : List (String × String)} {bag : PropertyBag} (h : Arises sets bag)
      (name value : String) : Arises (sets ++ [(name, value)]) (bag.set name value)
  | rearranged {sets : List (String × String)} {bag other : PropertyBag} (h : Arises sets bag)
      (hperm : bag.entries.Perm other.entries) : Arises sets other

/-- The first spelling of a name among the properties that were set. -/
def firstSpelling? (sets : List (String × String)) (name : String) : Option String :=
  (sets.find? (Text.sameName ·.1 name)).map Prod.fst

/-- The last value of a name among the properties that were set. -/
def lastValue? (sets : List (String × String)) (name : String) : Option String :=
  (sets.reverse.find? (Text.sameName ·.1 name)).map Prod.snd

theorem firstSpelling?_append (sets : List (String × String)) (name value spelling : String) :
    firstSpelling? (sets ++ [(name, value)]) spelling =
      (firstSpelling? sets spelling).or
        (if Text.sameName name spelling then some name else none) := by
  rw [firstSpelling?, List.find?_append, Option.map_or, List.find?_singleton]
  split <;> rfl

theorem lastValue?_append (sets : List (String × String)) (name value spelling : String) :
    lastValue? (sets ++ [(name, value)]) spelling =
      if Text.sameName name spelling then some value else lastValue? sets spelling := by
  rw [lastValue?, List.reverse_append, List.reverse_singleton, List.singleton_append,
    List.find?_cons]
  split <;> simp_all [lastValue?]

theorem firstSpelling?_isSome_iff :
    (firstSpelling? sets name).isSome ↔ ∃ e ∈ sets, Text.sameName e.1 name := by
  simp [firstSpelling?]

/-- What a bag holds after the given properties were set: under the first spelling of each name,
its last value. -/
structure Reflects (sets : List (String × String)) (bag : PropertyBag) : Prop where
  distinct : bag.HasDistinctNames
  key?_eq (name : String) : bag.key? name = firstSpelling? sets name
  get?_eq (name : String) : bag.get? name = lastValue? sets name

namespace Reflects

protected theorem set (h : Reflects sets bag) (name value : String) :
    Reflects (sets ++ [(name, value)]) (bag.set name value) where
  distinct := h.distinct.set name value
  key?_eq spelling := by
    rw [key?_set, firstSpelling?_append, ← h.key?_eq]
    -- The new spelling counts only where the bag has none yet, under any spelling.
    by_cases hsame : Text.sameName name spelling
    · have hstored : bag.contains name = (bag.key? spelling).isSome := by
        rw [contains, h.distinct.get?_congr hsame, ← contains, contains_eq]
      cases hkey : bag.key? spelling <;> simp [hstored, hkey, hsame]
    · simp [hsame]
  get?_eq spelling := by
    rw [lastValue?_append]
    split
    next hsame => rw [← (h.distinct.set name value).get?_congr hsame, get?_set_self]
    next hsame => rw [get?_set_of_not_sameName (Bool.eq_false_iff.mpr hsame), h.get?_eq]

protected theorem rearranged (h : Reflects sets bag) (hperm : bag.entries.Perm other.entries) :
    Reflects sets other where
  distinct := h.distinct.perm hperm
  key?_eq name := by
    rw [← h.key?_eq]
    ext key
    rw [h.distinct.key?_eq_some_iff, (h.distinct.perm hperm).key?_eq_some_iff, names, names,
      (hperm.map Prod.fst).mem_iff]
  get?_eq name := by
    rw [← h.get?_eq]
    ext value
    simp only [h.distinct.get?_eq_some_iff, (h.distinct.perm hperm).get?_eq_some_iff, hperm.mem_iff]

theorem contains_iff (h : Reflects sets bag) :
    bag.contains name ↔ ∃ e ∈ sets, Text.sameName e.1 name := by
  rw [contains_eq, h.key?_eq, firstSpelling?_isSome_iff]

/-- The names of a bag are those that were set, up to case. -/
theorem mem_lower_names_iff (h : Reflects sets bag) {letters : String} :
    letters ∈ bag.names.map Text.lower ↔ letters ∈ sets.map fun e => Text.lower e.1 := by
  simp only [List.mem_map]
  constructor
  · rintro ⟨key, hkey, rfl⟩
    have hcontains := PropertyBag.contains_iff.mpr ⟨key, hkey, Text.sameName_self key⟩
    obtain ⟨e, he, hsame⟩ := h.contains_iff.mp hcontains
    exact ⟨e, he, Text.sameName_iff_lower.mp hsame⟩
  · rintro ⟨e, he, rfl⟩
    have hcontains := h.contains_iff.mpr ⟨e, he, Text.sameName_self e.1⟩
    obtain ⟨key, hkey, hsame⟩ := PropertyBag.contains_iff.mp hcontains
    exact ⟨key, hkey, Text.sameName_iff_lower.mp hsame⟩

/-- A bag has as many entries as names were set that differ in more than case. -/
theorem size_eq (h : Reflects sets bag) :
    bag.size = (sets.map fun e => Text.lower e.1).dedup.length := by
  have hperm : (bag.names.map Text.lower).Perm (sets.map fun e => Text.lower e.1).dedup :=
    (List.perm_ext_iff_of_nodup h.distinct (List.nodup_dedup _)).mpr fun letters => by
      rw [h.mem_lower_names_iff, List.mem_dedup]
  simpa [size, names] using hperm.length_eq

/-- Two bags that hold the same have the same entries. -/
theorem entries_perm (h : Reflects sets bag) (h' : Reflects sets other) :
    bag.entries.Perm other.entries := by
  refine (List.perm_ext_iff_of_nodup (.of_map Prod.fst h.distinct.nodup)
    (.of_map Prod.fst h'.distinct.nodup)).mpr fun ⟨key, value⟩ => ?_
  have hnames : key ∈ bag.names ↔ key ∈ other.names := by
    simpa [h.distinct.key?_eq_some_iff, h'.distinct.key?_eq_some_iff] using
      congrArg (· = some key) ((h.key?_eq key).trans (h'.key?_eq key).symm)
  rw [h.distinct.mem_entries_iff, h'.distinct.mem_entries_iff, h.get?_eq, h'.get?_eq, hnames]

end Reflects

theorem Arises.reflects (h : Arises sets bag) : Reflects sets bag := by
  induction h with
  | empty => exact ⟨.nil, fun _ => rfl, fun _ => rfl⟩
  | set _ name value ih => exact ih.set name value
  | rearranged _ hperm ih => exact ih.rearranged hperm

theorem arises_ofPairs (pairs : List (String × String)) : Arises pairs (ofPairs pairs) := by
  induction pairs using List.reverseRecOn with
  | nil => exact .empty
  | append_singleton pairs e ih =>
      rw [ofPairs, List.foldl_append]
      exact ih.set e.1 e.2

/-! ### The order of the names -/

theorem sorted_perm (bag : PropertyBag) : bag.sorted.Perm bag.entries :=
  List.mergeSort_perm _ _

/-- The names of a sorted bag increase byte by byte. -/
theorem HasDistinctNames.pairwise_sorted (h : bag.HasDistinctNames) :
    bag.sorted.Pairwise fun a b => Utf8.encode a.1 < Utf8.encode b.1 := by
  have hle : bag.sorted.Pairwise fun a b => a.1 ≤ b.1 := by
    simpa only [sorted, decide_eq_true_eq] using @List.pairwise_mergeSort _
      (fun a b : String × String => decide (a.1 ≤ b.1))
      (fun a b c => by simpa using String.le_trans)
      (fun a b => by simpa using String.le_total a.1 b.1) bag.entries
  have hne : bag.sorted.Pairwise fun a b => a.1 ≠ b.1 :=
    List.pairwise_map.mp ((bag.sorted_perm.map Prod.fst).nodup_iff.mpr h.nodup)
  refine (hle.and hne).imp fun ⟨hle, hne⟩ => Utf8.encode_lt_of_lt ?_
  exact Std.lt_of_le_of_ne hle hne

/-- The order of the entries does not show in a sorted bag. -/
theorem HasDistinctNames.sorted_eq (h : bag.HasDistinctNames)
    (hperm : bag.entries.Perm other.entries) : bag.sorted = other.sorted :=
  List.Perm.eq_of_pairwise
    (fun _ _ _ _ hlt hgt => absurd hlt (List.lt_asymm hgt))
    h.pairwise_sorted (h.perm hperm).pairwise_sorted
    (bag.sorted_perm.trans (hperm.trans other.sorted_perm.symm))

/-- A bag is a map that ignores case.  Whatever properties were set and in whatever order the
entries stood meanwhile, no two names are the same up to case, a name has the value that it was
last given and the spelling in which it was first given one, there are as many entries as names
that differ in more than case, and sorting lists each of them once, by the bytes of the names.
Another bag that arises from the same changes reads alike. -/
theorem caseless_map (sets : List (String × String)) :
    Arises sets (ofPairs sets) ∧
    ∀ bag, Arises sets bag →
      (bag.names.Pairwise fun a b => Text.sameName a b = false) ∧
      (∀ name, bag.get? name = lastValue? sets name ∧
        (bag.contains name ↔ ∃ e ∈ sets, Text.sameName e.1 name) ∧
        ∀ key, key ∈ bag.names ∧ Text.sameName key name ↔ firstSpelling? sets name = some key) ∧
      bag.size = (sets.map fun e => Text.lower e.1).dedup.length ∧
      bag.sorted.Perm bag.entries ∧
      (bag.sorted.Pairwise fun a b => Utf8.encode a.1 < Utf8.encode b.1) ∧
      ∀ other, Arises sets other →
        other.entries.Perm bag.entries ∧ other.sorted = bag.sorted ∧ other.size = bag.size ∧
          ∀ name, other.get? name = bag.get? name ∧ other.contains name = bag.contains name := by
  refine ⟨arises_ofPairs sets, fun bag hbag => ?_⟩
  have h := hbag.reflects
  refine ⟨hasDistinctNames_iff.mp h.distinct,
    fun name => ⟨h.get?_eq name, h.contains_iff, fun key => ?_⟩, h.size_eq, bag.sorted_perm,
    h.distinct.pairwise_sorted, fun other hother => ?_⟩
  · rw [← h.key?_eq, h.distinct.key?_eq_some_iff]
  have h' := hother.reflects
  refine ⟨h'.entries_perm h, h'.distinct.sorted_eq (h'.entries_perm h),
    h'.size_eq.trans h.size_eq.symm, fun name => ?_⟩
  have hget := (h'.get?_eq name).trans (h.get?_eq name).symm
  exact ⟨hget, congrArg Option.isSome hget⟩

/-- A title set twice stays one entry, in the place and the spelling of the first and with the
value of the second, and entries that changed places since are listed by their names. -/
theorem caseless_map_of_titles :
    let sets := [("width", "2"), ("Title", "News"), ("TITLE", "Team news")]
    let bag : PropertyBag := ⟨[("Title", "Team news"), ("width", "2")]⟩
    Arises sets bag ∧ bag.entries ≠ (ofPairs sets).entries ∧
      bag.get? "title" = some "Team news" ∧ bag.contains "tITLE" ∧ "Title" ∈ bag.names ∧
      bag.get? "height" = none ∧ bag.size = 2 ∧ bag.sorted = (ofPairs sets).sorted := by
  intro sets bag
  have hbag : Arises sets bag := .rearranged (arises_ofPairs sets) (by decide)
  obtain ⟨-, hnames, hsize, -, -, hother⟩ := (caseless_map sets).2 bag hbag
  obtain ⟨htitle, -, hspelling⟩ := hnames "title"
  refine ⟨hbag, by decide, htitle.trans (by decide), ?_, ?_, (hnames "height").1.trans (by decide),
    hsize.trans (by decide), (hother _ (arises_ofPairs sets)).2.1.symm⟩
  · exact (hnames "tITLE").2.1.mpr ⟨("Title", "News"), by decide, by decide⟩
  · exact ((hspelling "Title").mpr (by decide)).1

end PropertyBag

end PageMigration
