import Mathlib.Data.List.Nodup
import Mathlib.Data.String.Basic
import PageMigration.Json.Reader
import PageMigration.Proofs.Number.Shortest

/-!
# Values in normal form

A value in normal form has the fields of each object in the order of their names, one for each
name.  A field of a normal form is the last one of that name in the value, itself in normal form,
and a value in normal form stays as it is.

## Main definitions

* `Json.insertFields` : fields put in one after the other.
* `Json.Bounded` : all doubles in a value are of sixty-four bits.
* `Json.IsNormal` : a value of that kind in normal form.

## Main results

* `Json.lookup_insertFields` : of several fields of one name the last one counts.
* `Json.Bounded.isNormal_normal`, `Json.IsNormal.normal_eq` : the normal form.
* `Json.field?_normal` : the fields of the normal form.
* `Json.bounded_of_ofText?` : a value that was read has doubles of sixty-four bits.
-/

namespace PageMigration.Json

/-! ### Fields put in their places -/

/-- The names of fields are in order, without repetitions. -/
def InOrder (fields : List (String × Json)) : Prop :=
  fields.Pairwise fun a b => a.1 < b.1

/-- Fields with more fields put in at the places of their names, one after the other. -/
def insertFields (done fields : List (String × Json)) : List (String × Json) :=
  fields.foldl (fun done (name, value) => insertField name value done) done

theorem normalElements_eq_map (elements : List Json) :
    normalElements elements = elements.map normal := by
  induction elements with
  | nil => rfl
  | cons value rest ih => rw [normalElements, ih, List.map_cons]

theorem normalFields_eq_insertFields (done fields : List (String × Json)) :
    normalFields done fields = insertFields done (fields.map fun f => (f.1, normal f.2)) := by
  induction fields generalizing done with
  | nil => rfl
  | cons f rest ih => rw [normalFields, ih, List.map_cons, insertFields, insertFields,
      List.foldl_cons]

section

variable {done fields : List (String × Json)} {name : String} {value : Json}

theorem InOrder.nodup_names (h : InOrder fields) : (fields.map Prod.fst).Nodup :=
  List.nodup_iff_pairwise_ne.mpr (List.pairwise_map.mpr (h.imp fun hlt => ne_of_lt hlt))

theorem lookup_cons_eq_ite (n : String) (v : Json) (k : String) :
    ((n, v) :: fields).lookup k = if k = n then some v else fields.lookup k := by
  by_cases h : k = n
  · rw [if_pos h, h, List.lookup_cons_self]
  · rw [if_neg h, List.lookup_cons, beq_false_of_ne h]

theorem lookup_map_snd (g : Json → Json) (k : String) :
    (fields.map fun f => (f.1, g f.2)).lookup k = (fields.lookup k).map g := by
  induction fields with
  | nil => rfl
  | cons f rest ih =>
      rw [List.map_cons, lookup_cons_eq_ite, lookup_cons_eq_ite, ih]
      split_ifs <;> rfl

theorem lookup_insertField (name : String) (value : Json) (fields : List (String × Json))
    (k : String) :
    (insertField name value fields).lookup k =
      if k = name then some value else fields.lookup k := by
  induction fields with
  | nil => exact lookup_cons_eq_ite name value k
  | cons f rest ih =>
      obtain ⟨n, v⟩ := f
      rw [insertField]
      by_cases hlt : name < n
      · rw [if_pos hlt, lookup_cons_eq_ite]
      by_cases heq : name = n
      · subst heq
        rw [if_neg hlt, if_pos rfl, lookup_cons_eq_ite, lookup_cons_eq_ite]
        split_ifs <;> rfl
      · rw [if_neg hlt, if_neg heq, lookup_cons_eq_ite, lookup_cons_eq_ite, ih]
        split_ifs with hn hname
        · exact absurd (hname.symm.trans hn) heq
        all_goals rfl

theorem mem_insertField {f : String × Json} (h : f ∈ insertField name value fields) :
    f = (name, value) ∨ f ∈ fields := by
  induction fields with
  | nil => simpa [insertField] using h
  | cons g rest ih =>
      rw [insertField] at h
      split_ifs at h
      · simpa using h
      · rcases List.mem_cons.mp h with h | h
        · exact Or.inl h
        · exact Or.inr (List.mem_cons_of_mem _ h)
      · rcases List.mem_cons.mp h with h | h
        · exact Or.inr (h ▸ List.mem_cons_self)
        · exact (ih h).imp_right (List.mem_cons_of_mem _)

theorem InOrder.insertField (h : InOrder fields) : InOrder (insertField name value fields) := by
  induction fields with
  | nil => exact List.pairwise_singleton _ _
  | cons f rest ih =>
      obtain ⟨hfirst, hrest⟩ := List.pairwise_cons.mp h
      rw [Json.insertField]
      split_ifs with hlt heq
      · refine List.pairwise_cons.mpr ⟨fun g hg => ?_, h⟩
        rcases List.mem_cons.mp hg with rfl | hg
        · exact hlt
        · exact hlt.trans (hfirst g hg)
      · exact List.pairwise_cons.mpr ⟨fun g hg => heq ▸ hfirst g hg, hrest⟩
      · refine List.pairwise_cons.mpr ⟨fun g hg => ?_, ih hrest⟩
        rcases mem_insertField hg with rfl | hg
        · exact lt_of_le_of_ne (not_lt.mp hlt) (Ne.symm heq)
        · exact hfirst g hg

/-- A field with a name after all others is put in at the end. -/
theorem insertField_of_forall_lt (h : ∀ f ∈ fields, f.1 < name) :
    insertField name value fields = fields ++ [(name, value)] := by
  induction fields with
  | nil => rfl
  | cons f rest ih =>
      obtain ⟨hfirst, hrest⟩ := List.forall_mem_cons.mp h
      rw [insertField, if_neg hfirst.not_gt, if_neg hfirst.ne', ih hrest, List.cons_append]

/-- A field with a new name is added. -/
theorem insertField_perm (h : name ∉ fields.map Prod.fst) :
    (insertField name value fields).Perm ((name, value) :: fields) := by
  induction fields with
  | nil => exact List.Perm.refl _
  | cons f rest ih =>
      obtain ⟨hne, hrest⟩ := not_or.mp (mt List.mem_cons.mpr h)
      rw [insertField]
      split_ifs
      · exact List.Perm.refl _
      · exact ((ih hrest).cons f).trans (List.Perm.swap _ _ _)

end

/-- Of several fields of one name the last one counts. -/
theorem lookup_insertFields (done fields : List (String × Json)) (k : String) :
    (insertFields done fields).lookup k = (fields.reverse.lookup k).or (done.lookup k) := by
  induction fields generalizing done with
  | nil => simp [insertFields]
  | cons f rest ih =>
      change (insertFields (insertField f.1 f.2 done) rest).lookup k = _
      have hf : [f].lookup k = if k = f.1 then some f.2 else none := lookup_cons_eq_ite ..
      rw [ih, lookup_insertField, List.reverse_cons, List.lookup_append, Option.or_assoc, hf]
      split_ifs <;> simp

section

variable {done fields : List (String × Json)}

theorem mem_insertFields {f : String × Json} (h : f ∈ insertFields done fields) :
    f ∈ done ∨ f ∈ fields := by
  induction fields generalizing done with
  | nil => exact Or.inl h
  | cons g rest ih =>
      rcases @ih (insertField g.1 g.2 done) h with h | h
      · exact (mem_insertField h).elim (fun h => Or.inr (h ▸ List.mem_cons_self)) Or.inl
      · exact Or.inr (List.mem_cons_of_mem _ h)

theorem InOrder.insertFields (h : InOrder done) : InOrder (insertFields done fields) := by
  induction fields generalizing done with
  | nil => exact h
  | cons f rest ih => exact ih h.insertField

/-- Fields in order are put in as they are. -/
theorem insertFields_of_inOrder (h : InOrder (done ++ fields)) :
    insertFields done fields = done ++ fields := by
  induction fields generalizing done with
  | nil => exact (List.append_nil done).symm
  | cons f rest ih =>
      change insertFields (insertField f.1 f.2 done) rest = _
      have hlast : ∀ g ∈ done, g.1 < f.1 := fun g hg =>
        (List.pairwise_append.mp h).2.2 g hg f List.mem_cons_self
      rw [insertField_of_forall_lt hlast]
      rw [← List.singleton_append, ← List.append_assoc] at h
      rw [ih h, List.append_assoc, List.singleton_append]

/-- Fields with different names are all put in. -/
theorem insertFields_perm (h : ((done ++ fields).map Prod.fst).Nodup) :
    (insertFields done fields).Perm (done ++ fields) := by
  induction fields generalizing done with
  | nil => rw [List.append_nil]; exact List.Perm.refl _
  | cons f rest ih =>
      change (insertFields (insertField f.1 f.2 done) rest).Perm _
      have hmiddle : (done ++ f :: rest).Perm (f :: (done ++ rest)) := List.perm_middle
      have hnew : f.1 ∉ done.map Prod.fst := by
        have := (hmiddle.map Prod.fst).nodup_iff.mp h
        simp only [List.map_cons, List.map_append, List.nodup_cons, List.mem_append] at this
        exact fun hmem => this.1 (Or.inl hmem)
      have hinsert : (insertField f.1 f.2 done).Perm (f :: done) := insertField_perm hnew
      have hperm := hinsert.append_right rest
      refine (ih ?_).trans (hperm.trans hmiddle.symm)
      exact ((hperm.trans hmiddle.symm).map Prod.fst).nodup_iff.mpr h

end

/-! ### Normal form -/

/-- All doubles in a value are of sixty-four bits. -/
inductive Bounded : Json → Prop
  | null : Bounded .null
  | bool (b : Bool) : Bounded (.bool b)
  | int (n : Int) : Bounded (.int n)
  | double {x : Double} (h : x.IsBounded) : Bounded (.double x)
  | string (s : String) : Bounded (.string s)
  | array {elements : List Json} (h : ∀ v ∈ elements, Bounded v) : Bounded (.array elements)
  | object {fields : List (String × Json)} (h : ∀ f ∈ fields, Bounded f.2) :
      Bounded (.object fields)

/-- All doubles in a value are of sixty-four bits, and all fields of objects in order. -/
inductive IsNormal : Json → Prop
  | null : IsNormal .null
  | bool (b : Bool) : IsNormal (.bool b)
  | int (n : Int) : IsNormal (.int n)
  | double {x : Double} (h : x.IsBounded) : IsNormal (.double x)
  | string (s : String) : IsNormal (.string s)
  | array {elements : List Json} (h : ∀ v ∈ elements, IsNormal v) : IsNormal (.array elements)
  | object {fields : List (String × Json)} (order : InOrder fields)
      (h : ∀ f ∈ fields, IsNormal f.2) : IsNormal (.object fields)

attribute [simp] Bounded.null Bounded.bool Bounded.int Bounded.string

@[simp] theorem bounded_array_iff {elements : List Json} :
    Bounded (.array elements) ↔ ∀ v ∈ elements, v.Bounded :=
  ⟨fun | .array h => h, .array⟩

@[simp] theorem bounded_object_iff {fields : List (String × Json)} :
    Bounded (.object fields) ↔ ∀ f ∈ fields, f.2.Bounded :=
  ⟨fun | .object h => h, .object⟩

theorem IsNormal.bounded {v : Json} (h : v.IsNormal) : v.Bounded := by
  induction h with
  | null => exact .null
  | bool b => exact .bool b
  | int n => exact .int n
  | double h => exact .double h
  | string s => exact .string s
  | array _ ih => exact .array ih
  | object _ _ ih => exact .object ih

/-- Fields in normal form make an object in normal form. -/
theorem isNormal_ofFields {fields : List (String × Json)} (h : ∀ f ∈ fields, IsNormal f.2) :
    (ofFields fields).IsNormal := by
  have hnil : InOrder [] := List.Pairwise.nil
  refine .object hnil.insertFields fun f hf => ?_
  exact h f ((mem_insertFields hf).resolve_left List.not_mem_nil)

theorem Bounded.isNormal_normal {v : Json} (h : v.Bounded) : v.normal.IsNormal := by
  induction h with
  | null => exact .null
  | bool b => exact .bool b
  | int n => exact .int n
  | double h => exact .double h
  | string s => exact .string s
  | array _ ih =>
      rw [normal, normalElements_eq_map]
      exact .array (List.forall_mem_map.mpr ih)
  | object _ ih =>
      rw [normal, normalFields_eq_insertFields]
      exact isNormal_ofFields (List.forall_mem_map.mpr ih)

/-- A value in normal form stays as it is. -/
theorem IsNormal.normal_eq {v : Json} (h : v.IsNormal) : v.normal = v := by
  induction h with
  | null => rfl
  | bool b => rfl
  | int n => rfl
  | double h => rfl
  | string s => rfl
  | array _ ih => rw [normal, normalElements_eq_map, List.map_congr_left ih, List.map_id']
  | @object fields order _ ih =>
      have hfields : ∀ f ∈ fields, (f.1, f.2.normal) = f := fun f hf => Prod.ext rfl (ih f hf)
      rw [normal, normalFields_eq_insertFields, List.map_congr_left hfields, List.map_id']
      exact congrArg Json.object (insertFields_of_inOrder order)

theorem lookup_normalFields (name : String) (fields : List (String × Json)) :
    (normalFields [] fields).lookup name = (fields.reverse.lookup name).map normal := by
  rw [normalFields_eq_insertFields, lookup_insertFields, List.lookup_nil, Option.or_none,
    ← List.map_reverse, lookup_map_snd]

/-- A field of the normal form is the last one of that name, in normal form. -/
theorem field?_normal (name : String) (fields : List (String × Json)) :
    (normal (.object fields)).field? name = (fields.reverse.lookup name).map normal := by
  rw [normal, field?, lookup_normalFields]

/-! ### Values that were read -/

section

variable {x y : Double}

theorem isBounded_of_timesTen? {power : Int} (h : timesTen? x power = some y) : y.IsBounded := by
  obtain ⟨⟨m, e⟩, -, h⟩ := Option.bind_eq_some_iff.mp h
  dsimp only at h
  split_ifs at h
  · obtain ⟨⟨m', e'⟩, hnearest, rfl⟩ := Option.map_eq_some_iff.mp h
    exact Double.isBounded_of_nearest? hnearest false
  · obtain ⟨⟨m', e'⟩, hnearest, rfl⟩ := Option.map_eq_some_iff.mp h
    exact Double.isBounded_of_nearest? hnearest false

theorem isBounded_of_ofParts? {fuel : Nat} {power : Int} (hx : x.IsBounded)
    (h : ofParts? fuel x power = some y) : y.IsBounded := by
  induction fuel generalizing x power with
  | zero => exact Option.some.inj h ▸ hx
  | succ fuel ih =>
      rw [ofParts?] at h
      split_ifs at h
      · exact isBounded_of_timesTen? h
      · exact Option.some.inj h ▸ hx
      · obtain ⟨z, hz, h⟩ := Option.bind_eq_some_iff.mp h
        exact ih (isBounded_of_timesTen? hz) h

theorem bounded_of_signedDouble? {negative : Bool} {significand : Nat} {power : Int} :
    ∀ v ∈ signedDouble? negative significand power, v.Bounded := by
  intro v h
  obtain ⟨x, hx, h⟩ := Option.bind_eq_some_iff.mp h
  obtain ⟨y, hy, rfl⟩ := Option.map_eq_some_iff.mp h
  obtain ⟨⟨m, e⟩, hnearest, rfl⟩ := Option.map_eq_some_iff.mp hx
  have hbounded := isBounded_of_ofParts? (Double.isBounded_of_nearest? hnearest false) hy
  exact .double ⟨hbounded.mantissa_lt, hbounded.le_exponent⟩

/-- A value that was read before something else. -/
theorem bounded_of_mem_map {o : Option Json} {rest : List Char} (h : ∀ v ∈ o, v.Bounded) :
    ∀ p ∈ o.map fun v => (v, rest), p.1.Bounded := by
  intro p hp
  obtain ⟨v, hv, rfl⟩ := Option.map_eq_some_iff.mp hp
  exact h v hv

theorem bounded_of_readExponent? (negative : Bool) (significand : Nat) (power : Int)
    (s : List Char) : ∀ p ∈ readExponent? negative significand power s, p.1.Bounded := by
  have hzero : Double.IsBounded ⟨negative, 0, 0⟩ :=
    ⟨Nat.pow_pos two_pos, show Double.leastExponent ≤ 0 by decide⟩
  simp only [readExponent?]
  split_ifs
  · simp
  · simp
  · simpa using Bounded.double hzero
  all_goals exact bounded_of_mem_map bounded_of_signedDouble?

theorem bounded_of_readTail? (negative : Bool) (significand : Nat) (power : Int)
    (s : List Char) : ∀ p ∈ readTail? negative significand power s, p.1.Bounded := by
  cases s with
  | nil => exact bounded_of_mem_map bounded_of_signedDouble?
  | cons c s =>
      rw [readTail?]
      split_ifs
      · exact bounded_of_readExponent? _ _ _ _
      · exact bounded_of_mem_map bounded_of_signedDouble?

theorem bounded_of_wholeNumber? (negative : Bool) (significand dropped : Nat) :
    ∀ v ∈ wholeNumber? negative significand dropped, v.Bounded := by
  have hint (n : Int) : ∀ v ∈ some (Json.int n), v.Bounded := by simp
  rw [wholeNumber?]
  split
  · split
    · exact hint _
    · split
      · exact hint _
      · exact bounded_of_signedDouble?
  · exact bounded_of_signedDouble?

theorem bounded_of_readUnsigned? (negative : Bool) (s : List Char) :
    ∀ p ∈ readUnsigned? negative s, p.1.Bounded := by
  cases s with
  | nil => simp [readUnsigned?]
  | cons c s =>
      rw [readUnsigned?]
      split
      · simp
      split
      · simp
      dsimp only
      split
      · rw [readPoint?]
        split
        · simp
        · exact bounded_of_readTail? _ _ _ _
      · exact bounded_of_readExponent? _ _ _ _
      · exact bounded_of_readExponent? _ _ _ _
      · exact bounded_of_mem_map (bounded_of_wholeNumber? _ _ _)

theorem bounded_of_readNumber? (s : List Char) : ∀ p ∈ readNumber? s, p.1.Bounded := by
  rw [readNumber?.eq_def]
  split <;> exact bounded_of_readUnsigned? _ _

section

variable {fuel : Nat}
  (hvalue : ∀ depth s, ∀ p ∈ readValue? fuel depth s, p.1.Bounded)
  (helements : ∀ depth s, ∀ p ∈ readElements? fuel depth s, ∀ v ∈ p.1, v.Bounded)
  (hfields : ∀ depth s, ∀ p ∈ readFields? fuel depth s, ∀ f ∈ p.1, f.2.Bounded)

include helements hfields in
theorem bounded_of_readValue?_succ (depth : Nat) (s : List Char) :
    ∀ p ∈ readValue? (fuel + 1) depth s, p.1.Bounded := by
  rw [readValue?]
  split
  · simp
  · intro p hp
    obtain ⟨q, -, rfl⟩ := Option.map_eq_some_iff.mp hp
    exact .string q.1
  · cases depth with
    | zero => simp
    | succ depth =>
        dsimp only
        split
        · rintro _ ⟨⟩
          exact .array (by simp)
        · intro p hp
          obtain ⟨q, hq, rfl⟩ := Option.map_eq_some_iff.mp hp
          exact .array (helements _ _ q hq)
  · cases depth with
    | zero => simp
    | succ depth =>
        dsimp only
        split
        · rintro _ ⟨⟩
          exact .object (by simp)
        · intro p hp
          obtain ⟨q, hq, rfl⟩ := Option.map_eq_some_iff.mp hp
          exact .object (hfields _ _ q hq)
  · rintro _ ⟨⟩
    exact .bool true
  · rintro _ ⟨⟩
    exact .bool false
  · rintro _ ⟨⟩
    exact .null
  · exact bounded_of_readNumber? _

include hvalue helements in
theorem bounded_of_readElements?_succ (depth : Nat) (s : List Char) :
    ∀ p ∈ readElements? (fuel + 1) depth s, ∀ v ∈ p.1, v.Bounded := by
  rw [readElements?]
  intro p hp
  obtain ⟨⟨v, s⟩, hv, hp⟩ := Option.bind_eq_some_iff.mp hp
  have hfirst : v.Bounded := hvalue _ _ _ hv
  dsimp only at hp
  split at hp
  · obtain ⟨q, hq, rfl⟩ := Option.map_eq_some_iff.mp hp
    exact List.forall_mem_cons.mpr ⟨hfirst, helements _ _ q hq⟩
  · cases hp
    exact List.forall_mem_singleton.mpr hfirst
  · cases hp

include hvalue hfields in
theorem bounded_of_readFields?_succ (depth : Nat) (s : List Char) :
    ∀ p ∈ readFields? (fuel + 1) depth s, ∀ f ∈ p.1, f.2.Bounded := by
  rw [readFields?]
  split
  · intro p hp
    obtain ⟨⟨name, s⟩, -, hp⟩ := Option.bind_eq_some_iff.mp hp
    dsimp only at hp
    split at hp
    · obtain ⟨⟨v, s⟩, hv, hp⟩ := Option.bind_eq_some_iff.mp hp
      have hfirst : v.Bounded := hvalue _ _ _ hv
      dsimp only at hp
      split at hp
      · obtain ⟨q, hq, rfl⟩ := Option.map_eq_some_iff.mp hp
        exact List.forall_mem_cons.mpr ⟨hfirst, hfields _ _ q hq⟩
      · cases hp
        exact List.forall_mem_singleton.mpr hfirst
      · cases hp
    · cases hp
  · simp

end

/-- All doubles in what is read are of sixty-four bits, by induction on the bound of the work. -/
theorem bounded_of_read (fuel : Nat) :
    (∀ depth s, ∀ p ∈ readValue? fuel depth s, p.1.Bounded) ∧
    (∀ depth s, ∀ p ∈ readElements? fuel depth s, ∀ v ∈ p.1, v.Bounded) ∧
    (∀ depth s, ∀ p ∈ readFields? fuel depth s, ∀ f ∈ p.1, f.2.Bounded) := by
  induction fuel with
  | zero => simp [readValue?, readElements?, readFields?]
  | succ fuel ih =>
      obtain ⟨hvalue, helements, hfields⟩ := ih
      exact ⟨bounded_of_readValue?_succ helements hfields,
        bounded_of_readElements?_succ hvalue helements,
        bounded_of_readFields?_succ hvalue hfields⟩

/-- All doubles in a value that was read are of sixty-four bits. -/
theorem bounded_of_ofText? {s : String} {v : Json} (h : ofText? s = some v) : v.Bounded := by
  rw [ofText?] at h
  split at h
  · next value rest hread =>
      split_ifs at h
      cases h
      exact (bounded_of_read _).1 _ _ _ hread
  · cases h

end

end PageMigration.Json
