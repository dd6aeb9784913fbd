import PageMigration.Proofs.Json.Spelling

/-!
# Reading back what is written

The reader gives back a value that is made of strings, arrays and objects from the text of the
value, whatever the strings hold: each escaped character is read as the character, and a string, an
array or an object ends where its closing mark stands, whatever follows it.  The text nests as deep
as the value, and the reader is limited in depth.

## Main definitions

* `Json.Textual` : values of strings, arrays and objects that nest to a certain depth at most.
* `Json.ReadsBack` : a value is read back from its text in front of any rest.

## Main results

* `Json.readString?_escaped` : a string is read back.
* `Json.Textual.readsBack` : so is a value of strings, arrays and objects.
* `Json.Textual.ofText?_compact` : the text of the value holds that value and nothing else.
-/

namespace PageMigration.Json

/-! ### Strings -/

/-- An escaped character is read as the character. -/
theorem readStringFrom?_escapedChar (c : Char) (fuel : Nat) (s : List Char) :
    readStringFrom? (fuel + 1) (escapedChar c ++ s) =
      (readStringFrom? fuel s).map fun (cs, s) => (c :: cs, s) := by
  rw [escapedChar]
  split_ifs with hquote hbackslash hb ht hn hf hr hcontrol
  · rw [hquote]
    rfl
  · rw [hbackslash]
    rfl
  · rw [hb]
    rfl
  · rw [ht]
    rfl
  · rw [hn]
    rfl
  · rw [hf]
    rfl
  · rw [hr]
    rfl
  · have hzero : Digits.valueIn? 16 '0' = some 0 := rfl
    have hhigh := valueIn?_digitChar (show c.toNat / 16 < 16 by omega)
    have hlow := valueIn?_digitChar (Nat.mod_lt c.toNat (by decide : 0 < 16))
    have hvalue : ((0 * 16 + 0) * 16 + c.toNat / 16) * 16 + c.toNat % 16 = c.toNat := by omega
    have hescape : readUnicodeEscape? ('0' :: '0' :: Nat.digitChar (c.toNat / 16) ::
        Nat.digitChar (c.toNat % 16) :: s) = some (c, s) := by
      simp only [readUnicodeEscape?, readHex?, hzero, hhigh, hlow, Option.bind_eq_bind,
        Option.bind_some, hvalue]
      rw [if_neg (by omega), if_neg (by omega), Char.ofNat_toNat]
    simp [readStringFrom?, hescape]
  · simp [readStringFrom?, hquote, hbackslash, hcontrol]

theorem readStringFrom?_escaped {s : List Char} {fuel : Nat} (h : s.length < fuel)
    (rest : List Char) : readStringFrom? fuel (escaped s ++ '"' :: rest) = some (s, rest) := by
  induction s generalizing fuel with
  | nil =>
      obtain ⟨fuel, rfl⟩ := Nat.exists_eq_add_of_lt h
      simp [escaped, readStringFrom?]
  | cons c s ih =>
      obtain ⟨fuel, rfl⟩ := Nat.exists_eq_add_of_lt h
      have hrest := @ih ((c :: s).length + fuel) (by rw [List.length_cons]; omega)
      rw [escaped, List.flatMap_cons, List.append_assoc, readStringFrom?_escapedChar, ← escaped,
        hrest]
      rfl

theorem length_le_length_escaped (s : List Char) : s.length ≤ (escaped s).length := by
  have hchar (c : Char) : 1 ≤ (escapedChar c).length := by
    rw [escapedChar]
    split_ifs <;> simp
  induction s with
  | nil => exact Nat.le_refl 0
  | cons c s ih =>
      have := hchar c
      rw [escaped, List.flatMap_cons, ← escaped, List.length_append, List.length_cons]
      omega

/-- A string is read back, whatever follows its closing quote. -/
theorem readString?_escaped (s : String) (rest : List Char) :
    readString? (escaped s.toList ++ '"' :: rest) = some (s, rest) := by
  have hfuel : s.toList.length < (escaped s.toList ++ '"' :: rest).length + 1 := by
    have := length_le_length_escaped s.toList
    simp only [List.length_append]
    omega
  rw [readString?, readStringFrom?_escaped hfuel]
  simp

/-! ### Values -/

/-- Values of strings, arrays and objects in which arrays and objects nest to a depth of at most
`n`. -/
inductive Textual : Nat → Json → Prop
  | string {n : Nat} (s : String) : Textual n (.string s)
  | array {n : Nat} {elements : List Json} (h : ∀ v ∈ elements, Textual n v) :
      Textual (n + 1) (.array elements)
  | object {n : Nat} {fields : List (String × Json)} (h : ∀ f ∈ fields, Textual n f.2) :
      Textual (n + 1) (.object fields)

/-- A value is read back in front of any rest, where arrays and objects may nest to a depth of `n`.
Two steps of work for each character are enough. -/
def ReadsBack (n : Nat) (v : Json) : Prop :=
  ∀ fuel depth rest, n ≤ depth → 2 * (compactChars v).length ≤ fuel →
    readValue? fuel depth (compactChars v ++ rest) = some (v, rest)

/-- The text of a value begins with a mark that is not the end of an array. -/
theorem Textual.exists_eq_cons {n : Nat} {v : Json} (h : Textual n v) :
    ∃ c text, compactChars v = c :: text ∧ (c = '"' ∨ c = '[' ∨ c = '\x7b') := by
  cases h with
  | string s => exact ⟨_, _, rfl, .inl rfl⟩
  | @array _ elements _ => cases elements with
    | nil => exact ⟨_, _, rfl, .inr (.inl rfl)⟩
    | cons v rest => exact ⟨_, _, by rw [compactChars], .inr (.inl rfl)⟩
  | @object _ fields _ => cases fields with
    | nil => exact ⟨_, _, rfl, .inr (.inr rfl)⟩
    | cons f rest => exact ⟨_, _, by rw [compactChars], .inr (.inr rfl)⟩

section Parts

variable {n depth : Nat} {rest : List Char} (hdepth : n ≤ depth)

include hdepth

/-- Elements that are read back one by one are read back up to the end of the array. -/
theorem readElements?_compactElements {v : Json} {elements : List Json} {fuel : Nat}
    (h : ∀ w ∈ v :: elements, ReadsBack n w)
    (hfuel : 2 * (compactChars v ++ compactElements elements).length ≤ fuel) :
    readElements? fuel depth (compactChars v ++ (compactElements elements ++ rest)) =
      some (v :: elements, rest) := by
  induction elements generalizing v fuel with
  | nil =>
      rw [compactElements, List.length_append, List.length_singleton] at hfuel
      obtain ⟨fuel, rfl⟩ : ∃ k, fuel = k + 1 := ⟨fuel - 1, by omega⟩
      rw [readElements?, h v List.mem_cons_self fuel depth _ hdepth (by omega)]
      rfl
  | cons w elements ih =>
      -- The comma pays for the step from one element to the next.
      rw [compactElements, List.length_append, List.length_cons] at hfuel
      obtain ⟨fuel, rfl⟩ : ∃ k, fuel = k + 1 := ⟨fuel - 1, by omega⟩
      have hrest := @ih w fuel (fun x hx => h x (List.mem_cons_of_mem v hx)) (by omega)
      rw [readElements?, h v List.mem_cons_self fuel depth _ hdepth (by omega), Option.bind_some,
        compactElements, List.cons_append, List.append_assoc]
      change (readElements? fuel depth _).map _ = _
      rw [hrest]
      rfl

/-- A field is read up to the mark that follows its value. -/
theorem readFields?_quoted {name : String} {v : Json} (hv : ReadsBack n v) {fuel : Nat}
    (hfuel : 2 * (compactChars v).length ≤ fuel) :
    readFields? (fuel + 1) depth (quoted name ++ ':' :: (compactChars v ++ rest)) =
      match skipBlanks rest with
      | ',' :: s => (readFields? fuel depth s).map fun (fs, s) => ((name, v) :: fs, s)
      | '\x7d' :: s => some ([(name, v)], s)
      | _ => none := by
  have hquoted : quoted name ++ ':' :: (compactChars v ++ rest) =
      '"' :: (escaped name.toList ++ '"' :: ':' :: (compactChars v ++ rest)) := by
    simp [quoted]
  rw [hquoted, readFields?]
  change (readString? _).bind _ = _
  rw [readString?_escaped, Option.bind_some]
  change (readValue? fuel depth _).bind _ = _
  rw [hv fuel depth rest hdepth hfuel]
  rfl

/-- Fields whose values are read back one by one are read back up to the end of the object. -/
theorem readFields?_compactFields {name : String} {v : Json} {fields : List (String × Json)}
    {fuel : Nat} (h : ∀ f ∈ (name, v) :: fields, ReadsBack n f.2)
    (hfuel : 2 * (quoted name ++ ':' :: (compactChars v ++ compactFields fields)).length ≤ fuel) :
    readFields? fuel depth
      (quoted name ++ ':' :: (compactChars v ++ (compactFields fields ++ rest))) =
        some ((name, v) :: fields, rest) := by
  have hv : ReadsBack n v := h (name, v) List.mem_cons_self
  induction fields generalizing name v fuel with
  | nil =>
      simp only [List.length_append, List.length_cons] at hfuel
      obtain ⟨fuel, rfl⟩ : ∃ k, fuel = k + 1 := ⟨fuel - 1, by omega⟩
      rw [readFields?_quoted hdepth hv (by omega)]
      rfl
  | cons f fields ih =>
      obtain ⟨next, w⟩ := f
      rw [compactFields, List.length_append, List.length_cons, List.length_append,
        List.length_cons] at hfuel
      obtain ⟨fuel, rfl⟩ : ∃ k, fuel = k + 1 := ⟨fuel - 1, by omega⟩
      have hfields (f) (hf : f ∈ (next, w) :: fields) : ReadsBack n f.2 :=
        h f (List.mem_cons_of_mem _ hf)
      have hrest := @ih next w fuel hfields (by omega) (hfields (next, w) List.mem_cons_self)
      have htext : compactFields ((next, w) :: fields) ++ rest =
          ',' :: (quoted next ++ ':' :: (compactChars w ++ (compactFields fields ++ rest))) := by
        simp [compactFields]
      rw [readFields?_quoted hdepth hv (by omega), htext]
      change (readFields? fuel depth _).map _ = _
      rw [hrest]
      rfl

end Parts

/-- Behind the opening mark of an array, the text of a value is that of its first element. -/
theorem Textual.readValue?_array {n : Nat} {v : Json} (h : Textual n v) (fuel depth : Nat)
    (rest : List Char) : readValue? (fuel + 1) (depth + 1) ('[' :: (compactChars v ++ rest)) =
      (readElements? fuel depth (compactChars v ++ rest)).map fun (vs, s) => (.array vs, s) := by
  obtain ⟨c, text, hv, hc⟩ := h.exists_eq_cons
  rw [hv, List.cons_append]
  rcases hc with rfl | rfl | rfl <;> rfl

/-- Behind the opening mark of an object, a quote begins the first name. -/
theorem readValue?_object (name : String) (fuel depth : Nat) (rest : List Char) :
    readValue? (fuel + 1) (depth + 1) ('\x7b' :: (quoted name ++ rest)) =
      (readFields? fuel depth (quoted name ++ rest)).map fun (fs, s) => (.object fs, s) :=
  rfl

/-- A value is read back in front of any rest. -/
theorem Textual.readsBack {n : Nat} {v : Json} (h : Textual n v) : ReadsBack n v := by
  induction h with
  | string s =>
      intro fuel depth rest _ hfuel
      have hquoted : quoted s ++ rest = '"' :: (escaped s.toList ++ '"' :: rest) := by
        simp [quoted]
      rw [compactChars, quoted, List.length_cons] at hfuel
      obtain ⟨fuel, rfl⟩ : ∃ k, fuel = k + 1 := ⟨fuel - 1, by omega⟩
      rw [compactChars, hquoted, readValue?]
      change (readString? _).map _ = _
      rw [readString?_escaped]
      rfl
  | @array n elements h ih =>
      intro fuel depth rest hdepth hfuel
      obtain ⟨depth, rfl⟩ : ∃ k, depth = k + 1 := ⟨depth - 1, by omega⟩
      cases elements with
      | nil =>
          have hone : 1 ≤ fuel := Nat.le_trans (by decide) hfuel
          obtain ⟨fuel, rfl⟩ := Nat.exists_eq_add_of_le' hone
          rfl
      | cons v elements =>
          rw [compactChars, List.length_cons] at hfuel
          obtain ⟨fuel, rfl⟩ : ∃ k, fuel = k + 1 := ⟨fuel - 1, by omega⟩
          rw [compactChars, List.cons_append, List.append_assoc,
            (h v List.mem_cons_self).readValue?_array,
            readElements?_compactElements (Nat.le_of_succ_le_succ hdepth) ih (by omega)]
          rfl
  | @object n fields h ih =>
      intro fuel depth rest hdepth hfuel
      obtain ⟨depth, rfl⟩ : ∃ k, depth = k + 1 := ⟨depth - 1, by omega⟩
      cases fields with
      | nil =>
          have hone : 1 ≤ fuel := Nat.le_trans (by decide) hfuel
          obtain ⟨fuel, rfl⟩ := Nat.exists_eq_add_of_le' hone
          rfl
      | cons f fields =>
          obtain ⟨name, v⟩ := f
          rw [compactChars, List.length_cons] at hfuel
          obtain ⟨fuel, rfl⟩ : ∃ k, fuel = k + 1 := ⟨fuel - 1, by omega⟩
          rw [compactChars, List.cons_append, List.append_assoc, List.cons_append,
            List.append_assoc, readValue?_object,
            readFields?_compactFields (Nat.le_of_succ_le_succ hdepth) ih (by omega)]
          rfl

/-- A value that does not nest too deep is read back from its text. -/
theorem Textual.ofText?_compact {v : Json} (h : Textual deepest v) :
    ofText? v.compact = some v := by
  have hread := h.readsBack (2 * (compactChars v).length + 2) deepest [] (Nat.le_refl _) (by omega)
  rw [List.append_nil] at hread
  rw [ofText?, compact, String.toList_ofList]
  simp only [hread]
  rfl

end PageMigration.Json
