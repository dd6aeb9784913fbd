import PageMigration.Encoding.Percent

/-!
# Plain ends of decoded texts

The end of a text that begins with a dot and goes on with letters and digits is the same before
and after its escapes are decoded.  An escape cannot reach over the dot, since a dot is no
hexadecimal digit, and the bytes of a character cannot either, since a dot continues none.

## Main results

* `Utf8.encode_ofList` : the bytes of a text are those of its characters.
* `Utf8.pieces_append_ascii` : characters before and from an ASCII character on.
* `Percent.exists_toList_decode_eq` : a plain end stays as it is.
-/

namespace PageMigration

/-! ### Bytes of texts -/

namespace Utf8

private theorem toList_loop_eq (bytes : ByteArray) (i : Nat) (read : List UInt8) :
    ByteArray.toList.loop bytes i read = read.reverse ++ bytes.data.toList.drop i := by
  fun_induction ByteArray.toList.loop bytes i read with
  | case1 i read hi ih =>
      have hlength : i < bytes.data.toList.length := by simpa using hi
      rw [ih, List.drop_eq_getElem_cons (l := bytes.data.toList) hlength]
      simp [ByteArray.get!, hi]
  | case2 i read hi =>
      rw [List.drop_eq_nil_of_le (by simpa using Nat.le_of_not_lt hi)]
      simp

/-- The bytes of a text are those of its characters. -/
theorem encode_ofList (s : List Char) :
    encode (String.ofList s) = s.flatMap String.utf8EncodeChar := by
  have hdata : s.utf8Encode.data.toList = s.flatMap String.utf8EncodeChar :=
    List.toList_data_toByteArray
  rw [← hdata, encode, ByteArray.toList, toList_loop_eq]
  rfl

theorem encode_ofList_append (s t : List Char) :
    encode (String.ofList (s ++ t)) = encode (String.ofList s) ++ encode (String.ofList t) := by
  simp only [encode_ofList, List.flatMap_append]

/-- The byte of an ASCII character. -/
theorem utf8EncodeChar_of_lt {c : Char} (h : c.toNat < 128) :
    String.utf8EncodeChar c = [UInt8.ofNat c.toNat] := by
  have hsize : c.utf8Size = 1 := by
    rw [Char.utf8Size_eq_one_iff, UInt32.le_iff_toNat_le]
    exact Nat.le_of_lt_succ h
  rw [String.utf8EncodeChar_eq_singleton hsize]
  rfl

/-- The bytes of an ASCII text. -/
theorem encode_ofList_of_ascii {s : List Char} (h : ∀ c ∈ s, c.toNat < 128) :
    encode (String.ofList s) = s.map fun c => UInt8.ofNat c.toNat := by
  rw [encode_ofList]
  induction s with
  | nil => rfl
  | cons c s ih =>
      rw [List.forall_mem_cons] at h
      rw [List.flatMap_cons, utf8EncodeChar_of_lt h.1, ih h.2]
      rfl

/-! ### Characters of bytes -/

/-- A byte that stands for an ASCII character continues no other one. -/
theorem continue?_append_ascii {d : UInt8} (hd : d < 0x80) (n more : Nat) (s rest : Bytes) :
    continue? n more (s ++ d :: rest) =
      ((continue? n more s).1, (continue? n more s).2 ++ d :: rest) := by
  have hcontinues : isContinuation d = false := by
    simp only [isContinuation, Bool.and_eq_false_iff, decide_eq_false_iff_not]
    exact Or.inl (UInt8.not_le.mpr hd)
  induction more generalizing n s with
  | zero => simp [continue?]
  | succ more ih =>
      cases s with
      | nil => simp [continue?, hcontinues]
      | cons b s =>
          by_cases hb : isContinuation b
          · simp [continue?, hb, ih]
          · simp [continue?, hb]

theorem secondBounds?_low {b low high : UInt8} {more : Nat}
    (h : secondBounds? b = some (low, high, more)) : 0x80 ≤ low := by
  simp only [secondBounds?] at h
  repeat' split at h
  all_goals cases h
  all_goals decide

theorem step_append_ascii {d : UInt8} (hd : d < 0x80) (b : UInt8) (s rest : Bytes) :
    step b (s ++ d :: rest) = ((step b s).1, (step b s).2 ++ d :: rest) := by
  by_cases hb : b < 0x80
  · simp [step, hb]
  cases hbounds : secondBounds? b with
  | none => simp [step, hb, hbounds]
  | some bounds =>
      obtain ⟨low, high, more⟩ := bounds
      cases s with
      | nil =>
          have hlow : ¬ low ≤ d := fun hle =>
            absurd (UInt8.le_trans (secondBounds?_low hbounds) hle) (UInt8.not_le.mpr hd)
          simp [step, hb, hbounds, hlow]
      | cons c s =>
          by_cases hc : low ≤ c ∧ c ≤ high
          · simp [step, hb, hbounds, hc, continue?_append_ascii hd]
          · simp [step, hb, hbounds, hc]

/-- The characters before an ASCII character are read without regard to what follows. -/
theorem pieces_append_ascii {d : UInt8} (hd : d < 0x80) (s rest : Bytes) :
    pieces (s ++ d :: rest) = pieces s ++ some (Char.ofNat d.toNat) :: pieces rest := by
  fun_induction pieces s with
  | case1 => simp [pieces, step, hd]
  | case2 b s ih =>
      rw [List.cons_append, pieces, step_append_ascii hd, ih]
      rfl

theorem byte_lt_of_lt {c : Char} (h : c.toNat < 128) :
    UInt8.ofNat c.toNat < 0x80 ∧ Char.ofNat (UInt8.ofNat c.toNat).toNat = c := by
  have hbyte : (UInt8.ofNat c.toNat).toNat = c.toNat :=
    UInt8.toNat_ofNat_of_lt' (Nat.lt_of_lt_of_le h (by decide))
  exact ⟨by rwa [UInt8.lt_iff_toNat_lt, hbyte], by rw [hbyte, Char.ofNat_toNat]⟩

/-- ASCII characters at the end are read from their bytes, whatever stands before them. -/
theorem pieces_append_of_ascii (s : Bytes) {plain : List Char} (h : ∀ c ∈ plain, c.toNat < 128) :
    pieces (s ++ plain.map fun c => UInt8.ofNat c.toNat) = pieces s ++ plain.map some := by
  induction plain generalizing s with
  | nil => simp
  | cons c plain ih =>
      rw [List.forall_mem_cons] at h
      obtain ⟨hlt, hchar⟩ := byte_lt_of_lt h.1
      have hnil := ih [] h.2
      rw [List.nil_append, pieces, List.nil_append] at hnil
      rw [List.map_cons, pieces_append_ascii hlt, hchar, hnil, List.map_cons]

theorem decode?_append_of_ascii (s : Bytes) {plain : List Char}
    (h : ∀ c ∈ plain, c.toNat < 128) :
    decode? (s ++ plain.map fun c => UInt8.ofNat c.toNat) = (decode? s).map (· ++ plain) := by
  have hplain : (plain.map some).all Option.isSome := by simp
  simp only [decode?, pieces_append_of_ascii s h, List.all_append, hplain, Bool.and_true,
    List.filterMap_append]
  split
  · simp [List.filterMap_map]
  · rfl

end Utf8

namespace Percent

open Utf8

/-! ### Escapes -/

theorem decodeBytes_cons_of_ne {b : UInt8} (h : b ≠ 0x25) (s : Bytes) :
    decodeBytes (b :: s) = b :: decodeBytes s := by
  rw [decodeBytes.eq_def]
  simp [h]

theorem decodeBytes_escape {h l : UInt8} {m n : Nat} (hh : digit? h = some m)
    (hl : digit? l = some n) (rest : Bytes) :
    decodeBytes (0x25 :: h :: l :: rest) = UInt8.ofNat (16 * m + n) :: decodeBytes rest := by
  rw [decodeBytes.eq_def]
  simp [hh, hl]

/-- Bytes that do not begin with two hexadecimal digits. -/
def NoDigits (s : Bytes) : Prop :=
  ∀ a b rest, s = a :: b :: rest → digit? a = none ∨ digit? b = none

theorem NoDigits.append {s : Bytes} (h : NoDigits s) {d : UInt8} (hd : digit? d = none)
    (rest : Bytes) : NoDigits (s ++ d :: rest) := by
  intro a b rest' heq
  match s with
  | [] =>
      cases heq
      exact Or.inl hd
  | [_] =>
      cases heq
      exact Or.inr hd
  | a' :: b' :: s =>
      cases heq
      exact h a b s rfl

/-- A percent sign that begins no escape stands for itself. -/
theorem decodeBytes_percent {s : Bytes} (h : NoDigits s) :
    decodeBytes (0x25 :: s) = 0x25 :: decodeBytes s := by
  match s with
  | [] => simp [decodeBytes]
  | [b] => by_cases hb : b = 0x25 <;> simp [decodeBytes, hb]
  | a :: b :: rest =>
      conv => lhs; rw [decodeBytes.eq_def]
      rcases h a b rest rfl with ha | hb
      · simp [ha]
      · cases digit? a <;> simp [hb]

/-- An escape does not reach over a byte that is no hexadecimal digit. -/
theorem decodeBytes_append {d : UInt8} (hd : digit? d = none) (hp : d ≠ 0x25) (rest s : Bytes) :
    decodeBytes (s ++ d :: rest) = decodeBytes s ++ d :: decodeBytes rest := by
  match s with
  | [] => rw [List.nil_append, decodeBytes_cons_of_ne hp, decodeBytes, List.nil_append]
  | b :: s =>
      by_cases hb : b = 0x25
      · subst hb
        by_cases hs : NoDigits s
        · rw [List.cons_append, decodeBytes_percent hs, decodeBytes_percent (hs.append hd rest),
            decodeBytes_append hd hp rest s, List.cons_append]
        · simp only [NoDigits, Classical.not_forall, not_or] at hs
          obtain ⟨h, l, s', rfl, hh, hl⟩ := hs
          obtain ⟨m, hm⟩ := Option.ne_none_iff_exists'.mp hh
          obtain ⟨n, hn⟩ := Option.ne_none_iff_exists'.mp hl
          rw [List.cons_append, List.cons_append, List.cons_append, decodeBytes_escape hm hn,
            decodeBytes_escape hm hn, decodeBytes_append hd hp rest s', List.cons_append]
      · rw [List.cons_append, decodeBytes_cons_of_ne hb, decodeBytes_cons_of_ne hb,
          decodeBytes_append hd hp rest s, List.cons_append]
termination_by s.length

theorem decodeBytes_of_notMem {s : Bytes} (h : 0x25 ∉ s) : decodeBytes s = s := by
  induction s with
  | nil => simp [decodeBytes]
  | cons b s ih =>
      rw [List.mem_cons, not_or] at h
      rw [decodeBytes_cons_of_ne (Ne.symm h.1), ih h.2]

theorem percent_notMem_of_plain {plain : List Char} (h : ∀ c ∈ plain, c.toNat < 128 ∧ c ≠ '%') :
    (0x25 : UInt8) ∉ plain.map fun c => UInt8.ofNat c.toNat := fun hmem => by
  obtain ⟨c, hc, heq⟩ := List.mem_map.mp hmem
  have hchar := (byte_lt_of_lt (h c hc).1).2
  rw [heq] at hchar
  exact (h c hc).2 hchar.symm

/-- A text in ASCII without percent signs has no escapes. -/
theorem decode_of_plain {s : String} (h : ∀ c ∈ s.toList, c.toNat < 128 ∧ c ≠ '%') :
    decode s = s := by
  have hascii : ∀ c ∈ s.toList, c.toNat < 128 := fun c hc => (h c hc).1
  have hencode : encode s = s.toList.map fun c => UInt8.ofNat c.toNat := by
    rw [← encode_ofList_of_ascii hascii, String.ofList_toList]
  have hdecoded : Utf8.decode? (encode s) = some s.toList := by
    rw [hencode, ← List.nil_append (s.toList.map _), decode?_append_of_ascii [] hascii]
    simp [Utf8.decode?, pieces]
  rw [decode, decode?, decodeBytes_of_notMem (hencode ▸ percent_notMem_of_plain h), hdecoded]
  exact String.ofList_toList

/-! ### Plain ends -/

/-- The end of a text from a dot on stays as it is when escapes are decoded, if it is written in
ASCII without percent signs. -/
theorem exists_toList_decode_eq (s : List Char) {plain : List Char}
    (h : ∀ c ∈ plain, c.toNat < 128 ∧ c ≠ '%') :
    ∃ before, (decode (String.ofList (s ++ '.' :: plain))).toList = before ++ '.' :: plain := by
  have hascii : ∀ c ∈ '.' :: plain, c.toNat < 128 :=
    List.forall_mem_cons.mpr ⟨by decide, fun c hc => (h c hc).1⟩
  have hbytes : decodeBytes (encode (String.ofList (s ++ '.' :: plain))) =
      decodeBytes (encode (String.ofList s)) ++
        ('.' :: plain).map fun c => UInt8.ofNat c.toNat := by
    rw [encode_ofList_append, encode_ofList_of_ascii hascii, List.map_cons,
      decodeBytes_append (by decide) (by decide),
      decodeBytes_of_notMem (percent_notMem_of_plain h)]
  rw [decode, decode?, hbytes, decode?_append_of_ascii _ hascii]
  cases Utf8.decode? (decodeBytes (encode (String.ofList s))) with
  | none => exact ⟨s, by simp⟩
  | some before => exact ⟨before, by simp⟩

end Percent

end PageMigration
