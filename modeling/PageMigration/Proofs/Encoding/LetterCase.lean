import PageMigration.Proofs.Encoding.PlainEnd
import PageMigration.Text

/-!
# Letter case of decoded texts

Two texts in ASCII that differ in the case of letters only still do so after their escapes are
decoded: hexadecimal digits mean the same in either case, and bytes from escapes are the same.

## Main definitions

* `Utf8.lowerByte` : the byte of the small form of a letter in ASCII.

## Main results

* `Percent.map_decodeBytes` : the case of bytes before and after escapes are decoded.
* `Utf8.map_decode?` : the case of bytes and of the characters that they stand for.
* `Percent.lower_decode` : the case of texts before and after escapes are decoded.
-/

namespace PageMigration

namespace Utf8

/-- The byte of the small form of a letter in ASCII; other bytes stay as they are. -/
def lowerByte (b : UInt8) : UInt8 :=
  if 0x41 ≤ b ∧ b ≤ 0x5A then b + 0x20 else b

theorem forall_byte {p : UInt8 → Prop} (h : ∀ n < 256, p (UInt8.ofNat n)) (b : UInt8) : p b := by
  have hb := h b.toNat b.toNat_lt
  rwa [UInt8.ofNat_toNat] at hb

theorem lowerByte_lowerByte (b : UInt8) : lowerByte (lowerByte b) = lowerByte b :=
  forall_byte (p := fun b => lowerByte (lowerByte b) = lowerByte b) (by decide +kernel) b

/-- The small form of a byte stands for the small form of a character in ASCII. -/
theorem ofNat_lowerByte (b : UInt8) (h : b < 0x80) :
    lowerByte b < 0x80 ∧ Char.ofNat (lowerByte b).toNat = (Char.ofNat b.toNat).toLower :=
  forall_byte (p := fun b => b < 0x80 →
    lowerByte b < 0x80 ∧ Char.ofNat (lowerByte b).toNat = (Char.ofNat b.toNat).toLower)
    (by decide +kernel) b h

theorem toNat_ofNat_byte (b : UInt8) : (Char.ofNat b.toNat).toNat = b.toNat :=
  forall_byte (p := fun b => (Char.ofNat b.toNat).toNat = b.toNat) (by decide +kernel) b

/-- Bytes that stand for no ASCII character have no case. -/
theorem lowerByte_of_not_lt {b : UInt8} (h : ¬ b < 0x80) : lowerByte b = b :=
  forall_byte (p := fun b => ¬ b < 0x80 → lowerByte b = b) (by decide +kernel) b h

end Utf8

namespace Percent

open Utf8

theorem digit?_lowerByte (b : UInt8) : digit? (lowerByte b) = digit? b :=
  forall_byte (p := fun b => digit? (lowerByte b) = digit? b) (by decide +kernel) b

theorem lowerByte_eq_percent_iff (b : UInt8) : lowerByte b = 0x25 ↔ b = 0x25 :=
  forall_byte (p := fun b => lowerByte b = 0x25 ↔ b = 0x25) (by decide +kernel) b

theorem NoDigits.map_lowerByte {s : Bytes} (h : NoDigits s) : NoDigits (s.map lowerByte) := by
  intro a b rest heq
  match s with
  | a' :: b' :: s =>
      cases heq
      rw [digit?_lowerByte, digit?_lowerByte]
      exact h a' b' s rfl

/-- The case of the bytes of a text does not matter to the escapes in it. -/
theorem map_decodeBytes (s : Bytes) :
    (decodeBytes (s.map lowerByte)).map lowerByte = (decodeBytes s).map lowerByte := by
  match s with
  | [] => rfl
  | b :: s =>
      by_cases hb : b = 0x25
      · subst hb
        have hpercent : lowerByte 0x25 = 0x25 := by decide
        by_cases hs : NoDigits s
        · rw [List.map_cons, hpercent, decodeBytes_percent hs, decodeBytes_percent hs.map_lowerByte,
            List.map_cons, List.map_cons, map_decodeBytes s]
        · simp only [NoDigits, Classical.not_forall, not_or] at hs
          obtain ⟨h, l, s', rfl, hh, hl⟩ := hs
          obtain ⟨m, hm⟩ := Option.ne_none_iff_exists'.mp hh
          obtain ⟨n, hn⟩ := Option.ne_none_iff_exists'.mp hl
          rw [List.map_cons, List.map_cons, List.map_cons, hpercent, decodeBytes_escape hm hn,
            decodeBytes_escape ((digit?_lowerByte h).trans hm) ((digit?_lowerByte l).trans hn),
            List.map_cons, List.map_cons, map_decodeBytes s']
      · have hlower : lowerByte b ≠ 0x25 := fun h => hb ((lowerByte_eq_percent_iff b).mp h)
        rw [List.map_cons, decodeBytes_cons_of_ne hb, decodeBytes_cons_of_ne hlower,
          List.map_cons, List.map_cons, lowerByte_lowerByte, map_decodeBytes s]
termination_by s.length

end Percent

namespace Utf8

theorem isContinuation_lowerByte (b : UInt8) : isContinuation (lowerByte b) = isContinuation b :=
  forall_byte (p := fun b => isContinuation (lowerByte b) = isContinuation b) (by decide +kernel) b

theorem lowerByte_of_isContinuation {b : UInt8} (h : isContinuation b) : lowerByte b = b :=
  forall_byte (p := fun b => isContinuation b → lowerByte b = b) (by decide +kernel) b h

theorem continue?_map_lowerByte (n more : Nat) (s : Bytes) :
    continue? n more (s.map lowerByte) =
      ((continue? n more s).1, (continue? n more s).2.map lowerByte) := by
  induction more generalizing n s with
  | zero => simp [continue?]
  | succ more ih =>
      cases s with
      | nil => simp [continue?]
      | cons b s =>
          by_cases hb : isContinuation b
          · simp [continue?, lowerByte_of_isContinuation hb, hb, ih]
          · simp [continue?, isContinuation_lowerByte, hb]

/-- The bytes of a character of several bytes have no case. -/
theorem step_map_lowerByte {b : UInt8} (hb : ¬ b < 0x80) (s : Bytes) :
    step b (s.map lowerByte) = ((step b s).1, (step b s).2.map lowerByte) := by
  cases hbounds : secondBounds? b with
  | none => simp [step, hb, hbounds]
  | some bounds =>
      obtain ⟨low, high, more⟩ := bounds
      cases s with
      | nil => simp [step, hb, hbounds]
      | cons c s =>
          by_cases hc : c < 0x80
          · have hout (d : UInt8) (hd : d < 0x80) : ¬ (low ≤ d ∧ d ≤ high) := fun h =>
              absurd (UInt8.le_trans (secondBounds?_low hbounds) h.1) (UInt8.not_le.mpr hd)
            simp [step, hb, hbounds, hout c hc, hout _ (ofNat_lowerByte c hc).1]
          · have hcase := lowerByte_of_not_lt hc
            by_cases hin : low ≤ c ∧ c ≤ high
            · simp [step, hb, hbounds, hin, hcase, continue?_map_lowerByte]
            · simp [step, hb, hbounds, hin, hcase]

/-- The characters of two texts whose bytes differ in case only differ in case only. -/
theorem map_pieces (s : Bytes) : (pieces (s.map lowerByte)).map (Option.map Char.toLower) =
    (pieces s).map (Option.map Char.toLower) := by
  fun_induction pieces s with
  | case1 => simp [pieces]
  | case2 b s ih =>
      rw [List.map_cons, pieces, List.map_cons, List.map_cons]
      by_cases hb : b < 0x80
      · obtain ⟨hlower, hchar⟩ := ofNat_lowerByte b hb
        simp only [step, hb, hlower, if_true] at ih ⊢
        rw [ih, hchar, Option.map_some, Option.map_some, Chars.toLower_toLower]
      · rw [lowerByte_of_not_lt hb, step_map_lowerByte hb, ih]

theorem map_decode? (s : Bytes) :
    (decode? (s.map lowerByte)).map Chars.lower = (decode? s).map Chars.lower := by
  have hpieces := map_pieces s
  have hall : (pieces (s.map lowerByte)).all Option.isSome = (pieces s).all Option.isSome := by
    have h := congrArg (fun pieces => pieces.all Option.isSome) hpieces
    simpa [List.all_map, Function.comp_def] using h
  have hchars : Chars.lower ((pieces (s.map lowerByte)).filterMap id) =
      Chars.lower ((pieces s).filterMap id) := by
    have h := congrArg (fun pieces => pieces.filterMap id) hpieces
    simpa [Chars.lower, List.filterMap_map, List.map_filterMap, Function.comp_def] using h
  simp only [decode?, hall]
  cases (pieces s).all Option.isSome with
  | true => exact congrArg some hchars
  | false => rfl

/-- The small form of an ASCII character is an ASCII character, that of the small form of its
byte. -/
theorem toNat_toLower {c : Char} (h : c.toNat < 128) : c.toLower.toNat < 128 ∧
    UInt8.ofNat c.toLower.toNat = lowerByte (UInt8.ofNat c.toNat) := by
  obtain ⟨hbyte, hchar⟩ := byte_lt_of_lt h
  obtain ⟨hlt, hlower⟩ := ofNat_lowerByte _ hbyte
  rw [hchar] at hlower
  have hnumber : c.toLower.toNat = (lowerByte (UInt8.ofNat c.toNat)).toNat := by
    rw [← hlower]
    exact toNat_ofNat_byte _
  rw [hnumber]
  exact ⟨UInt8.lt_iff_toNat_lt.mp hlt, UInt8.ofNat_toNat⟩

/-- The bytes of a text in ASCII that is made small are the small forms of its bytes. -/
theorem encode_lower {s : List Char} (h : ∀ c ∈ s, c.toNat < 128) :
    encode (String.ofList (Chars.lower s)) = (encode (String.ofList s)).map lowerByte := by
  have hlower : ∀ c ∈ Chars.lower s, c.toNat < 128 := by
    intro c hc
    obtain ⟨d, hd, rfl⟩ := List.mem_map.mp hc
    exact (toNat_toLower (h d hd)).1
  rw [encode_ofList_of_ascii hlower, encode_ofList_of_ascii h, Chars.lower, List.map_map,
    List.map_map]
  exact List.map_congr_left fun c hc => (toNat_toLower (h c hc)).2

end Utf8

/-- The case of a text in ASCII does not matter to what its escapes are decoded to, but for the
case of that. -/
theorem Percent.lower_decode {s : String} (h : ∀ c ∈ s.toList, c.toNat < 128) :
    Text.lower (decode (Text.lower s)) = Text.lower (decode s) := by
  have hencode : Utf8.encode (Text.lower s) = (Utf8.encode s).map Utf8.lowerByte := by
    have hbytes := Utf8.encode_lower h
    rwa [String.ofList_toList] at hbytes
  have hdecoded : (decode? (Text.lower s)).map Text.lower = (decode? s).map Text.lower := by
    have hlower (chars : Option (List Char)) : (chars.map String.ofList).map Text.lower =
        (chars.map Chars.lower).map String.ofList := by
      cases chars <;> simp [Text.lower]
    rw [decode?, decode?, hlower, hlower, hencode, ← Utf8.map_decode?, map_decodeBytes,
      Utf8.map_decode?]
  rw [decode, decode]
  cases hs : decode? s <;> cases ht : decode? (Text.lower s) <;> simp_all [Text.lower]

end PageMigration
