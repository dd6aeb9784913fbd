import Mathlib.Tactic.SplitIfs
import PageMigration.Proofs.Encoding.PlainEnd

/-!
# The order of texts and of their bytes

Texts are in the same order character by character and byte by byte in UTF-8.  The first byte of a
character tells how many bytes it has, more for greater characters, and among characters of as many
bytes the payloads decide from the first byte on.

## Main results

* `Utf8.utf8EncodeChar_append_lt` : a greater character has greater bytes, whatever follows.
* `Utf8.encode_lt_of_lt` : a greater text has greater bytes.
-/

namespace PageMigration.Utf8

theorem ofNat_cons_lt {m n : Nat} {s t : Bytes} (hn : n < 256) (hle : m ≤ n)
    (h : m = n → s < t) : UInt8.ofNat m :: s < UInt8.ofNat n :: t := by
  have hbyte (k : Nat) (hk : k < 256) : (UInt8.ofNat k).toNat = k := UInt8.toNat_ofNat_of_lt' hk
  rw [List.cons_lt_cons_iff]
  rcases Nat.lt_or_eq_of_le hle with hlt | rfl
  · refine .inl (UInt8.lt_iff_toNat_lt.mpr ?_)
    rwa [hbyte m (Nat.lt_trans hlt hn), hbyte n hn]
  · exact .inr ⟨rfl, h rfl⟩

/-- A greater character has greater bytes, whatever follows. -/
theorem utf8EncodeChar_append_lt {c d : Char} (h : c < d) (s t : Bytes) :
    String.utf8EncodeChar c ++ s < String.utf8EncodeChar d ++ t := by
  have hlt : c.val.toNat < d.val.toNat := h
  have hd : d.val.toNat < 0x110000 := d.valid.elim (fun h => Nat.lt_trans h (by decide)) And.right
  simp only [String.utf8EncodeChar]
  generalize c.val.toNat = m, d.val.toNat = n at hlt hd
  -- The cases are the numbers of bytes of the two characters, of which the first is not greater.
  split_ifs
  all_goals
    simp only [List.cons_append, List.nil_append]
    try omega
  · exact ofNat_cons_lt (by omega) (by omega) fun _ => by omega
  · exact ofNat_cons_lt (by omega) (by omega) fun _ => by omega
  · exact ofNat_cons_lt (by omega) (by omega) fun _ => by omega
  · exact ofNat_cons_lt (by omega) (by omega) fun _ => by omega
  · exact ofNat_cons_lt (by omega) (by omega) fun _ => ofNat_cons_lt (by omega) (by omega) fun _ =>
      by omega
  · exact ofNat_cons_lt (by omega) (by omega) fun _ => by omega
  · exact ofNat_cons_lt (by omega) (by omega) fun _ => by omega
  · exact ofNat_cons_lt (by omega) (by omega) fun _ => ofNat_cons_lt (by omega) (by omega) fun _ =>
      ofNat_cons_lt (by omega) (by omega) fun _ => by omega
  · exact ofNat_cons_lt (by omega) (by omega) fun _ => by omega
  · exact ofNat_cons_lt (by omega) (by omega) fun _ => ofNat_cons_lt (by omega) (by omega) fun _ =>
      ofNat_cons_lt (by omega) (by omega) fun _ => ofNat_cons_lt (by omega) (by omega) fun _ =>
        by omega

theorem utf8EncodeChar_ne_nil (c : Char) : String.utf8EncodeChar c ≠ [] := by
  rw [← List.length_pos_iff, String.length_utf8EncodeChar]
  exact c.utf8Size_pos

/-- A greater text has greater bytes. -/
theorem encode_lt_of_lt {a b : String} (h : a < b) : encode a < encode b := by
  rw [← String.ofList_toList (s := a), ← String.ofList_toList (s := b), encode_ofList,
    encode_ofList]
  rw [String.lt_iff, ← List.lex_lt] at h
  generalize a.toList = s, b.toList = t at h
  induction h with
  | nil =>
      rename_i d t
      cases hbytes : String.utf8EncodeChar d with
      | nil => exact absurd hbytes (utf8EncodeChar_ne_nil d)
      | cons b bytes =>
          rw [List.flatMap_cons, hbytes]
          exact List.nil_lt_cons _ _
  | cons _ ih => exact List.append_left_lt ih
  | rel h => exact utf8EncodeChar_append_lt h _ _

end PageMigration.Utf8
