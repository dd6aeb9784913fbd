import PageMigration.Calendar.Instant
import PageMigration.Chars.Case
import PageMigration.Proofs.Number.Digits

/-!
# The internet form is read again

Instants are written in the internet form, which has four digits for the year.  An instant in one
of these years is read again from what is written for it, with its fraction and as a leap second if
it is one.  For any other year a sign and more digits are written, and this none of the accepted
forms admits together with the offset behind the time of day.

## Main definitions

* `Date.IsValid`, `Instant.IsValid` : the dates of the calendar and the instants of its days.
* `Instant.HasFourDigitYear` : the instants whose year the internet form can hold.

## Main results

* `Instant.isValid_of_ofText?` : only instants of the calendar are read.
* `Instant.ofText?_text` : an instant whose year has four digits is read again.
* `Instant.ofText?_text_of_not_hasFourDigitYear` : any other one is not.
-/

namespace PageMigration

/-! ### Dates of the calendar -/

namespace Date

/-- The dates that the calendar has. -/
structure IsValid (d : Date) : Prop where
  one_le_month : 1 ≤ d.month
  month_le : d.month ≤ 12
  one_le_day : 1 ≤ d.day
  day_le : d.day ≤ daysInMonth d.year d.month

theorem one_le_daysInMonth (year : Int) (month : Nat) : 1 ≤ daysInMonth year month := by
  rw [daysInMonth.eq_def]
  split
  · split <;> decide
  all_goals decide

theorem daysInMonth_le (year : Int) (month : Nat) : daysInMonth year month ≤ 31 := by
  rw [daysInMonth.eq_def]
  split
  · split <;> decide
  all_goals decide

theorem ofParts?_eq_some_iff {year : Int} {month day : Nat} {d : Date} :
    ofParts? year month day = some d ↔
      d = ⟨year, month, day⟩ ∧ d.IsValid ∧ firstYear ≤ year ∧ year ≤ lastYear := by
  rw [ofParts?, Option.ite_none_right_eq_some, Option.some.injEq]
  constructor
  · rintro ⟨⟨hfirst, hlast, hmonth, hmonth', hday, hday'⟩, rfl⟩
    exact ⟨rfl, ⟨hmonth, hmonth', hday, hday'⟩, hfirst, hlast⟩
  · rintro ⟨rfl, ⟨hmonth, hmonth', hday, hday'⟩, hfirst, hlast⟩
    exact ⟨⟨hfirst, hlast, hmonth, hmonth', hday, hday'⟩, rfl⟩

variable {d : Date}

theorem IsValid.next (h : d.IsValid) : d.next.IsValid := by
  rw [Date.next]
  split
  · next hday => exact { h with one_le_day := Nat.le_add_left .., day_le := hday }
  · split
    · next hmonth =>
        exact ⟨Nat.le_add_left .., hmonth, Nat.le_refl 1, one_le_daysInMonth ..⟩
    · exact ⟨Nat.le_refl 1, Nat.le_add_left 1 11, Nat.le_refl 1, one_le_daysInMonth ..⟩

theorem IsValid.previous (h : d.IsValid) : d.previous.IsValid := by
  have hmonth_le := h.month_le
  have hday_le := h.day_le
  rw [Date.previous]
  split
  · next hday =>
      exact { h with one_le_day := Nat.le_sub_one_of_lt hday, day_le := by dsimp only; omega }
  · split
    · next hmonth =>
        exact ⟨Nat.le_sub_one_of_lt hmonth, by dsimp only; omega, one_le_daysInMonth ..,
          Nat.le_refl _⟩
    · exact ⟨Nat.le_add_left 1 11, Nat.le_refl 12, Nat.le_add_left 1 30, Nat.le_refl 31⟩

end Date

namespace Instant

/-! ### Instants of the calendar -/

/-- The instants of the days that the calendar has.  Only the last second of a minute may be
followed by a leap second. -/
structure IsValid (t : Instant) : Prop where
  date : t.date.IsValid
  second_lt : t.second < secondsPerDay
  nano_lt : t.nano < 2 * nanosPerSecond
  leap : nanosPerSecond ≤ t.nano → t.second % 60 = 59

/-- The instants in a year from zero to 9999. -/
def HasFourDigitYear (t : Instant) : Prop :=
  0 ≤ t.date.year ∧ t.date.year ≤ 9999

instance (t : Instant) : Decidable t.HasFourDigitYear :=
  inferInstanceAs (Decidable (_ ∧ _))

/-- The second of its minute that an instant is written with. -/
def shownSecond (t : Instant) : Nat :=
  t.second % 60 + if nanosPerSecond ≤ t.nano then 1 else 0

variable {t : Instant}

theorem isValid_of_ofParts? {year : Int} {month day hour minute second nano : Nat}
    (h : ofParts? year month day hour minute second nano = some t)
    (hnano : nano < nanosPerSecond) : t.IsValid := by
  rw [ofParts?, Option.ite_none_right_eq_some] at h
  obtain ⟨⟨hhour, hminute, hsecond⟩, h⟩ := h
  obtain ⟨date, hdate, rfl⟩ := Option.map_eq_some_iff.mp h
  have hvalid := (Date.ofParts?_eq_some_iff.mp hdate).2.1
  rw [nanosPerSecond] at hnano
  split
  · exact ⟨hvalid, by simp only [secondsPerDay]; omega, by simp only [nanosPerSecond]; omega,
      fun _ => by dsimp only; omega⟩
  · exact ⟨hvalid, by simp only [secondsPerDay]; omega, by simp only [nanosPerSecond]; omega,
      fun hleap => by simp only [nanosPerSecond] at hleap; omega⟩

/-- An instant is put together again from the parts that are written. -/
theorem ofParts?_shown (h : t.IsValid) (hy : t.HasFourDigitYear) :
    ofParts? t.date.year t.date.month t.date.day (t.second / 3600) (t.second / 60 % 60)
      t.shownSecond (t.nano % nanosPerSecond) = some t := by
  have hdate : Date.ofParts? t.date.year t.date.month t.date.day = some t.date := by
    have hfirst : Date.firstYear ≤ t.date.year := Int.le_trans (by decide) hy.1
    have hlast : t.date.year ≤ Date.lastYear := Int.le_trans hy.2 (by decide)
    exact Date.ofParts?_eq_some_iff.mpr ⟨rfl, h.date, hfirst, hlast⟩
  have hsecond := h.second_lt
  have hnano := h.nano_lt
  obtain ⟨date, second, nano⟩ := t
  simp only [secondsPerDay, nanosPerSecond] at hsecond hnano
  by_cases hleap : nanosPerSecond ≤ nano
  · have hlast : second % 60 = 59 := h.leap hleap
    have hclock : second / 3600 * 3600 + second / 60 % 60 * 60 + 59 = second := by omega
    have hfraction : nanosPerSecond + nano % nanosPerSecond = nano := by
      simp only [nanosPerSecond] at hleap ⊢
      omega
    have hbounds : second / 3600 < 24 ∧ second / 60 % 60 < 60 ∧ 60 ≤ 60 := by omega
    simp [ofParts?, shownSecond, hleap, hlast, hdate, hclock, hfraction, hbounds.1, hbounds.2.1]
  · have hclock : second / 3600 * 3600 + second / 60 % 60 * 60 + second % 60 = second := by omega
    have hfraction : nano % nanosPerSecond = nano := Nat.mod_eq_of_lt (Nat.lt_of_not_le hleap)
    have hbounds : second / 3600 < 24 ∧ second / 60 % 60 < 60 ∧ second % 60 ≤ 60 := by omega
    have hne : second % 60 ≠ 60 := by omega
    simp [ofParts?, shownSecond, hleap, hdate, hclock, hfraction, hbounds.1, hbounds.2.1,
      hbounds.2.2, hne]

/-- An instant that is shifted by whole minutes stays an instant of the calendar. -/
theorem IsValid.shiftBack (h : t.IsValid) {seconds : Int} (hminutes : seconds % 60 = 0)
    (hlower : -86400 < seconds) (hupper : seconds < 86400) : (t.shiftBack seconds).IsValid := by
  have hsecond := h.second_lt
  have hleap := h.leap
  have hday : (secondsPerDay : Int) = 86400 := rfl
  simp only [Instant.shiftBack]
  split
  · exact ⟨h.date.previous, by dsimp only; omega, h.nano_lt,
      fun hnano => by have := hleap hnano; dsimp only; omega⟩
  · split
    · exact ⟨h.date, by dsimp only; omega, h.nano_lt,
        fun hnano => by have := hleap hnano; dsimp only; omega⟩
    · exact ⟨h.date.next, by dsimp only; omega, h.nano_lt,
        fun hnano => by have := hleap hnano; dsimp only; omega⟩

/-! ### What is read is an instant of the calendar -/

theorem fraction?_lt {s rest : List Char} {nano : Nat} (h : fraction? s = some (nano, rest)) :
    nano < nanosPerSecond := by
  have hlength := Digits.length_run_le 9 s
  have hdigits : Digits.toNat (Digits.run 9 s).1 < 10 ^ (Digits.run 9 s).1.length :=
    Digits.toNat_lt fun _ hc => Digits.isDigit_of_mem_run hc
  simp only [fraction?, Option.ite_none_left_eq_some, Option.some.injEq, Prod.mk.injEq] at h
  calc nano = Digits.toNat (Digits.run 9 s).1 * 10 ^ (9 - (Digits.run 9 s).1.length) := h.2.1.symm
    _ < 10 ^ (Digits.run 9 s).1.length * 10 ^ (9 - (Digits.run 9 s).1.length) :=
      Nat.mul_lt_mul_of_pos_right hdigits (Nat.pow_pos (by decide))
    _ = nanosPerSecond := by rw [← Nat.pow_add, Nat.add_sub_cancel' hlength, nanosPerSecond]

theorem optionalFraction?_lt {s rest : List Char} {nano : Nat}
    (h : optionalFraction? s = some (nano, rest)) : nano < nanosPerSecond := by
  rw [optionalFraction?.eq_def] at h
  split at h
  · exact fraction?_lt h
  · cases h
    decide

/-- Local time is ahead by whole minutes, of less than a day. -/
theorem offset?_bounds {s rest : List Char} {seconds : Int}
    (h : offset? s = some (seconds, rest)) :
    seconds % 60 = 0 ∧ -86400 < seconds ∧ seconds < 86400 := by
  cases s with
  | nil => cases h
  | cons c s =>
      simp only [offset?] at h
      split at h
      · cases h
        decide
      · split at h
        · simp only [Option.bind_eq_bind, Option.bind_eq_some_iff, Option.ite_none_right_eq_some,
            Option.some.injEq, Prod.mk.injEq] at h
          obtain ⟨⟨hours, s⟩, -, s, -, ⟨minutes, s⟩, -, ⟨hhours, hminutes⟩, rfl, -⟩ := h
          dsimp only at hhours hminutes ⊢
          split <;> omega
        · cases h

theorem isValid_of_ofInternetText? {s : List Char} (h : ofInternetText? s = some t) :
    t.IsValid := by
  iterate 5 obtain ⟨_, -, h⟩ := Option.bind_eq_some_iff.mp h
  dsimp only at h
  split at h
  · split at h
    · iterate 6 obtain ⟨_, -, h⟩ := Option.bind_eq_some_iff.mp h
      obtain ⟨⟨nano, _⟩, hnano, h⟩ := Option.bind_eq_some_iff.mp h
      obtain ⟨⟨offset, _⟩, hoffset, h⟩ := Option.bind_eq_some_iff.mp h
      obtain ⟨-, h⟩ := Option.ite_none_right_eq_some.mp h
      obtain ⟨ahead, hparts, rfl⟩ := Option.map_eq_some_iff.mp h
      obtain ⟨hminutes, hlower, hupper⟩ := offset?_bounds hoffset
      have hvalid := isValid_of_ofParts? hparts (optionalFraction?_lt hnano)
      exact hvalid.shiftBack hminutes hlower hupper
    · cases h
  · cases h

/-- A field leaves the fraction as it is or reads one of less than a second. -/
theorem Field.nano_lt {r r' : Reading} {s rest : List Char} {field : Field}
    (h : field.read? r s = some (r', rest)) (hr : r.nano < nanosPerSecond) :
    r'.nano < nanosPerSecond := by
  cases field with
  | fraction =>
      obtain ⟨⟨nano, rest'⟩, hread, heq⟩ := Option.map_eq_some_iff.mp h
      cases heq
      exact optionalFraction?_lt hread
  | gap =>
      cases h
      exact hr
  | _ =>
      obtain ⟨x, -, heq⟩ := Option.map_eq_some_iff.mp h
      cases heq
      exact hr

theorem nano_lt_of_readLayout? {r r' : Reading} {layout : List Field} {s : List Char}
    (h : readLayout? r layout s = some r') (hr : r.nano < nanosPerSecond) :
    r'.nano < nanosPerSecond := by
  induction layout generalizing r s with
  | nil =>
      obtain ⟨-, heq⟩ := Option.ite_none_right_eq_some.mp h
      cases heq
      exact hr
  | cons field layout ih =>
      rw [readLayout?] at h
      split at h
      · cases h
      · next hread => exact ih h (Field.nano_lt hread hr)

/-- Only instants of the calendar are read. -/
theorem isValid_of_ofText? {s : List Char} (h : ofText? s = some t) : t.IsValid := by
  rcases Option.or_eq_some_iff.mp h with h | ⟨-, h⟩
  · exact isValid_of_ofInternetText? h
  · obtain ⟨layout, -, hlayout⟩ := List.exists_of_findSome?_eq_some h
    obtain ⟨r, hr, hparts⟩ := Option.bind_eq_some_iff.mp hlayout
    exact isValid_of_ofParts? hparts (nano_lt_of_readLayout? hr (by decide))

/-! ### What is written is read again -/

/-- What is written behind the year of an instant and the hyphen that follows it. -/
def textBehindYear (t : Instant) : List Char :=
  (Digits.padded 2 t.date.month).toList ++ '-' :: ((Digits.padded 2 t.date.day).toList ++
    'T' :: ((Digits.padded 2 (t.second / 3600)).toList ++
      ':' :: ((Digits.padded 2 (t.second / 60 % 60)).toList ++
        ':' :: ((Digits.padded 2 t.shownSecond).toList ++
          ((fractionText (t.nano % nanosPerSecond)).toList ++ "+00:00".toList)))))

theorem toList_text (t : Instant) :
    t.text.toList = (yearText t.date.year).toList ++ '-' :: t.textBehindYear := by
  simp [text, baseText, textBehindYear, shownSecond]

theorem pair?_padded {n : Nat} (h : n < 100) (rest : List Char) :
    pair? ((Digits.padded 2 n).toList ++ rest) = some (n, rest) :=
  Digits.read?_padded (by decide) h rest

theorem fraction?_padded {width n : Nat} {c : Char} (hw : 0 < width) (hwidth : width ≤ 9)
    (h : n < 10 ^ width) (hc : c.isDigit = false) (rest : List Char) :
    fraction? ((Digits.padded width n).toList ++ c :: rest) =
      some (n * 10 ^ (9 - width), c :: rest) := by
  have hlength := Digits.length_padded hw h
  have hrun : Digits.run 9 ((Digits.padded width n).toList ++ c :: rest) =
      ((Digits.padded width n).toList, c :: rest) :=
    Digits.run_append_of_isDigit (fun _ hd => Digits.isDigit_of_mem_padded hd)
      (Nat.le_trans (Nat.le_of_eq hlength) hwidth) (Or.inr (by simpa using hc))
  have hne : (Digits.padded width n).toList ≠ [] := by
    rw [← List.length_pos_iff, hlength]
    exact hw
  simp [fraction?, hrun, hne, hlength, hc]

/-- A fraction is read again in front of an offset. -/
theorem optionalFraction?_fractionText {nano : Nat} (h : nano < nanosPerSecond)
    (rest : List Char) :
    optionalFraction? ((fractionText nano).toList ++ '+' :: rest) = some (nano, '+' :: rest) := by
  have hpadded {width n : Nat} (hw : 0 < width) (hwidth : width ≤ 9) (hn : n < 10 ^ width) :
      optionalFraction? (("." ++ Digits.padded width n).toList ++ '+' :: rest) =
        some (n * 10 ^ (9 - width), '+' :: rest) := by
    have hpoint (s : List Char) : optionalFraction? ('.' :: s) = fraction? s := rfl
    have htext : ("." ++ Digits.padded width n).toList = '.' :: (Digits.padded width n).toList := by
      simp
    rw [htext, List.cons_append, hpoint, fraction?_padded hw hwidth hn (by decide)]
  rw [nanosPerSecond] at h
  rw [fractionText]
  split
  · next hzero =>
      subst hzero
      rfl
  · split
    · rw [hpadded (by decide) (by decide) (by omega)]
      simp only [Option.some.injEq, Prod.mk.injEq, and_true]
      omega
    · split
      · rw [hpadded (by decide) (by decide) (by omega)]
        simp only [Option.some.injEq, Prod.mk.injEq, and_true]
        omega
      · rw [hpadded (by decide) (by decide) (by omega)]
        simp

theorem shiftBack_zero (h : t.IsValid) : t.shiftBack 0 = t := by
  have hnonneg : ¬ (t.second : Int) - 0 < 0 := by omega
  have hlt : (t.second : Int) - 0 < secondsPerDay := by
    have := h.second_lt
    omega
  simp only [Instant.shiftBack, if_neg hnonneg, if_pos hlt]
  simp

/-- The internet form of an instant is read again if the year has four digits. -/
theorem ofInternetText?_text (h : t.IsValid) (hy : t.HasFourDigitYear) :
    ofInternetText? t.text.toList = some t := by
  have hyear (rest : List Char) : Digits.read? 4 4 ((yearText t.date.year).toList ++ rest) =
      some (t.date.year.toNat, rest) := by
    have hlt : t.date.year.toNat < 10 ^ 4 := by
      have := hy.2
      omega
    rw [yearText, if_pos (show 0 ≤ t.date.year ∧ t.date.year ≤ 9999 from hy)]
    exact Digits.read?_padded (by decide) hlt rest
  have hcast : (t.date.year.toNat : Int) = t.date.year := Int.toNat_of_nonneg hy.1
  have hmonth : t.date.month < 100 := Nat.lt_of_le_of_lt h.date.month_le (by decide)
  have hday : t.date.day < 100 := calc
    t.date.day ≤ 31 := Nat.le_trans h.date.day_le (Date.daysInMonth_le ..)
    _ < 100 := by decide
  have hsecond : t.second < 86400 := h.second_lt
  have hhour : t.second / 3600 < 100 := by omega
  have hminute : t.second / 60 % 60 < 100 := by omega
  have hshown : t.shownSecond < 100 := by
    rw [shownSecond]
    split <;> omega
  have hfraction : optionalFraction?
      ((fractionText (t.nano % nanosPerSecond)).toList ++ "+00:00".toList) =
        some (t.nano % nanosPerSecond, "+00:00".toList) :=
    optionalFraction?_fractionText (Nat.mod_lt _ (by decide)) _
  have hoffset : offset? "+00:00".toList = some (0, []) := by decide
  have hmark (c : Char) (rest : List Char) : mark? c (c :: rest) = some rest := if_pos rfl
  rw [toList_text, textBehindYear, ofInternetText?]
  refine Option.bind_eq_some_iff.mpr ⟨_, hyear _, ?_⟩
  refine Option.bind_eq_some_iff.mpr ⟨_, hmark '-' _, ?_⟩
  refine Option.bind_eq_some_iff.mpr ⟨_, pair?_padded hmonth _, ?_⟩
  refine Option.bind_eq_some_iff.mpr ⟨_, hmark '-' _, ?_⟩
  refine Option.bind_eq_some_iff.mpr ⟨_, pair?_padded hday _, ?_⟩
  dsimp only
  rw [if_pos (Or.inl rfl)]
  refine Option.bind_eq_some_iff.mpr ⟨_, rfl, ?_⟩
  refine Option.bind_eq_some_iff.mpr ⟨_, pair?_padded hhour _, ?_⟩
  refine Option.bind_eq_some_iff.mpr ⟨_, hmark ':' _, ?_⟩
  refine Option.bind_eq_some_iff.mpr ⟨_, pair?_padded hminute _, ?_⟩
  refine Option.bind_eq_some_iff.mpr ⟨_, hmark ':' _, ?_⟩
  refine Option.bind_eq_some_iff.mpr ⟨_, pair?_padded hshown _, ?_⟩
  refine Option.bind_eq_some_iff.mpr ⟨_, hfraction, ?_⟩
  refine Option.bind_eq_some_iff.mpr ⟨_, hoffset, ?_⟩
  rw [if_pos List.isEmpty_nil, hcast, ofParts?_shown h hy, Option.map_some, shiftBack_zero h]

theorem isBlank_of_mem_padded {width n : Nat} {c : Char}
    (h : c ∈ (Digits.padded width n).toList) : Chars.isBlank c = false :=
  Chars.isBlank_of_isAlphanum (by simp [Char.isAlphanum, Digits.isDigit_of_mem_padded h])

theorem isBlank_of_mem_yearText {year : Int} {c : Char} (h : c ∈ (yearText year).toList) :
    Chars.isBlank c = false := by
  rw [yearText] at h
  split at h
  · exact isBlank_of_mem_padded h
  · rw [String.toList_append, List.mem_append] at h
    rcases h with h | h
    · split at h <;>
      · rw [List.mem_singleton.mp h]
        decide
    · exact isBlank_of_mem_padded h

theorem trim_text (t : Instant) : Chars.trim t.text.toList = t.text.toList := by
  have hstart : Chars.trimStart t.text.toList = t.text.toList := by
    rw [Chars.trimStart_eq_self_iff, toList_text, List.head?_append]
    intro c hc
    rcases Option.or_eq_some_iff.mp hc with hc | ⟨-, hc⟩
    · exact isBlank_of_mem_yearText (List.mem_of_mem_head? hc)
    · cases hc
      decide
  have hend : t.text.toList =
      (t.baseText ++ fractionText (t.nano % nanosPerSecond) ++ "+00:0").toList ++ ['0'] := by
    simp [text]
  rw [Chars.trim, hstart, hend, Chars.trimEnd_concat _ (by decide)]

/-- **Instants are read again.** An instant whose year has four digits is read again from its
text. -/
theorem ofText?_text (h : t.IsValid) (hy : t.HasFourDigitYear) :
    ofText? t.text.toList = some t := by
  simp only [ofText?, trim_text, ofInternetText?_text h hy, Option.some_or]

/-! ### Other years -/

section PlusSign

variable {s rest : List Char}

theorem plus_mem_run (most : Nat) (hs : '+' ∈ s) : '+' ∈ (Digits.run most s).2 := by
  rw [← Digits.run_append most s, List.mem_append] at hs
  exact hs.resolve_left fun hrun => absurd (Digits.isDigit_of_mem_run hrun) (by decide)

theorem plus_mem_dropWhile {p : Char → Bool} (hp : p '+' = false) (hs : '+' ∈ s) :
    '+' ∈ s.dropWhile p := by
  rw [← List.takeWhile_append_dropWhile (p := p) (l := s), List.mem_append] at hs
  refine hs.resolve_left fun htake => ?_
  rw [List.all_eq_true.mp List.all_takeWhile _ htake] at hp
  cases hp

theorem plus_mem_ranged {most low high n : Nat} (h : ranged? most low high s = some (n, rest))
    (hs : '+' ∈ s) : '+' ∈ rest := by
  obtain ⟨⟨_, _⟩, hread, h⟩ := Option.bind_eq_some_iff.mp h
  simp only [Digits.read?, Option.ite_none_left_eq_some, Option.some.injEq, Prod.mk.injEq] at hread
  obtain ⟨-, h⟩ := Option.ite_none_right_eq_some.mp h
  cases h
  exact hread.2.2 ▸ plus_mem_run most (plus_mem_dropWhile (by decide) hs)

theorem plus_mem_optionalFraction {nano : Nat} (h : optionalFraction? s = some (nano, rest))
    (hs : '+' ∈ s) : '+' ∈ rest := by
  rw [optionalFraction?.eq_def] at h
  split at h
  · next s =>
      have hs : '+' ∈ s := (List.mem_cons.mp hs).resolve_left (by decide)
      simp only [fraction?, Option.ite_none_left_eq_some, Option.some.injEq, Prod.mk.injEq] at h
      exact h.2.2 ▸ plus_mem_dropWhile (by decide) (plus_mem_run 9 hs)
  · cases h
    exact hs

theorem plus_mem_half {late : Bool} (h : half? s = some (late, rest)) (hs : '+' ∈ s) :
    '+' ∈ rest := by
  match s with
  | [] => cases hs
  | [_] => cases h
  | a :: m :: s =>
      have hword {c d : Char} (hc : c.toLower = d) (hd : '+'.toLower ≠ d) : '+' ≠ c := fun he =>
        hd (he ▸ hc)
      simp only [half?, Option.ite_none_right_eq_some] at h
      obtain ⟨hm, h⟩ := h
      have hm := hword hm (by decide)
      split at h
      · next ha =>
          cases h
          simpa [hm, hword ha (by decide)] using hs
      · split at h
        · next ha =>
            cases h
            simpa [hm, hword ha (by decide)] using hs
        · cases h

/-- A field other than the year leaves a plus sign for what follows it. -/
theorem Field.plus_mem {r r' : Reading} {field : Field} (hyear : field ≠ .year)
    (hmark : field ≠ .mark '+') (h : field.read? r s = some (r', rest)) (hs : '+' ∈ s) :
    '+' ∈ rest := by
  cases field with
  | year => exact absurd rfl hyear
  | gap =>
      cases h
      exact plus_mem_dropWhile (by decide) hs
  | mark c =>
      obtain ⟨s', hread, heq⟩ := Option.map_eq_some_iff.mp h
      cases heq
      cases s with
      | nil => cases hs
      | cons d s =>
          obtain ⟨rfl, hrest⟩ := Option.ite_none_right_eq_some.mp hread
          cases hrest
          exact (List.mem_cons.mp hs).resolve_left fun he => hmark (he ▸ rfl)
  | fraction =>
      obtain ⟨⟨_, _⟩, hread, heq⟩ := Option.map_eq_some_iff.mp h
      cases heq
      exact plus_mem_optionalFraction hread hs
  | half =>
      obtain ⟨⟨_, _⟩, hread, heq⟩ := Option.map_eq_some_iff.mp h
      cases heq
      exact plus_mem_half hread hs
  | _ =>
      obtain ⟨⟨_, _⟩, hread, heq⟩ := Option.map_eq_some_iff.mp h
      cases heq
      exact plus_mem_ranged hread hs

/-- A layout of other fields does not fit a text with a plus sign. -/
theorem readLayout?_eq_none {r : Reading} {layout : List Field}
    (hlayout : ∀ field ∈ layout, field ≠ .year ∧ field ≠ .mark '+') (hs : '+' ∈ s) :
    readLayout? r layout s = none := by
  induction layout generalizing r s with
  | nil =>
      cases s with
      | nil => cases hs
      | cons c s => rfl
  | cons field layout ih =>
      rw [List.forall_mem_cons] at hlayout
      rw [readLayout?]
      split
      · rfl
      · next hread => exact ih hlayout.2 (field.plus_mem hlayout.1.1 hlayout.1.2 hread hs)

end PlusSign

/-- Other years are written with a sign. -/
theorem exists_sign_of_not_hasFourDigitYear (h : ¬ t.HasFourDigitYear) :
    ∃ sign, (sign = '-' ∨ sign = '+') ∧
      (yearText t.date.year).toList = sign :: (Digits.padded 4 t.date.year.natAbs).toList := by
  rw [yearText, if_neg (show ¬ (0 ≤ t.date.year ∧ t.date.year ≤ 9999) from h)]
  split
  · exact ⟨'-', Or.inl rfl, by simp⟩
  · exact ⟨'+', Or.inr rfl, by simp⟩

/-- A year with a sign is read up to the hyphen behind its digits. -/
theorem exists_signedYear?_eq {sign : Char} (hsign : sign = '-' ∨ sign = '+') (n : Nat)
    (rest : List Char) :
    ∃ year, signedYear? (sign :: ((Digits.padded 4 n).toList ++ '-' :: rest)) =
      some (year, '-' :: rest) := by
  have hrun : Digits.run ((Digits.padded 4 n).toList ++ '-' :: rest).length
      ((Digits.padded 4 n).toList ++ '-' :: rest) = ((Digits.padded 4 n).toList, '-' :: rest) :=
    Digits.run_append_of_isDigit (fun _ hc => Digits.isDigit_of_mem_padded hc) (by simp)
      (Or.inr (by simp))
  have hread : Digits.read? 1 ((Digits.padded 4 n).toList ++ '-' :: rest).length
      ((Digits.padded 4 n).toList ++ '-' :: rest) = some (n, '-' :: rest) := by
    have hne : (Digits.padded 4 n).toList ≠ [] := by simp [Digits.padded]
    rw [Digits.read?, hrun]
    simp [hne]
  have hstart (s : List Char) : Chars.trimStart ('-' :: s) = '-' :: s ∧
      Chars.trimStart ('+' :: s) = '+' :: s := ⟨rfl, rfl⟩
  rcases hsign with rfl | rfl
  · exact ⟨-n, by rw [signedYear?, (hstart _).1]; simp only [hread, Option.map_some]⟩
  · exact ⟨n, by rw [signedYear?, (hstart _).2]; simp only [hread, Option.map_some]⟩

/-- **Other years are not read again.** The text of an instant in any other year is in none of the
accepted forms. -/
theorem ofText?_text_of_not_hasFourDigitYear (h : ¬ t.HasFourDigitYear) :
    ofText? t.text.toList = none := by
  obtain ⟨sign, hsign, hyear⟩ := exists_sign_of_not_hasFourDigitYear h
  have hdigit : sign.isDigit = false := by rcases hsign with rfl | rfl <;> decide
  have hblank : Chars.isBlank sign = false := by rcases hsign with rfl | rfl <;> decide
  have htext : t.text.toList =
      sign :: ((Digits.padded 4 t.date.year.natAbs).toList ++ '-' :: t.textBehindYear) := by
    rw [toList_text, hyear, List.cons_append]
  have hplus : '+' ∈ '-' :: t.textBehindYear := by simp [textBehindYear]
  -- A layout that begins with the year gets as far as the offset.
  have hyears {layout : List Field}
      (hlayout : ∀ field ∈ layout, field ≠ .year ∧ field ≠ .mark '+') :
      readLayout? {} (.year :: layout) t.text.toList = none := by
    obtain ⟨year, hread⟩ := exists_signedYear?_eq hsign (t.date.year.natAbs) t.textBehindYear
    rw [readLayout?, Field.read?, htext, hread]
    exact readLayout?_eq_none hlayout hplus
  -- The other layouts begin with a month, and a sign is none.
  have hmonths (layout : List Field) :
      readLayout? {} (.month :: layout) t.text.toList = none := by
    have hread : ranged? 2 1 12 t.text.toList = none := by
      simp [ranged?, htext, Chars.trimStart, hblank, Digits.read?, Digits.run, hdigit]
    rw [readLayout?, Field.read?, hread]
    rfl
  have hnone {layout : List Field} (h : readLayout? {} layout t.text.toList = none) :
      ofLayout? layout t.text.toList = none := by
    rw [ofLayout?, h]
    rfl
  have hinternet : ofInternetText? t.text.toList = none := by
    simp [ofInternetText?, htext, Digits.read?, Digits.run, hdigit]
  rw [ofText?, trim_text, hinternet, Option.none_or, List.findSome?_eq_none_iff]
  simp only [layouts, List.forall_mem_cons]
  exact ⟨hnone (hyears (by decide)), hnone (hyears (by decide)), hnone (hyears (by decide)),
    hnone (hmonths _), hnone (hmonths _), hnone (hyears (by decide)), hnone (hmonths _),
    List.forall_mem_nil _⟩

end Instant

end PageMigration
