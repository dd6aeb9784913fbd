import PageMigration.Number.Digits

/-!
# Strings of TOML

A string stands between quotes of one of two kinds, and only in the first kind a backslash begins
an escape.  Between single quotes a string ends on its line.  Between triple quotes it may go
over several lines; a line end after the opening quotes does not belong to it, one or two quotes
before the closing ones do, and an escaped line end takes all blanks after it away.

## Main definitions

* `Toml.Quoting` : a kind of quotes.
* `Toml.Quoting.readLine?` : the rest of a string on one line.
* `Toml.Quoting.readLines?` : the rest of a string over several lines.
-/

namespace PageMigration.Toml

/-- A character that may stand for itself: all but the control characters, of which only the tab
may. -/
def isPlain (c : Char) : Bool :=
  c = '\t' || (0x20 ≤ c.toNat && c.toNat != 0x7F)

/-- The blanks within a line. -/
def isBlank (c : Char) : Bool :=
  c = ' ' || c = '\t'

/-- What follows a line end. -/
def dropLineEnd? : List Char → Option (List Char)
  | '\n' :: s => some s
  | '\r' :: '\n' :: s => some s
  | _ => none

/-- What follows blanks and line ends. -/
def dropSpace : List Char → List Char
  | ' ' :: s => dropSpace s
  | '\t' :: s => dropSpace s
  | '\n' :: s => dropSpace s
  | '\r' :: '\n' :: s => dropSpace s
  | s => s

theorem dropLineEnd?_length {s r : List Char} (h : dropLineEnd? s = some r) :
    r.length < s.length := by
  unfold dropLineEnd? at h
  split at h
  · cases h; simp
  · cases h
    simp only [List.length_cons]
    omega
  · cases h

theorem dropSpace_length (s : List Char) : (dropSpace s).length ≤ s.length := by
  fun_induction dropSpace s <;> simp <;> omega

/-! ### Escapes -/

/-- The character that a letter after a backslash stands for by itself. -/
def shortEscape? (c : Char) : Option Char :=
  match c with
  | 'b' => some '\x08'
  | 't' => some '\t'
  | 'n' => some '\n'
  | 'f' => some '\x0c'
  | 'r' => some '\r'
  | 'e' => some '\x1b'
  | '"' => some '"'
  | '\\' => some '\\'
  | _ => none

/-- The number of hexadecimal digits after a letter that begins an escape by number. -/
def escapeLength? (c : Char) : Option Nat :=
  match c with
  | 'x' => some 2
  | 'u' => some 4
  | 'U' => some 8
  | _ => none

/-- The character whose number a count of hexadecimal digits gives, and what follows them. -/
def readNumbered? (count : Nat) (s : List Char) : Option (Char × List Char) :=
  let digits := s.take count
  let n := Digits.ofBase 16 digits
  if digits.length = count ∧ digits.all (Digits.isDigitIn 16) ∧ n.isValidChar then
    some (Char.ofNat n, s.drop count)
  else none

/-- The character that an escape stands for, after its backslash, and what follows. -/
def readEscape? : List Char → Option (Char × List Char)
  | [] => none
  | c :: s =>
      match shortEscape? c with
      | some e => some (e, s)
      | none => (escapeLength? c).bind fun count => readNumbered? count s

theorem readEscape?_length {s r : List Char} {c : Char} (h : readEscape? s = some (c, r)) :
    r.length < s.length := by
  cases s with
  | nil => cases h
  | cons d s =>
      simp only [readEscape?] at h
      split at h
      · cases h; simp
      · obtain ⟨count, -, h⟩ := Option.bind_eq_some_iff.1 h
        simp only [readNumbered?] at h
        split at h
        · cases h
          simp only [List.length_drop, List.length_cons]
          omega
        · cases h

/-! ### Strings -/

/-- A kind of quotes, and whether a backslash begins an escape between them. -/
structure Quoting where
  quote : Char
  escapes : Bool
  deriving DecidableEq, Repr

namespace Quoting

/-- Double quotes, between which there are escapes. -/
def basic : Quoting := ⟨'"', true⟩

/-- Single quotes, between which each character stands for itself. -/
def literal : Quoting := ⟨'\'', false⟩

/-- The rest of a string on one line, after its opening quote, and what follows it. -/
def readLine? (q : Quoting) : List Char → Option (List Char × List Char)
  | [] => none
  | c :: s =>
      if c = q.quote then some ([], s)
      else if c = '\\' ∧ q.escapes then
        match h : readEscape? s with
        | some (e, r) =>
            have := readEscape?_length h
            (q.readLine? r).map fun (text, r) => (e :: text, r)
        | none => none
      else if isPlain c then (q.readLine? s).map fun (text, r) => (c :: text, r)
      else none
termination_by s => s.length
decreasing_by all_goals simp_wf <;> omega

/-- What follows an escaped line end and the blanks after it, from after the backslash. -/
def dropEscapedLineEnd? (s : List Char) : Option (List Char) :=
  (dropLineEnd? (s.dropWhile isBlank)).map dropSpace

theorem dropEscapedLineEnd?_length {s r : List Char} (h : dropEscapedLineEnd? s = some r) :
    r.length < s.length := by
  obtain ⟨t, ht, rfl⟩ := Option.map_eq_some_iff.1 h
  have h₁ := dropLineEnd?_length ht
  have h₂ := dropSpace_length t
  have h₃ := (List.dropWhile_sublist isBlank (l := s)).length_le
  omega

/-- The rest of a string over several lines, up to the closing quotes, and what follows them. -/
def readLinesFrom? (q : Quoting) : List Char → Option (List Char × List Char)
  | [] => none
  | c :: s =>
      if c = q.quote then
        let more := (s.takeWhile (· = q.quote)).length
        if more < 2 then (q.readLinesFrom? s).map fun (text, r) => (c :: text, r)
        else if more < 5 then some (List.replicate (more - 2) c, s.drop more)
        else none
      else if c = '\\' ∧ q.escapes then
        match h : dropEscapedLineEnd? s with
        | some r =>
            have := dropEscapedLineEnd?_length h
            q.readLinesFrom? r
        | none =>
            match h : readEscape? s with
            | some (e, r) =>
                have := readEscape?_length h
                (q.readLinesFrom? r).map fun (text, r) => (e :: text, r)
            | none => none
      else if isPlain c ∨ (dropLineEnd? (c :: s)).isSome then
        (q.readLinesFrom? s).map fun (text, r) => (c :: text, r)
      else none
termination_by s => s.length
decreasing_by all_goals simp_wf <;> omega

/-- The rest of a string over several lines, after its opening quotes, and what follows it. -/
def readLines? (q : Quoting) (s : List Char) : Option (List Char × List Char) :=
  q.readLinesFrom? ((dropLineEnd? s).getD s)

end Quoting

end PageMigration.Toml
