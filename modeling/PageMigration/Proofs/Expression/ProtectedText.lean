import PageMigration.Proofs.Expression.LiteralText

/-!
# Literals behind tokens

Reading an expression into segments goes from left to right, and pieces that are closed in
themselves can be read one by one: texts without quotes, and literals with their quotes.  In the
protected text each literal is a token, and the token of a literal leads back to its text.

## Main definitions

* `Splits` : a piece and its segments, whatever follows the piece.

## Main results

* `Splits.append`, `splits_of_notMem`, `splits_literal` : how pieces are read.
* `protectedFrom_append`, `literals_append` : the protected text piece by piece.
* `literalOfToken?_token` : the literal that a token stands for.
-/

namespace PageMigration.Expression

/-! ### Pieces -/

/-- `Splits s pieces` says that `s` is read into `pieces` whatever follows it. -/
def Splits (s : List Char) (pieces : List Segment) : Prop :=
  ∀ rest, segments (s ++ rest) = pieces ++ segments rest

theorem Splits.segments_eq {s : List Char} {pieces : List Segment} (h : Splits s pieces) :
    segments s = pieces := by
  have hnil := h []
  rwa [List.append_nil, segments, List.append_nil] at hnil

theorem splits_nil : Splits [] [] := fun _ => rfl

theorem Splits.append {s t : List Char} {xs ys : List Segment} (h : Splits s xs)
    (k : Splits t ys) : Splits (s ++ t) (xs ++ ys) := by
  intro rest
  rw [List.append_assoc, h, k, List.append_assoc]

/-- A text without quotes is read character by character. -/
theorem splits_of_notMem {s : List Char} (h : '\'' ∉ s) : Splits s (s.map .plain) := by
  induction s with
  | nil => exact splits_nil
  | cons c s ih =>
      rw [List.mem_cons, not_or] at h
      intro rest
      rw [List.cons_append, segments, if_neg (Ne.symm h.1), ih h.2]
      rfl

/-- A literal with its quotes is one piece. -/
theorem splits_literal {body : List Char} (h : LiteralText (· ≠ '\n') body) :
    Splits ('\'' :: body ++ ['\'']) [.literal body] := by
  intro rest
  have hclose : closeLiteral? (body ++ ['\''] ++ rest) = some (body, rest) := by
    simpa using closeLiteral?_append h rest
  rw [List.cons_append, List.cons_append, segments, if_pos rfl]
  split
  · next body' rest' heq =>
      cases hclose.symm.trans heq
      rfl
  · next heq => cases hclose.symm.trans heq

/-! ### Protected text -/

@[simp] theorem literals_map_plain (s : List Char) : literals (s.map .plain) = [] := by
  induction s with
  | nil => rfl
  | cons c s ih => exact ih

@[simp] theorem literals_append (xs ys : List Segment) :
    literals (xs ++ ys) = literals xs ++ literals ys := by
  induction xs with
  | nil => rfl
  | cons x xs ih => cases x <;> simp [literals, ih]

@[simp] theorem protectedFrom_map_plain (k : Nat) (s : List Char) :
    protectedFrom k (s.map .plain) = s := by
  induction s with
  | nil => rfl
  | cons c s ih => simp [protectedFrom, ih]

theorem protectedFrom_append (k : Nat) (xs ys : List Segment) :
    protectedFrom k (xs ++ ys) =
      protectedFrom k xs ++ protectedFrom (k + (literals xs).length) ys := by
  induction xs generalizing k with
  | nil => rfl
  | cons x xs ih =>
      cases x with
      | plain c => simp [protectedFrom, literals, ih]
      | literal body => simp [protectedFrom, literals, ih, Nat.add_assoc, Nat.add_comm 1]

/-! ### Tokens -/

theorem token_eq (k : Nat) :
    token k = "'StaticParameter".toList ++ Nat.toDigits 10 k ++ ['\''] := rfl

/-- A token is made of quotes, letters and digits. -/
theorem of_mem_token {k : Nat} {c : Char} (h : c ∈ token k) : c = '\'' ∨ c.isAlphanum := by
  have hword : "'StaticParameter".toList.all (fun c => c == '\'' || c.isAlphanum) := by decide
  rw [token_eq, List.mem_append, List.mem_append, List.mem_singleton] at h
  rcases h with (h | h) | h
  · simpa using List.all_eq_true.mp hword c h
  · have hd := Nat.isDigit_of_mem_toDigits (by decide) (by decide) h
    exact Or.inr (by simp [Char.isAlphanum, hd])
  · exact Or.inl h

theorem token_injective {j k : Nat} (h : token j = token k) : j = k := by
  have hdigits : Nat.toDigits 10 j = Nat.toDigits 10 k :=
    List.append_cancel_left (List.append_cancel_right h)
  exact Digits.toDigits_inj hdigits

/-- The token of a literal leads back to its text. -/
theorem literalOfToken?_token (k i : Nat) (bodies : List (List Char)) :
    literalOfToken? k (token (k + i)) bodies = bodies[i]? := by
  induction bodies generalizing k i with
  | nil => rfl
  | cons body rest ih =>
      cases i with
      | zero => simp [literalOfToken?]
      | succ i =>
          have hne : token k ≠ token (k + (i + 1)) := fun h => by
            have := token_injective h
            omega
          rw [literalOfToken?, if_neg hne, show k + (i + 1) = (k + 1) + i by omega, ih,
            List.getElem?_cons_succ]

end PageMigration.Expression
