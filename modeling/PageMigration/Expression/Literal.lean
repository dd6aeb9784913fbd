import PageMigration.Chars.Search
import PageMigration.Value.Argument

/-!
# Quoted literals in expressions

A literal is a text between single quotes, in which a backslash hides the character after it,
unless that is a line feed.  Before an expression is taken apart, each of its literals is
replaced by a numbered token, so that commas, parentheses and equality signs inside literals do
not take part in the syntax.

## Main definitions

* `closeLiteral?` : the body of a literal and what follows its closing quote.
* `segments` : an expression as a list of plain characters and literals.
* `protectedText` : the expression with tokens in place of literals.
* `spans`, `originalOffset` : the way back from an offset in the protected text.
-/

namespace PageMigration.Expression

/-- The body of a literal whose opening quote has been read, and what follows its closing
quote. -/
def closeLiteral? : List Char → Option (List Char × List Char)
  | [] => none
  | c :: s =>
      if c = '\'' then some ([], s)
      else if c = '\\' then
        match s with
        | [] => none
        | d :: s =>
            if d = '\n' then none
            else (closeLiteral? s).map fun (body, rest) => (c :: d :: body, rest)
      else (closeLiteral? s).map fun (body, rest) => (c :: body, rest)

/-- What follows a literal is shorter than what followed its opening quote. -/
theorem length_lt_of_closeLiteral? {s body rest : List Char}
    (h : closeLiteral? s = some (body, rest)) : rest.length < s.length := by
  fun_induction closeLiteral? s generalizing body rest with
  | case1 => simp at h
  | case2 s => simp only [Option.some.injEq, Prod.mk.injEq] at h; simp [← h.2]
  | case3 => simp at h
  | case4 => simp at h
  | case5 d s _ _ ih =>
      obtain ⟨⟨b, r⟩, hb, he⟩ := Option.map_eq_some_iff.1 h
      simp only [Prod.mk.injEq] at he
      have := ih hb
      simp only [List.length_cons, ← he.2]
      omega
  | case6 c s _ _ ih =>
      obtain ⟨⟨b, r⟩, hb, he⟩ := Option.map_eq_some_iff.1 h
      simp only [Prod.mk.injEq] at he
      have := ih hb
      simp only [List.length_cons, ← he.2]
      omega

/-- A piece of an expression: a character outside all literals, or a literal without its
quotes. -/
inductive Segment where
  | plain (c : Char)
  | literal (body : List Char)
  deriving DecidableEq, Repr

/-- An expression as characters and literals.  A quote that no other one closes is a plain
character. -/
def segments (s : List Char) : List Segment :=
  match s with
  | [] => []
  | c :: s =>
      if c = '\'' then
        match _h : closeLiteral? s with
        | some (body, rest) => .literal body :: segments rest
        | none => .plain c :: segments s
      else .plain c :: segments s
termination_by s.length
decreasing_by
  all_goals simp_wf
  have := length_lt_of_closeLiteral? _h
  omega

/-- The token that stands for a literal, by the number of literals before it. -/
def token (k : Nat) : List Char :=
  "'StaticParameter".toList ++ Nat.toDigits 10 k ++ ['\'']

/-- Segments as text, with tokens numbered from `k` in place of literals. -/
def protectedFrom (k : Nat) : List Segment → List Char
  | [] => []
  | .plain c :: rest => c :: protectedFrom k rest
  | .literal _ :: rest => token k ++ protectedFrom (k + 1) rest

/-- Segments as text, with a numbered token in place of each literal. -/
def protectedText (segments : List Segment) : List Char :=
  protectedFrom 0 segments

/-- The bodies of the literals, in order. -/
def literals : List Segment → List (List Char)
  | [] => []
  | .plain _ :: rest => literals rest
  | .literal body :: rest => body :: literals rest

/-- The body of the literal whose token a text is, for bodies numbered from `k`. -/
def literalOfToken? (k : Nat) (text : List Char) : List (List Char) → Option (List Char)
  | [] => none
  | body :: rest => if token k = text then some body else literalOfToken? (k + 1) text rest

/-- Where a literal stands, in bytes: first and last end of its token and of the literal with
its quotes. -/
structure LiteralSpan where
  tokenStart : Nat
  tokenStop : Nat
  start : Nat
  stop : Nat
  deriving DecidableEq, Repr

/-- The spans of the literals numbered from `k`, where `t` bytes of the protected text and `e`
bytes of the expression come before the segments. -/
def spansFrom (k t e : Nat) : List Segment → List LiteralSpan
  | [] => []
  | .plain c :: rest => spansFrom k (t + c.utf8Size) (e + c.utf8Size) rest
  | .literal body :: rest =>
      let t' := t + Chars.byteLength (token k)
      let e' := e + Chars.byteLength body + 2
      ⟨t, t', e, e'⟩ :: spansFrom (k + 1) t' e' rest

/-- The spans of all literals. -/
def spans (segments : List Segment) : List LiteralSpan :=
  spansFrom 0 0 0 segments

/-- The offset in an expression that belongs to an offset in the protected text, where the
last literal before it ends at `t` and `e`.  An offset inside a token belongs to the opening
quote of its literal. -/
def originalOffsetFrom (t e position : Nat) : List LiteralSpan → Nat
  | [] => e + (position - t)
  | span :: rest =>
      if position < span.tokenStart then e + (position - t)
      else if position < span.tokenStop then span.start
      else originalOffsetFrom span.tokenStop span.stop position rest

/-- The offset in an expression that belongs to an offset in the protected text. -/
def originalOffset (spans : List LiteralSpan) (position : Nat) : Nat :=
  originalOffsetFrom 0 0 position spans

end PageMigration.Expression
