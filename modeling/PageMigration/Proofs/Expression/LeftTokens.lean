import Mathlib.Data.List.Forall2
import Mathlib.Data.List.Infix
import PageMigration.Proofs.Expression.FaultPlaces
import PageMigration.Proofs.Expression.Reading

/-!
# Tokens that are left in calls

The text of a literal is put back where the literal stands alone as an argument.  Everywhere else
the token that stands for it stays in what is read: in an output, an add-on, a name, and in an
argument that has something besides one literal.  An expression without the word that tokens are
made of has it in no other place.

## Main definitions

* `Expression.MentionsToken` : texts with the word that tokens are made of.
* `Expression.StandsAlone`, `Expression.HasLooseLiteral` : arguments whose literals are put back,
  and arguments whose literals are not.
* `CallInput.TokensOf`, `CallParts.TokensIn` : where a call has tokens, by the parts of its
  expression.

## Main results

* `Expression.standsAlone_iff` : an argument is read as a token iff its literal stands alone.
* `Expression.forall₂_tokensOf` : the tokens in the inputs of a call.
* `tokens_of_parseCall` : the tokens in calls and in errors.
-/

namespace PageMigration

open Chars (isBlank)

namespace Expression

/-! ### The word of the tokens -/

/-- What tokens have between the first quote and the number. -/
def tokenWord : List Char := "StaticParameter".toList

/-- A text with the word that tokens are made of. -/
def MentionsToken (s : List Char) : Prop := tokenWord <:+: s

instance (s : List Char) : Decidable (MentionsToken s) :=
  inferInstanceAs (Decidable (tokenWord <:+: s))

/-- A text without braces. -/
def withoutBraces (s : List Char) : List Char :=
  s.filter fun c => c ≠ '\x7b' && c ≠ '\x7d'

theorem mentionsToken_token (k : Nat) : MentionsToken (token k) := by
  have hword : "'StaticParameter".toList = ['\''] ++ tokenWord := by decide
  exact ⟨['\''], Nat.toDigits 10 k ++ ['\''], by rw [token_eq, hword, List.append_assoc _ _ ['\'']]⟩

theorem isAlphanum_of_mem_tokenWord {c : Char} (h : c ∈ tokenWord) : c.isAlphanum := by
  have hall : tokenWord.all Char.isAlphanum := by decide
  exact List.all_eq_true.mp hall c h

@[simp] theorem mentionsToken_trim {s : List Char} :
    MentionsToken (Chars.trim s) ↔ MentionsToken s :=
  Chars.isInfix_trimWhere_iff fun _ hc =>
    Chars.isBlank_of_isAlphanum (isAlphanum_of_mem_tokenWord hc)

@[simp] theorem mentionsToken_trimWhere_quote {s : List Char} :
    MentionsToken (Chars.trimWhere (· == '\'') s) ↔ MentionsToken s :=
  Chars.isInfix_trimWhere_iff fun c hc => beq_eq_false_iff_ne.mpr fun h => by
    have hquote := h ▸ isAlphanum_of_mem_tokenWord hc
    revert hquote
    decide

theorem MentionsToken.withoutBraces {s : List Char} (h : MentionsToken s) :
    MentionsToken (withoutBraces s) :=
  h.filter fun c => c ≠ '\x7b' && c ≠ '\x7d'

theorem mentionsToken_protectedFrom {pieces : List Segment} (h : literals pieces ≠ []) (k : Nat) :
    MentionsToken (protectedFrom k pieces) := by
  induction pieces generalizing k with
  | nil => exact absurd rfl h
  | cons piece rest ih =>
      cases piece with
      | plain c => exact List.infix_cons (ih h k)
      | literal body =>
          exact (mentionsToken_token k).trans (List.prefix_append _ _).isInfix

section Free

variable {e : List Char} (hfree : ¬ MentionsToken (withoutBraces e)) {pieces : List Segment}
  (hpieces : sourceText pieces <:+: e) (k : Nat)

include hfree hpieces

/-- A part of an expression without the word has it in the protected text, braces or not, iff the
part has a literal. -/
theorem mentionsToken_withoutBraces_protectedFrom_iff :
    MentionsToken (withoutBraces (protectedFrom k pieces)) ↔ literals pieces ≠ [] := by
  refine ⟨fun h hnone => hfree ?_, fun h => (mentionsToken_protectedFrom h k).withoutBraces⟩
  rw [protectedFrom_eq_sourceText hnone] at h
  exact h.trans (hpieces.filter _)

theorem mentionsToken_protectedFrom_iff :
    MentionsToken (protectedFrom k pieces) ↔ literals pieces ≠ [] :=
  ⟨fun h => (mentionsToken_withoutBraces_protectedFrom_iff hfree hpieces k).mp h.withoutBraces,
    fun h => mentionsToken_protectedFrom h k⟩

theorem mentionsToken_unbraced_protectedFrom_iff :
    MentionsToken (unbraced (protectedFrom k pieces)) ↔ literals pieces ≠ [] :=
  mentionsToken_trim.trans (mentionsToken_withoutBraces_protectedFrom_iff hfree hpieces k)

theorem mentionsToken_unbraced_trim_protectedFrom_iff :
    MentionsToken (unbraced (Chars.trim (protectedFrom k pieces))) ↔ literals pieces ≠ [] := by
  refine ⟨fun h => ?_, fun h => ?_⟩
  · have hinfix : MentionsToken (withoutBraces (protectedFrom k pieces)) :=
      (mentionsToken_trim.mp h).trans ((Chars.trim_isInfix _).filter _)
    exact (mentionsToken_withoutBraces_protectedFrom_iff hfree hpieces k).mp hinfix
  · exact mentionsToken_trim.mpr
      (mentionsToken_trim.mpr (mentionsToken_protectedFrom h k)).withoutBraces

end Free

/-! ### Literals that stand alone -/

/-- An argument that is one literal between blanks. -/
def StandsAlone (a : List Segment) : Prop :=
  ∃ before body after, Chars.blank before ∧ Chars.blank after ∧
    a = before.map .plain ++ .literal body :: after.map .plain

/-- An argument with a literal beside which something else stands. -/
def HasLooseLiteral (a : List Segment) : Prop :=
  literals a ≠ [] ∧ ¬ StandsAlone a

theorem exists_eq_map_plain {pieces : List Segment} (h : literals pieces = []) :
    ∃ s : List Char, pieces = s.map .plain := by
  induction pieces with
  | nil => exact ⟨[], rfl⟩
  | cons piece rest ih =>
      cases piece with
      | plain c =>
          obtain ⟨s, rfl⟩ := ih h
          exact ⟨c :: s, rfl⟩
      | literal body => cases h

/-- Segments part at their first literal. -/
theorem exists_map_plain_append {pieces : List Segment} (h : literals pieces ≠ []) :
    ∃ (before body : List Char) (rest : List Segment),
      pieces = before.map .plain ++ .literal body :: rest := by
  induction pieces with
  | nil => exact absurd rfl h
  | cons piece rest ih =>
      cases piece with
      | plain c =>
          obtain ⟨before, body, rest', rfl⟩ := ih h
          exact ⟨c :: before, body, rest', rfl⟩
      | literal body => exact ⟨[], body, rest, rfl⟩

theorem count_token (k : Nat) : (token k).count '\'' = 2 := by
  have hdigits : '\'' ∉ Nat.toDigits 10 k := fun h =>
    absurd (Nat.isDigit_of_mem_toDigits (by decide) (by decide) h) (by decide)
  rw [token_eq, List.count_append, List.count_append, List.count_eq_zero.mpr hdigits]
  decide

/-- A token is no part of another one. -/
theorem eq_nil_of_append_token_append {x y : List Char} {j k : Nat}
    (h : x ++ token k ++ y = token j) : x = [] ∧ y = [] := by
  have hcount := congrArg (List.count '\'') h
  rw [List.count_append, List.count_append, count_token, count_token] at hcount
  have hx : '\'' ∉ x := List.count_eq_zero.mp (by omega)
  have hy : '\'' ∉ y := List.count_eq_zero.mp (by omega)
  constructor
  · cases x with
    | nil => rfl
    | cons c x =>
        have hc : c = '\'' := (List.cons.inj h).1
        exact absurd List.mem_cons_self (hc ▸ hx)
  · rcases List.eq_nil_or_concat y with rfl | ⟨y, c, rfl⟩
    · rfl
    · have hc : c = '\'' := by
        rw [List.concat_eq_append, ← List.append_assoc, token_eq j] at h
        exact List.singleton_inj.mp (List.append_inj_right' h rfl)
      exact absurd (by simp) (hc ▸ hy)

theorem trim_append_token_append (a b : List Char) (k : Nat) :
    Chars.trim (a ++ token k ++ b) = Chars.trimStart a ++ token k ++ Chars.trimEnd b := by
  have hquote : isBlank '\'' = false := by decide
  have h := Chars.trim_append_cons a ("StaticParameter".toList ++ Nat.toDigits 10 k ++ '\'' :: b)
    hquote
  rw [Chars.trimEnd_append_cons _ b hquote] at h
  simpa [token_eq] using h

/-- **Literals that stand alone.** An argument with a literal is read as a token iff the literal
stands alone, and the token is the one for that literal. -/
theorem standsAlone_iff {a : List Segment} (ha : literals a ≠ []) {k j : Nat} :
    Chars.trim (protectedFrom k a) = token j ↔ StandsAlone a ∧ j = k := by
  constructor
  · intro h
    obtain ⟨before, body, rest, rfl⟩ := exists_map_plain_append ha
    rw [protectedFrom_append, protectedFrom_map_plain, literals_map_plain, List.length_nil,
      Nat.add_zero, protectedFrom, ← List.append_assoc, trim_append_token_append] at h
    obtain ⟨hbefore, hrest⟩ := eq_nil_of_append_token_append h
    rw [hbefore, hrest, List.nil_append, List.append_nil] at h
    have hblank : Chars.blank (protectedFrom (k + 1) rest) := by
      rw [← Chars.trim_eq_nil_iff, ← Chars.trim_trimEnd, hrest, Chars.trim_nil]
    have hnone : literals rest = [] := by
      by_contra hne
      exact Chars.notMem_of_blank hblank (c := 'S') (by decide)
        ((mentionsToken_protectedFrom hne _).subset (by decide))
    obtain ⟨after, rfl⟩ := exists_eq_map_plain hnone
    refine ⟨⟨before, body, after, ?_, by simpa using hblank, rfl⟩, (token_injective h).symm⟩
    rw [← Chars.trim_eq_nil_iff, ← Chars.trim_trimStart, hbefore, Chars.trim_nil]
  · rintro ⟨⟨before, body, after, hbefore, hafter, rfl⟩, rfl⟩
    rw [protectedFrom_append, protectedFrom_map_plain, literals_map_plain, List.length_nil,
      Nat.add_zero, protectedFrom, protectedFrom_map_plain, Chars.trim_blank_append hbefore,
      Chars.trim_append_blank hafter, trim_token]

theorem StandsAlone.literals_ne_nil {a : List Segment} (h : StandsAlone a) : literals a ≠ [] := by
  obtain ⟨before, body, after, -, -, rfl⟩ := h
  simp [literals]

/-! ### Tokens in arguments -/

/-- A literal that is found for a text is one of the bodies, and the text is its token. -/
theorem exists_of_literalOfToken?_eq_some {k : Nat} {text body : List Char}
    {bodies : List (List Char)} (h : literalOfToken? k text bodies = some body) :
    body ∈ bodies ∧ ∃ j, text = token j := by
  induction bodies generalizing k with
  | nil => cases h
  | cons first rest ih =>
      rw [literalOfToken?] at h
      split at h
      · next htoken =>
          cases h
          exact ⟨List.mem_cons_self, k, htoken.symm⟩
      · obtain ⟨hmem, hj⟩ := ih h
        exact ⟨List.mem_cons_of_mem _ hmem, hj⟩

/-- `TokensIn e a form` says where the form in which an argument `a` of `e` is read has tokens: a
placeholder has one iff the argument has a loose literal, and so has a literal, which otherwise is a
piece of `e`. -/
def TokensIn (e : List Char) (a : List Segment) : ArgumentForm → Prop
  | .placeholder name => MentionsToken name.toList ↔ HasLooseLiteral a
  | .literal value => (MentionsToken value.toList ↔ HasLooseLiteral a) ∧
      (¬ HasLooseLiteral a → value.toList <:+: e)

/-- The tokens in the form in which an argument is read, where `k` of the literals `bodies` come
before it. -/
theorem tokensIn_argumentForm {e : List Char} (hfree : ¬ MentionsToken (withoutBraces e))
    {a : List Segment} (ha : sourceText a <:+: e) {bodies : List (List Char)}
    (hbodies : ∀ body ∈ bodies, body <:+: e) {k : Nat}
    (hk : k + (literals a).length ≤ bodies.length) :
    TokensIn e a (argumentForm bodies (Chars.trim (protectedFrom k a))) := by
  have htext : MentionsToken (Chars.trim (protectedFrom k a)) ↔ literals a ≠ [] :=
    mentionsToken_trim.trans (mentionsToken_protectedFrom_iff hfree ha k)
  have halone (h : StandsAlone a) : Chars.trim (protectedFrom k a) = token k :=
    (standsAlone_iff h.literals_ne_nil).mpr ⟨h, rfl⟩
  -- Everything but a literal that stands alone is read with its tokens.
  have hloose (h : ¬ StandsAlone a) : HasLooseLiteral a ↔ literals a ≠ [] := and_iff_left h
  simp only [argumentForm, Bool.and_eq_true, List.contains_iff_mem]
  split
  · next hbraces =>
      have hnot : ¬ StandsAlone a := fun h =>
        notMem_token (by decide) (by decide) k (halone h ▸ hbraces.1)
      rw [TokensIn, hloose hnot, String.toList_ofList]
      exact mentionsToken_unbraced_trim_protectedFrom_iff hfree ha k
  split
  · cases hliteral : literalOfToken? 0 (Chars.trim (protectedFrom k a)) bodies with
    | some body =>
        obtain ⟨hmem, j, htoken⟩ := exists_of_literalOfToken?_eq_some hliteral
        have hliterals : literals a ≠ [] := htext.mp (htoken ▸ mentionsToken_token j)
        have hnot : ¬ HasLooseLiteral a := fun h =>
          h.2 ((standsAlone_iff hliterals).mp htoken).1
        have hbody : ¬ MentionsToken body := fun h =>
          hfree (MentionsToken.withoutBraces (h.trans (hbodies body hmem)))
        rw [Option.getD_some, TokensIn, String.toList_ofList]
        exact ⟨iff_of_false hbody hnot, fun _ => hbodies body hmem⟩
    | none =>
        have hnot : ¬ StandsAlone a := fun h => by
          have hlength := List.length_pos_iff.mpr h.literals_ne_nil
          have hfound := literalOfToken?_token 0 k bodies
          rw [Nat.zero_add, ← halone h, hliteral, eq_comm, List.getElem?_eq_none_iff] at hfound
          omega
        rw [Option.getD_none, TokensIn, hloose hnot, String.toList_ofList,
          mentionsToken_trimWhere_quote]
        refine ⟨htext, fun h => ?_⟩
        have hvalue := (Chars.trimWhere_isInfix (· == '\'') _).trans
          (Chars.trim_isInfix (protectedFrom k a))
        rw [protectedFrom_eq_sourceText (not_not.mp h)] at hvalue ⊢
        exact hvalue.trans ha
  · next hquote =>
      have hnot : ¬ StandsAlone a := fun h => hquote (by simp [halone h, token_eq])
      rw [TokensIn, hloose hnot, String.toList_ofList]
      exact htext

end Expression

open Expression

/-! ### Tokens in calls -/

/-- `input.TokensOf e a` says where the input that an argument `a` of `e` is bound to has tokens: in
its name or its value iff the argument has a loose literal.  The value of a literal is otherwise a
piece of `e`. -/
structure CallInput.TokensOf (input : CallInput) (e : String) (a : List Segment) : Prop where
  mentions : MentionsToken input.name.toList ∨ MentionsToken input.value.toList ↔
    HasLooseLiteral a
  piece : input.isLiteral → ¬ HasLooseLiteral a → input.value.toList <:+: e.toList

/-- `p.TokensOf e call` says where the call with the parts `p` has tokens: in what is read from a
part with a literal, except for arguments in which a literal stands alone. -/
structure CallParts.TokensOf (p : CallParts) (e : String) (call : FunctionCall) : Prop where
  output : MentionsToken call.output.toList ↔ literals (p.output.getD []) ≠ []
  addOn : MentionsToken call.addOn.toList ↔ literals (p.addOn.getD []) ≠ []
  name : MentionsToken call.name.toList ↔ literals p.name ≠ []
  inputs : List.Forall₂ (fun a input => input.TokensOf e a) p.shown call.inputs

theorem exists_of_map_eq_ok {ε α β : Type} {f : α → β} {x : Except ε α} {y : β}
    (h : x.map f = .ok y) : ∃ a, x = .ok a ∧ f a = y := by
  cases x with
  | error error => cases h
  | ok a => exact ⟨a, rfl, Except.ok.inj h⟩

theorem not_mentionsToken_literalName (j : Nat) :
    ¬ MentionsToken ("Static_" ++ toString j).toList := by
  intro h
  have hmem : 'P' ∈ ("Static_" ++ toString j).toList := h.subset (by decide)
  rw [String.toList_append, List.mem_append] at hmem
  rcases hmem with hmem | hmem
  · revert hmem
    decide
  · have hdigit := Nat.isDigit_of_mem_toDigits (b := 10) (n := j) (by decide) (by decide)
      (by simpa [Nat.repr] using hmem)
    revert hdigit
    decide

section Tokens

variable {scope : Scope} {e : String} (hfree : ¬ MentionsToken (withoutBraces e.toList))
  (hbag : scope.unit.properties = .empty)

include hfree hbag

/-- Arguments are bound to inputs that have tokens only where a literal is loose. -/
theorem Expression.forall₂_tokensOf {bodies : List (List Char)}
    (hbodies : ∀ body ∈ bodies, body <:+: e.toList) {args : List (List Segment)}
    (hargs : ∀ a ∈ args, sourceText a <:+: e.toList) {k : Nat}
    (hk : k + (literals args.flatten).length ≤ bodies.length) {j offset : Nat}
    {inputs : List CallInput}
    (h : bindArguments scope bodies j offset (argumentTextsFrom k args) = .ok inputs) :
    List.Forall₂ (fun a input => input.TokensOf e a) args inputs := by
  induction args generalizing k j offset inputs with
  | nil =>
      cases h
      exact .nil
  | cons a rest ih =>
      rw [List.forall_mem_cons] at hargs
      rw [List.flatten_cons, literals_append, List.length_append] at hk
      have htokens := tokensIn_argumentForm hfree hargs.1 hbodies (k := k) (by omega)
      have hrest : k + (literals a).length + (literals rest.flatten).length ≤ bodies.length := by
        omega
      simp only [argumentTextsFrom, bindArguments] at h
      cases hform : argumentForm bodies (Chars.trim (protectedFrom k a)) with
      | literal value =>
          simp only [hform] at h htokens
          obtain ⟨inputs, hinputs, rfl⟩ := exists_of_map_eq_ok h
          refine .cons ⟨?_, fun _ => htokens.2⟩ (ih hargs.2 hrest hinputs)
          exact (or_iff_right (not_mentionsToken_literalName j)).trans htokens.1
      | placeholder name =>
          simp only [hform] at h htokens
          cases hbind : bind? scope name with
          | none =>
              rw [hbind] at h
              cases h
          | some input =>
              simp only [hbind] at h
              obtain ⟨inputs, hinputs, rfl⟩ := exists_of_map_eq_ok h
              have hinput := bind?_eq_some_input (Option.isSome_iff_exists.mpr ⟨input, hbind⟩)
              cases hinput.symm.trans hbind
              have hvalue : (scope.input name).value = "" := by simp [Scope.input, hbag]; rfl
              refine .cons ⟨?_, fun h => absurd h Bool.false_ne_true⟩ (ih hargs.2 hrest hinputs)
              rw [hvalue]
              exact (or_iff_left (by decide)).trans htokens

/-- The tokens in a call that is read from the parts. -/
theorem CallParts.Of.tokensOf {p : CallParts} (h : p.Of (segments (Chars.trim e.toList)))
    (hproperty : ∀ name ∈ scope.property, ¬ MentionsToken name.toList) {inputs : List CallInput}
    {j offset : Nat} (hinputs : bindArguments scope (literals (segments (Chars.trim e.toList))) j
      offset p.argumentTexts = .ok inputs) :
    p.TokensOf e
      { addOn := String.ofList p.addOnText, name := String.ofList p.nameText,
        output := outputName scope p.output, inputs } where
  output := by
    have hpart := sourceText_isInfix_toList h.output_isInfix
    cases houtput : p.output with
    | none =>
        have hdefault : ¬ MentionsToken (scope.property.getD selectorOutput).toList := by
          cases hname : scope.property with
          | none => decide
          | some name => exact hproperty name hname
        exact iff_of_false hdefault (by simp [literals])
    | some output =>
        rw [houtput] at hpart
        rw [outputName, String.toList_ofList]
        exact mentionsToken_unbraced_protectedFrom_iff hfree hpart 0
  addOn := by
    rw [String.toList_ofList]
    exact mentionsToken_trim.trans (mentionsToken_protectedFrom_iff hfree
      (sourceText_isInfix_toList h.addOn_isInfix) _)
  name := by
    rw [String.toList_ofList]
    exact mentionsToken_trim.trans (mentionsToken_protectedFrom_iff hfree
      (sourceText_isInfix_toList h.name_isInfix) _)
  inputs := by
    exact forall₂_tokensOf hfree hbag (fun _ hbody => body_isInfix hbody)
      (fun a ha => sourceText_isInfix_toList (h.argument_isInfix (shown_eq_arguments ha ▸ ha)))
      h.literals_shown_le hinputs

/-- **Tokens in calls.** Of an expression without the word that tokens are made of, braces or not,
the reader leaves tokens in what it reads from parts with a literal, except for arguments in which
a literal stands alone. -/
theorem tokens_of_parseCall
    (hproperty : ∀ name ∈ scope.property, ¬ MentionsToken name.toList) :
    match parseCall scope e with
    | .ok call => ∃ p : CallParts, p.Of (segments (Chars.trim e.toList)) ∧ p.TokensOf e call
    | .error error => ∀ parameter function webPart,
        error.fault = .undeclaredParameter parameter function webPart →
          ∃ (p : CallParts) (front : List (List Segment)) (a : List Segment)
            (rest : List (List Segment)), p.Of (segments (Chars.trim e.toList)) ∧
              p.RefusesFirst scope front a rest parameter ∧
              (MentionsToken parameter.toList ↔ HasLooseLiteral a) := by
  rcases exists_of_or_parseCall_eq e with ⟨p, hp⟩ | hmissing
  · rw [hp.parseCall_eq]
    by_cases hname : p.nameText = []
    · rw [if_pos hname]
      nofun
    rw [if_neg hname]
    cases hargs : bindArguments scope (literals (segments (Chars.trim e.toList))) 0
        (Chars.byteLength (protectedText p.beforeArguments)) p.argumentTexts with
    | ok inputs => exact ⟨p, hp, hp.tokensOf hfree hbag hproperty hargs⟩
    | error found =>
        rintro parameter function webPart hfault
        obtain ⟨front, a, rest, hrefuses, -⟩ := hp.exists_refusesFirst hargs
        cases hfault
        have ha : a ∈ p.arguments := by simp [hrefuses.arguments_eq]
        have htokens := tokensIn_argumentForm hfree
          (sourceText_isInfix_toList (hp.argument_isInfix ha)) (fun _ hbody => body_isInfix hbody)
          (hp.literals_argument_le hrefuses.arguments_eq)
        rw [argumentForm_of_reference? hrefuses.refers] at htokens
        exact ⟨p, front, a, rest, hp, hrefuses, htokens⟩
  · rw [hmissing scope]
    nofun

end Tokens

/-- A literal in which a quote is doubled is read as two literals, which leave two tokens. -/
theorem token_left_of_doubled_quote :
    let scope : Scope := { declared := [], unit := { typeName := "Text", kind := .clientSide } }
    let e := "StaticString('it''s')"
    let value := "StaticParameter0''StaticParameter1"
    ¬ MentionsToken e.toList ∧ scope.unit.properties = .empty ∧
      parseCall scope e =
        .ok { addOn := "", name := "StaticString", output := "SelectorResult"
              inputs := [{ name := "Static_0", value, isLiteral := true }] } ∧
      MentionsToken value.toList ∧ ¬ value.toList <:+: e.toList := by
  decide +kernel

/-- Beside a literal that stands alone, one in a placeholder and two in the output leave their
tokens. -/
theorem tokens_of_parseCall_of_three_places :
    let scope : Scope := { declared := [], unit := { typeName := "Text", kind := .clientSide } }
    let e := "'a''b' = Fn( 'alone' , \x7b'name'\x7d)"
    let call : FunctionCall :=
      { addOn := "", name := "Fn", output := "'StaticParameter0''StaticParameter1'"
        inputs := [{ name := "Static_0", value := "alone", isLiteral := true },
          { name := "'StaticParameter3'" }] }
    ¬ MentionsToken (withoutBraces e.toList) ∧ scope.unit.properties = .empty ∧
      (∀ name ∈ scope.property, ¬ MentionsToken name.toList) ∧ parseCall scope e = .ok call ∧
      ∃ p : CallParts, p.Of (segments (Chars.trim e.toList)) ∧ p.TokensOf e call := by
  intro scope e call
  have hfree : ¬ MentionsToken (withoutBraces e.toList) := by decide +kernel
  have hproperty : ∀ name ∈ scope.property, ¬ MentionsToken name.toList := nofun
  have hcall : parseCall scope e = .ok call := by decide +kernel
  have htokens := tokens_of_parseCall hfree rfl hproperty
  rw [hcall] at htokens
  exact ⟨hfree, rfl, hproperty, hcall, htokens⟩

end PageMigration
