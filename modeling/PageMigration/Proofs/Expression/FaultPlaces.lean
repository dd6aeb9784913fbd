import Mathlib.Data.List.Basic
import PageMigration.Proofs.Expression.SourceParts

/-!
# Where errors show

The reader looks at the protected text of a trimmed expression and reports an offset in the
expression as it was given.  The rules of where an error shows are stated of the parts of the
expression as they are written.  An offset is that of a place between two characters, so it is in
range and never inside of a character.

## Main definitions

* `CallParts.RefusesFirst` : the first argument that a scope cannot bind.
* `FaultPlace` : the place in an expression where a fault shows.

## Main results

* `CallParts.Of.exists_refusesFirst` : the error of the arguments is that of the first one that
  cannot be bound.
* `exists_faultPlace` : every error shows at the place of its fault.
-/

namespace PageMigration

open Expression
open Chars (byteLength isBlank)

namespace CallParts

/-! ### The refused argument -/

/-- `p.RefusesFirst scope front a rest parameter` says that the scope can bind the arguments
`front`, but not the parameter that the next argument `a` refers to. -/
structure RefusesFirst (p : CallParts) (scope : Scope) (front : List (List Segment))
    (a : List Segment) (rest : List (List Segment)) (parameter : String) : Prop where
  arguments_eq : p.arguments = front ++ a :: rest
  binds : ∀ raw ∈ argumentTextsFrom p.literalsBeforeArguments front, Binds scope raw
  refers : reference?
    (protectedFrom (p.literalsBeforeArguments + (literals front.flatten).length) a) = some parameter
  unbound : bind? scope parameter = none

end CallParts

namespace Expression

/-- Arguments as they are read, with a comma behind each of them. -/
theorem flatMap_argumentTextsFrom (k : Nat) (front : List (List Segment)) :
    (argumentTextsFrom k front).flatMap (· ++ [',']) =
      protectedFrom k (front.flatMap (· ++ [.plain ','])) := by
  induction front generalizing k with
  | nil => rfl
  | cons a front ih =>
      simp [argumentTextsFrom, protectedFrom_append, protectedFrom, ih]

end Expression

namespace CallParts.Of

variable {p : CallParts} {pieces : List Segment} (h : p.Of pieces)

include h

/-- **The refused argument.** If the arguments of a call cannot all be bound, the first one that
cannot is reported, at the first character of it that is not blank. -/
theorem exists_refusesFirst {scope : Scope} {bodies : List (List Char)} {parameter : String}
    {offset : Nat} (herror : bindArguments scope bodies 0
      (byteLength (protectedText p.beforeArguments)) p.argumentTexts = .error (parameter, offset)) :
    ∃ front a rest, p.RefusesFirst scope front a rest parameter ∧
      originalOffset (spans pieces) offset =
        byteLength (sourceText (p.beforeArgument front)) +
          byteLength ((sourceText a).takeWhile isBlank) := by
  rcases forall_binds_or_exists scope p.argumentTexts with
    hbinds | ⟨before, raw, after, name, htexts, hbefore, hname, hunbound⟩
  · obtain ⟨inputs, hinputs, -⟩ := exists_bindArguments_eq_ok bodies hbinds 0
      (byteLength (protectedText p.beforeArguments))
    cases hinputs.symm.trans herror
  · rw [htexts, bindArguments_eq_error bodies hbefore hname hunbound] at herror
    obtain ⟨rfl, rfl⟩ := Prod.mk.inj (Except.error.inj herror)
    rw [argumentTexts] at htexts
    obtain ⟨front, a, rest, hshown, rfl, rfl⟩ := exists_of_argumentTextsFrom_eq htexts
    have ha : p.arguments = front ++ a :: rest := by
      rw [← shown_eq_arguments (a := a) (by simp [hshown]), hshown]
    refine ⟨front, a, rest, ⟨ha, hbefore, hname, hunbound⟩, ?_⟩
    obtain ⟨blanks, core, rfl, hsource, hprotected⟩ := exists_blanks_append a
    have hpieces : pieces =
        (p.beforeArgument front ++ blanks.map .plain) ++ (core ++ p.behindArgument rest) := by
      rw [h.eq_append_of_arguments_eq ha]
      simp
    have hoffset := originalOffset_spans (p.beforeArgument front ++ blanks.map .plain)
      (core ++ p.behindArgument rest)
    rw [← hpieces, protectedText, protectedFrom_append, protectedFrom_map_plain,
      Chars.byteLength_append, beforeArgument, protectedFrom_append, Nat.zero_add,
      Chars.byteLength_append, ← beforeArgument, ← protectedText] at hoffset
    rw [hsource, hprotected, flatMap_argumentTextsFrom]
    simpa [literalsBeforeArguments] using hoffset

end CallParts.Of

/-! ### Places -/

/-- `FaultPlace scope expression fault before after` is the rule by which a fault shows between
`before` and `after` in an expression. -/
inductive FaultPlace (scope : Scope) (expression : String) :
    ParseFault → List Char → List Char → Prop
  /-- The end of the trimmed expression. -/
  | missingParenthesis {after : List Char} (hafter : Chars.blank after) :
      FaultPlace scope expression (.missingParenthesis (Text.trim expression))
        (expression.toList.takeWhile isBlank ++ Chars.trim expression.toList) after
  /-- Behind the first equality sign outside the literals, or else where the blanks end. -/
  | emptyFunctionName {p : CallParts} {after : List Char}
      (hparts : p.Of (segments (Chars.trim expression.toList))) :
      FaultPlace scope expression .emptyFunctionName
        (expression.toList.takeWhile isBlank ++ sourceText p.outputPieces) after
  /-- The first character of the refused argument that is not blank. -/
  | undeclaredParameter {p : CallParts} {front rest : List (List Segment)} {a : List Segment}
      {parameter : String} {blanks text after : List Char} {c : Char}
      (hparts : p.Of (segments (Chars.trim expression.toList)))
      (hrefuses : p.RefusesFirst scope front a rest parameter)
      (htext : sourceText a = blanks ++ c :: text) (hblanks : Chars.blank blanks)
      (hc : isBlank c = false) :
      FaultPlace scope expression
        (.undeclaredParameter parameter (String.ofList p.qualifiedNameText) scope.unit.typeName)
        (expression.toList.takeWhile isBlank ++ sourceText (p.beforeArgument front) ++ blanks)
        (c :: text ++ after)
  /-- The end of a refused argument that is blank: the next comma, the closing parenthesis, or the
  end of the trimmed expression. -/
  | blankArgument {p : CallParts} {front rest : List (List Segment)} {a : List Segment}
      {parameter : String} {after : List Char}
      (hparts : p.Of (segments (Chars.trim expression.toList)))
      (hrefuses : p.RefusesFirst scope front a rest parameter)
      (hblank : Chars.blank (sourceText a))
      (hafter : after.head? = some ',' ∨ after.head? = some ')' ∨
        sourceText (p.beforeArgument front) ++ sourceText a = Chars.trim expression.toList) :
      FaultPlace scope expression
        (.undeclaredParameter parameter (String.ofList p.qualifiedNameText) scope.unit.typeName)
        (expression.toList.takeWhile isBlank ++ sourceText (p.beforeArgument front) ++ sourceText a)
        after

section Places

variable {scope : Scope} {expression : String}

/-- A refused argument shows where its blanks end. -/
theorem CallParts.Of.faultPlace_of_refusesFirst {p : CallParts}
    (h : p.Of (segments (Chars.trim expression.toList))) {front rest : List (List Segment)}
    {a : List Segment} {parameter : String}
    (hrefuses : p.RefusesFirst scope front a rest parameter) :
    ∃ after, expression.toList = expression.toList.takeWhile isBlank ++
        sourceText (p.beforeArgument front) ++ (sourceText a).takeWhile isBlank ++ after ∧
      FaultPlace scope expression
        (.undeclaredParameter parameter (String.ofList p.qualifiedNameText) scope.unit.typeName)
        (expression.toList.takeWhile isBlank ++ sourceText (p.beforeArgument front) ++
          (sourceText a).takeWhile isBlank) after := by
  obtain ⟨trailing, -, hexpression⟩ := Chars.exists_eq_append_trim expression.toList
  have htrim : Chars.trim expression.toList = sourceText (p.beforeArgument front) ++
      (sourceText a ++ sourceText (p.behindArgument rest)) := by
    rw [← sourceText_segments (Chars.trim expression.toList),
      h.eq_append_of_arguments_eq hrefuses.arguments_eq]
    simp
  have hsplit := List.takeWhile_append_dropWhile (p := isBlank) (l := sourceText a)
  refine ⟨(sourceText a).dropWhile isBlank ++ (sourceText (p.behindArgument rest) ++ trailing),
    ?_, ?_⟩
  · rw [List.append_assoc, ← List.append_assoc ((sourceText a).takeWhile isBlank), hsplit]
    rw [htrim] at hexpression
    simpa using hexpression
  cases hcore : (sourceText a).dropWhile isBlank with
  | cons c text =>
      have hc : isBlank c = false := by
        have hhead := List.head?_dropWhile_not isBlank (sourceText a)
        rw [hcore] at hhead
        simpa using hhead
      rw [hcore] at hsplit
      exact .undeclaredParameter h hrefuses hsplit.symm (Chars.blank_takeWhile _) hc
  | nil =>
      rw [hcore, List.append_nil] at hsplit
      have hblank : Chars.blank (sourceText a) := by
        rw [← hsplit]
        exact Chars.blank_takeWhile _
      rw [hsplit, List.nil_append]
      refine .blankArgument h hrefuses hblank ?_
      rw [htrim, CallParts.behindArgument]
      cases rest with
      | cons b rest => exact Or.inl rfl
      | nil =>
          cases p.behind with
          | some behind => exact Or.inr (Or.inl rfl)
          | none => exact Or.inr (Or.inr (by simp))

/-- **Places of errors.** Every error of the reader shows at the place of its fault: its position is
the number of bytes before that place. -/
theorem exists_faultPlace {error : ParseError} (h : parseCall scope expression = .error error) :
    ∃ before after : String, expression = before ++ after ∧
      error.position = before.utf8ByteSize ∧
      FaultPlace scope expression error.fault before.toList after.toList := by
  suffices ∃ before after, expression.toList = before ++ after ∧
      error.position = byteLength before ∧ FaultPlace scope expression error.fault before after by
    obtain ⟨before, after, hexpression, hposition, hplace⟩ := this
    refine ⟨String.ofList before, String.ofList after, ?_, ?_, ?_⟩
    · rw [← String.ofList_append, ← hexpression, String.ofList_toList]
    · rw [hposition, Chars.byteLength_eq_utf8ByteSize]
    · simpa using hplace
  obtain ⟨trailing, htrailing, hexpression⟩ := Chars.exists_eq_append_trim expression.toList
  rcases exists_of_or_parseCall_eq expression with ⟨p, hp⟩ | hmissing
  · rw [hp.parseCall_eq] at h
    split at h
    · cases h
      have htrim : Chars.trim expression.toList =
          sourceText p.outputPieces ++ sourceText p.call := by
        rw [← sourceText_append, ← hp.pieces_eq, sourceText_segments]
      refine ⟨_, sourceText p.call ++ trailing, ?_, ?_, .emptyFunctionName hp⟩
      · rw [List.append_assoc, ← List.append_assoc (sourceText p.outputPieces), ← htrim,
          ← List.append_assoc, ← hexpression]
      · simp [ParseError.atOffset]
    split at h
    · cases h
    next parameter offset hargs =>
      cases h
      obtain ⟨front, a, rest, hrefuses, hoffset⟩ := hp.exists_refusesFirst hargs
      obtain ⟨after, hafter, hplace⟩ := hp.faultPlace_of_refusesFirst hrefuses
      exact ⟨_, after, hafter, by simp [ParseError.atOffset, hoffset], hplace⟩
  · rw [hmissing scope] at h
    cases h
    exact ⟨_, trailing, hexpression, by simp [ParseError.atOffset], .missingParenthesis htrailing⟩

/-- Blanks, characters of several bytes, and literals shorter and longer than their tokens stand
before the refused argument. -/
theorem exists_faultPlace_of_literals :
    let scope : Scope := { declared := [], unit := { typeName := "Text", kind := .classic } }
    let expression := "\u00A0 Größe = Fn('ü', 'straight, without a break', Höhe )"
    let error : ParseError :=
      { fault := .undeclaredParameter "Höhe" "Fn" "Text", position := 51
        context := "\u00A0 Größe = Fn('ü', 'straight, without a b" }
    parseCall scope expression = .error error ∧
      ∃ before after : String, expression = before ++ after ∧
        error.position = before.utf8ByteSize ∧
        FaultPlace scope expression error.fault before.toList after.toList := by
  intro scope expression error
  have h : parseCall scope expression = .error error := by decide +kernel
  exact ⟨h, exists_faultPlace h⟩

/-- The position of that error is the one behind these characters. -/
example : ("\u00A0 Größe = Fn('ü', 'straight, without a break', " : String).utf8ByteSize = 51 := by
  decide +kernel

end Places

end PageMigration
