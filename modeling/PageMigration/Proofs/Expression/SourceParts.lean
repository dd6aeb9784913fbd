import Mathlib.Data.List.Basic
import PageMigration.Proofs.Expression.Binding
import PageMigration.Proofs.Expression.SourceText

/-!
# The parts of an expression

The delimiters that stand outside the literals of an expression divide its segments into parts: the
output, the add-on and the name, the arguments, and what stands behind the last closing
parenthesis.  The reader looks for the same delimiters in the protected text and reads each part
there.  Since a part keeps its segments, it is known both as it is written and as it is read.

## Main definitions

* `CallParts`, `CallParts.Of` : the parts of a call, and the segments that they are the parts of.
* `CallParts.argumentTexts` : the arguments as they are read.
* `ParseError.atOffset` : an error at an offset of the trimmed expression.

## Main results

* `CallParts.exists_of`, `CallParts.Of.unique` : segments whose call has an opening parenthesis have
  parts, and no others.
* `exists_of_or_parseCall_eq` : an expression without parts is reported.
* `CallParts.Of.parseCall_eq` : what the reader makes of the parts.
* `CallParts.Of.eq_append_of_arguments_eq` : an argument with what stands before and behind it.
-/

namespace PageMigration

open Chars (byteLength isBlank)

namespace Expression

/-! ### Segments up to a delimiter -/

/-- What stands before a delimiter, with the delimiter, or nothing. -/
def upTo (sep : Char) (front : Option (List Segment)) : List Segment :=
  (front.map (· ++ [.plain sep])).getD []

@[simp] theorem upTo_none (sep : Char) : upTo sep none = [] := rfl

@[simp] theorem upTo_some (sep : Char) (front : List Segment) :
    upTo sep (some front) = front ++ [.plain sep] := rfl

/-- Segments part at the first delimiter, if they have one. -/
theorem exists_upTo_append (sep : Char) (pieces : List Segment) : ∃ front rest,
    pieces = upTo sep front ++ rest ∧ (∀ f ∈ front, .plain sep ∉ f) ∧
      (front = none → .plain sep ∉ rest) := by
  by_cases h : .plain sep ∈ pieces
  · obtain ⟨front, rest, rfl, hfront⟩ := List.eq_append_cons_of_mem h
    exact ⟨some front, rest, by simp, by simpa using hfront, fun h => by cases h⟩
  · exact ⟨none, pieces, rfl, by simp, fun _ => h⟩

/-- The first delimiter parts segments in one way. -/
theorem upTo_append_inj {sep : Char} {f g : Option (List Segment)} {r s : List Segment}
    (h : upTo sep f ++ r = upTo sep g ++ s) (hf : ∀ x ∈ f, .plain sep ∉ x)
    (hg : ∀ x ∈ g, .plain sep ∉ x) (hr : f = none → .plain sep ∉ r)
    (hs : g = none → .plain sep ∉ s) : f = g ∧ r = s := by
  cases f with
  | none =>
      cases g with
      | none => exact ⟨rfl, h⟩
      | some b =>
          rw [upTo_none, List.nil_append] at h
          exact absurd (by simp [h]) (hr rfl)
  | some a =>
      cases g with
      | none =>
          rw [upTo_none, List.nil_append] at h
          exact absurd (by simp [← h]) (hs rfl)
      | some b =>
          simp only [upTo_some, List.append_assoc, List.singleton_append] at h
          have hsplit := congrArg (List.splitOn (.plain sep)) h
          rw [List.splitOn_append_cons_self_of_not_mem (hf a rfl),
            List.splitOn_append_cons_self_of_not_mem (hg b rfl)] at hsplit
          obtain rfl := (List.cons.inj hsplit).1
          exact ⟨rfl, (List.cons.inj (List.append_cancel_left h)).2⟩

/-- What stands behind a delimiter, with the delimiter, or nothing. -/
def startingAt (sep : Char) (behind : Option (List Segment)) : List Segment :=
  (behind.map (.plain sep :: ·)).getD []

@[simp] theorem startingAt_none (sep : Char) : startingAt sep none = [] := rfl

@[simp] theorem startingAt_some (sep : Char) (behind : List Segment) :
    startingAt sep (some behind) = .plain sep :: behind := rfl

/-- Segments part at the last delimiter, if they have one. -/
theorem exists_append_startingAt (sep : Char) (pieces : List Segment) : ∃ inner behind,
    pieces = inner ++ startingAt sep behind ∧ (∀ b ∈ behind, .plain sep ∉ b) ∧
      (behind = none → .plain sep ∉ inner) := by
  by_cases h : .plain sep ∈ pieces
  · obtain ⟨back, front, hreverse, hback⟩ :=
      List.eq_append_cons_of_mem (List.mem_reverse.mpr h)
    refine ⟨front.reverse, some back.reverse, ?_, by simpa using hback, fun h => by cases h⟩
    rw [← List.reverse_reverse pieces, hreverse]
    simp
  · exact ⟨pieces, none, by simp, by simp, fun _ => h⟩

theorem reverse_append_startingAt (sep : Char) (inner : List Segment)
    (behind : Option (List Segment)) :
    (inner ++ startingAt sep behind).reverse =
      upTo sep (behind.map List.reverse) ++ inner.reverse := by
  cases behind <;> simp

/-- The last delimiter parts segments in one way. -/
theorem append_startingAt_inj {sep : Char} {b c : Option (List Segment)} {x y : List Segment}
    (h : x ++ startingAt sep b = y ++ startingAt sep c) (hb : ∀ z ∈ b, .plain sep ∉ z)
    (hc : ∀ z ∈ c, .plain sep ∉ z) (hx : b = none → .plain sep ∉ x)
    (hy : c = none → .plain sep ∉ y) : x = y ∧ b = c := by
  have hreverse := congrArg List.reverse h
  rw [reverse_append_startingAt, reverse_append_startingAt] at hreverse
  obtain ⟨hbehind, hinner⟩ := upTo_append_inj hreverse (by simpa using hb) (by simpa using hc)
    (by simpa using hx) (by simpa using hy)
  exact ⟨List.reverse_injective hinner, Option.map_injective List.reverse_injective hbehind⟩

/-- Segments are pieces with commas between them, at least one. -/
theorem exists_intercalate_eq (pieces : List Segment) : ∃ arguments : List (List Segment),
    arguments ≠ [] ∧ [.plain ','].intercalate arguments = pieces ∧
      ∀ a ∈ arguments, .plain ',' ∉ a := by
  induction pieces with
  | nil => exact ⟨[[]], by simp⟩
  | cons piece rest ih =>
      obtain ⟨arguments, hne, rfl, hcomma⟩ := ih
      obtain ⟨first, arguments, rfl⟩ := List.exists_cons_of_ne_nil hne
      by_cases hpiece : piece = .plain ','
      · exact ⟨[] :: first :: arguments, by simp, by simp [hpiece], by simpa using hcomma⟩
      · refine ⟨(piece :: first) :: arguments, by simp, ?_, ?_⟩
        · cases arguments <;> rfl
        · simpa [Ne.symm hpiece] using hcomma

theorem intercalate_append_cons (front : List (List Segment)) (a : List Segment)
    (rest : List (List Segment)) :
    [.plain ','].intercalate (front ++ a :: rest) =
      front.flatMap (· ++ [.plain ',']) ++ (a ++ rest.flatMap (.plain ',' :: ·)) := by
  have hrest (a : List Segment) :
      [.plain ','].intercalate (a :: rest) = a ++ rest.flatMap (.plain ',' :: ·) := by
    induction rest generalizing a with
    | nil => simp
    | cons b rest ih => simp [List.intercalate_cons_cons, ih]
  induction front with
  | nil => exact hrest a
  | cons b front ih =>
      rw [List.cons_append, List.intercalate_cons_of_ne_nil (by simp), ih]
      simp

/-- Commas behind arguments are no literals. -/
theorem literals_flatMap_comma (front : List (List Segment)) :
    literals (front.flatMap (· ++ [.plain ','])) = literals front.flatten := by
  induction front with
  | nil => rfl
  | cons a front ih => simp [literals, ih]

/-! ### Outputs as they are read -/

/-- The name of an output as it is read. -/
def outputName (scope : Scope) : Option (List Segment) → String
  | some output => String.ofList (unbraced (protectedText output))
  | none => scope.property.getD selectorOutput

/-- The output and the call are read on the two sides of the first equality sign. -/
theorem outputAndCall_upTo_append (scope : Scope) {output : Option (List Segment)}
    {call : List Segment} (houtput : ∀ o ∈ output, .plain '=' ∉ o)
    (hnone : output = none → .plain '=' ∉ call) :
    outputAndCall scope (protectedText (upTo '=' output ++ call)) =
      (outputName scope output, protectedFrom (literals (upTo '=' output)).length call,
        byteLength (protectedText (upTo '=' output))) := by
  have hequals : ∀ k, '=' ∉ token k := notMem_token (by decide) (by decide)
  have hsize : ('=' : Char).utf8Size = 1 := rfl
  cases output with
  | none =>
      have hcut := Chars.cut?_eq_none (notMem_protectedFrom hequals (hnone rfl) 0)
      simp [outputAndCall, protectedText, hcut, outputName, literals, protectedFrom]
  | some output =>
      have hcut := Chars.cut?_append (protectedFrom (literals output).length call)
        (notMem_protectedFrom hequals (houtput output rfl) 0)
      simp [outputAndCall, protectedText, protectedFrom_append, protectedFrom, literals, hcut,
        outputName, hsize]

/-! ### Arguments as they are read -/

/-- Arguments as they are read, where `k` literals come before them. -/
def argumentTextsFrom (k : Nat) : List (List Segment) → List (List Char)
  | [] => []
  | a :: rest => protectedFrom k a :: argumentTextsFrom (k + (literals a).length) rest

/-- The text of an argument is found at the place of the argument. -/
theorem exists_of_argumentTextsFrom_eq {k : Nat} {arguments : List (List Segment)}
    {before after : List (List Char)} {raw : List Char}
    (h : argumentTextsFrom k arguments = before ++ raw :: after) :
    ∃ front a rest, arguments = front ++ a :: rest ∧ argumentTextsFrom k front = before ∧
      protectedFrom (k + (literals front.flatten).length) a = raw := by
  induction arguments generalizing k before with
  | nil => simp [argumentTextsFrom] at h
  | cons a rest ih =>
      rw [argumentTextsFrom] at h
      cases before with
      | nil => exact ⟨[], a, rest, rfl, rfl, (List.cons.inj h).1⟩
      | cons b before =>
          obtain ⟨hb, h⟩ := List.cons.inj h
          obtain ⟨front, a', rest', rfl, hfront, hraw⟩ := ih h
          refine ⟨a :: front, a', rest', rfl, by rw [argumentTextsFrom, hfront, hb], ?_⟩
          simpa [Nat.add_assoc] using hraw

/-- The texts of arguments are found between the commas. -/
theorem splitOn_protectedFrom_intercalate (k : Nat) {arguments : List (List Segment)}
    (hne : arguments ≠ []) (hcomma : ∀ a ∈ arguments, .plain ',' ∉ a) :
    Chars.splitOn ',' (protectedFrom k ([.plain ','].intercalate arguments)) =
      argumentTextsFrom k arguments := by
  induction arguments generalizing k with
  | nil => exact absurd rfl hne
  | cons a rest ih =>
      rw [List.forall_mem_cons] at hcomma
      have ha : ',' ∉ protectedFrom k a :=
        notMem_protectedFrom (notMem_token (by decide) (by decide)) hcomma.1 k
      cases rest with
      | nil => rw [List.intercalate_singleton, Chars.splitOn_of_notMem ha]; rfl
      | cons b rest =>
          rw [List.intercalate_cons_cons, List.append_assoc, protectedFrom_append,
            List.singleton_append, protectedFrom, Chars.splitOn_append _ ha,
            ih _ (List.cons_ne_nil b rest) hcomma.2]
          rfl

/-- Literals are not blank in either text. -/
theorem blank_protectedFrom (k : Nat) (pieces : List Segment) :
    Chars.blank (protectedFrom k pieces) = Chars.blank (sourceText pieces) := by
  have hquote : isBlank '\'' = false := by decide
  induction pieces generalizing k with
  | nil => rfl
  | cons piece rest ih =>
      cases piece with
      | plain c =>
          rw [protectedFrom, sourceText_cons, Chars.blank_append, ← ih k, ← Chars.blank_append]
          rfl
      | literal body => simp [protectedFrom, token_eq, Segment.text, Chars.blank, hquote]

end Expression

open Expression

/-! ### Parts -/

/-- The parts of a call, with the segments as they are written. -/
structure CallParts where
  /-- What stands before the first equality sign, if there is one. -/
  output : Option (List Segment)
  /-- What stands before the first dot of the qualified name, if there is one. -/
  addOn : Option (List Segment)
  name : List Segment
  /-- The pieces between the commas. -/
  arguments : List (List Segment)
  /-- What stands behind the last closing parenthesis, if there is one. -/
  behind : Option (List Segment)

namespace CallParts

section Pieces

variable (p : CallParts)

/-- The output with its equality sign. -/
def outputPieces : List Segment := upTo '=' p.output

/-- The name with the add-on in front of it. -/
def qualifiedName : List Segment := upTo '.' p.addOn ++ p.name

/-- What stands between the parentheses. -/
def inner : List Segment := [.plain ','].intercalate p.arguments

/-- What follows the opening parenthesis. -/
def afterOpen : List Segment := p.inner ++ startingAt ')' p.behind

/-- What follows the output. -/
def call : List Segment := p.qualifiedName ++ .plain '(' :: p.afterOpen

/-- What stands before the arguments. -/
def beforeArguments : List Segment := p.outputPieces ++ (p.qualifiedName ++ [.plain '('])

/-- What stands before the argument that follows some others. -/
def beforeArgument (front : List (List Segment)) : List Segment :=
  p.beforeArguments ++ front.flatMap (· ++ [.plain ','])

/-- What follows the argument before some others. -/
def behindArgument (rest : List (List Segment)) : List Segment :=
  rest.flatMap (.plain ',' :: ·) ++ startingAt ')' p.behind

/-- `p.Of pieces` says that `p` are the parts of `pieces`: each delimiter is the first one of its
kind in what follows the one before it, and the closing parenthesis the last one. -/
structure Of (pieces : List Segment) : Prop where
  pieces_eq : pieces = p.outputPieces ++ p.call
  output : ∀ output ∈ p.output, .plain '=' ∉ output
  noOutput : p.output = none → .plain '=' ∉ p.call
  opening : .plain '(' ∉ p.qualifiedName
  addOn : ∀ addOn ∈ p.addOn, .plain '.' ∉ addOn
  noAddOn : p.addOn = none → .plain '.' ∉ p.name
  arguments_ne_nil : p.arguments ≠ []
  arguments : ∀ a ∈ p.arguments, .plain ',' ∉ a
  behind : ∀ behind ∈ p.behind, .plain ')' ∉ behind
  noBehind : p.behind = none → .plain ')' ∉ p.inner

/-- The number of the literals before the name. -/
def literalsBeforeName : Nat := (literals p.outputPieces).length

/-- The number of the literals before the arguments. -/
def literalsBeforeArguments : Nat := (literals p.beforeArguments).length

/-- The qualified name as it is read. -/
def qualifiedNameText : List Char := Chars.trim (protectedFrom p.literalsBeforeName p.qualifiedName)

/-- The add-on as it is read. -/
def addOnText : List Char :=
  Chars.trim (protectedFrom p.literalsBeforeName (p.addOn.getD []))

/-- The name as it is read. -/
def nameText : List Char :=
  Chars.trim (protectedFrom (p.literalsBeforeName + (literals (p.addOn.getD [])).length) p.name)

/-- The arguments that a call has: none if there are only blanks between the parentheses. -/
def shown : List (List Segment) := if Chars.blank (sourceText p.inner) then [] else p.arguments

variable {p} in
theorem shown_eq_arguments {a : List Segment} (h : a ∈ p.shown) : p.shown = p.arguments := by
  rw [shown] at h ⊢
  split
  · next hblank =>
      rw [if_pos hblank] at h
      cases h
  · rfl

/-- The arguments as they are read. -/
def argumentTexts : List (List Char) := argumentTextsFrom p.literalsBeforeArguments p.shown

end Pieces

/-- **Parts of a call.** Segments have parts if an opening parenthesis follows their first equality
sign. -/
theorem exists_of {pieces call : List Segment} {output : Option (List Segment)}
    (hpieces : pieces = upTo '=' output ++ call) (houtput : ∀ o ∈ output, .plain '=' ∉ o)
    (hnone : output = none → .plain '=' ∉ call) (hopen : .plain '(' ∈ call) :
    ∃ p : CallParts, p.Of pieces := by
  obtain ⟨qualifiedName, afterOpen, rfl, hopening⟩ := List.eq_append_cons_of_mem hopen
  obtain ⟨addOn, name, rfl, haddOn, hnoAddOn⟩ := exists_upTo_append '.' qualifiedName
  obtain ⟨inner, behind, rfl, hbehind, hnoBehind⟩ := exists_append_startingAt ')' afterOpen
  obtain ⟨arguments, hne, rfl, harguments⟩ := exists_intercalate_eq inner
  exact ⟨⟨output, addOn, name, arguments, behind⟩, ⟨hpieces, houtput, hnone, hopening, haddOn,
    hnoAddOn, hne, harguments, hbehind, hnoBehind⟩⟩

/-- Segments have the parts of one call only. -/
theorem Of.unique {p q : CallParts} {pieces : List Segment} (h : p.Of pieces)
    (k : q.Of pieces) : p = q := by
  obtain ⟨houtput, hcall⟩ := upTo_append_inj (h.pieces_eq.symm.trans k.pieces_eq) h.output k.output
    h.noOutput k.noOutput
  have hopen : upTo '(' (some p.qualifiedName) ++ p.afterOpen =
      upTo '(' (some q.qualifiedName) ++ q.afterOpen := by
    simpa [call] using hcall
  obtain ⟨hname, hafter⟩ := upTo_append_inj hopen (by simpa using h.opening)
    (by simpa using k.opening) (fun h => by cases h) (fun h => by cases h)
  obtain ⟨haddOn, hname⟩ := upTo_append_inj (Option.some.inj hname) h.addOn k.addOn h.noAddOn
    k.noAddOn
  obtain ⟨hinner, hbehind⟩ := append_startingAt_inj hafter h.behind k.behind h.noBehind k.noBehind
  have harguments : p.arguments = q.arguments := by
    rw [← List.splitOn_intercalate _ h.arguments h.arguments_ne_nil,
      ← List.splitOn_intercalate _ k.arguments k.arguments_ne_nil]
    exact congrArg _ hinner
  cases p
  cases q
  simp_all

namespace Of

variable {p : CallParts} {pieces : List Segment} (h : p.Of pieces)

include h

/-- The output and the call are those of the parts. -/
theorem outputAndCall_eq (scope : Scope) :
    outputAndCall scope (protectedText pieces) =
      (outputName scope p.output, protectedFrom p.literalsBeforeName p.call,
        byteLength (protectedText p.outputPieces)) := by
  rw [h.pieces_eq]
  exact outputAndCall_upTo_append scope h.output h.noOutput

/-- The call opens behind the qualified name. -/
theorem cut?_call :
    Chars.cut? '(' (protectedFrom p.literalsBeforeName p.call) =
      some (protectedFrom p.literalsBeforeName p.qualifiedName,
        protectedFrom p.literalsBeforeArguments p.afterOpen) := by
  have hopen := notMem_protectedFrom (notMem_token (by decide) (by decide)) h.opening
    p.literalsBeforeName
  have hcount : p.literalsBeforeArguments =
      p.literalsBeforeName + (literals p.qualifiedName).length := by
    simp [literalsBeforeArguments, literalsBeforeName, beforeArguments, literals]
  rw [call, protectedFrom_append, protectedFrom, Chars.cut?_append _ hopen, hcount]

/-- The add-on and the name are those of the parts. -/
theorem addOnAndName_eq : addOnAndName p.qualifiedNameText = (p.addOnText, p.nameText) := by
  have hdot : ∀ k, '.' ∉ token k := notMem_token (by decide) (by decide)
  rw [qualifiedNameText, qualifiedName, addOnText, nameText]
  cases haddOn : p.addOn with
  | none =>
      have hcut : '.' ∉ Chars.trim (protectedFrom p.literalsBeforeName p.name) := fun hm =>
        notMem_protectedFrom hdot (h.noAddOn haddOn) _ ((Chars.trim_isInfix _).subset hm)
      simp [addOnAndName, Chars.cut?_eq_none hcut, protectedFrom, literals]
  | some addOn =>
      have hstart : '.' ∉ Chars.trimStart (protectedFrom p.literalsBeforeName addOn) :=
        Chars.notMem_trimStart (notMem_protectedFrom hdot (h.addOn addOn haddOn) _)
      simp [protectedFrom_append, protectedFrom,
        Chars.trim_append_cons _ _ (show isBlank '.' = false by decide), addOnAndName,
        Chars.cut?_append _ hstart]

/-- The arguments are those of the parts. -/
theorem argumentPieces_eq :
    argumentPieces (protectedFrom p.literalsBeforeArguments p.afterOpen) = p.argumentTexts := by
  have hclose : ∀ k, ')' ∉ token k := notMem_token (by decide) (by decide)
  have hsplit := splitOn_protectedFrom_intercalate p.literalsBeforeArguments h.arguments_ne_nil
    h.arguments
  have hread : (if Chars.blank (protectedFrom p.literalsBeforeArguments p.inner) then []
      else Chars.splitOn ',' (protectedFrom p.literalsBeforeArguments p.inner)) =
        p.argumentTexts := by
    rw [blank_protectedFrom, argumentTexts, shown]
    split
    · rfl
    · exact hsplit
  rw [← hread, afterOpen]
  cases hbehind : p.behind with
  | none =>
      have hcut := Chars.cutLast?_eq_none
        (notMem_protectedFrom hclose (h.noBehind hbehind) p.literalsBeforeArguments)
      simp [argumentPieces, hcut]
  | some behind =>
      have hcut := Chars.cutLast?_append (protectedFrom p.literalsBeforeArguments p.inner)
        (notMem_protectedFrom hclose (h.behind behind hbehind)
          (p.literalsBeforeArguments + (literals p.inner).length))
      simp [argumentPieces, protectedFrom_append, protectedFrom, hcut]

/-- An argument parts the segments into what is before it, itself, and what is behind it. -/
theorem eq_append_of_arguments_eq {front rest : List (List Segment)} {a : List Segment}
    (ha : p.arguments = front ++ a :: rest) :
    pieces = p.beforeArgument front ++ (a ++ p.behindArgument rest) := by
  rw [h.pieces_eq, call, afterOpen, inner, ha, intercalate_append_cons]
  simp [beforeArgument, behindArgument, beforeArguments]

theorem output_isInfix : p.output.getD [] <:+: pieces := by
  rw [h.pieces_eq, outputPieces]
  cases p.output with
  | none => exact List.nil_infix
  | some output => exact ⟨[], .plain '=' :: p.call, by simp⟩

theorem qualifiedName_isInfix : p.qualifiedName <:+: pieces :=
  ⟨p.outputPieces, .plain '(' :: p.afterOpen, by rw [h.pieces_eq, call, List.append_assoc]⟩

theorem addOn_isInfix : p.addOn.getD [] <:+: pieces := by
  refine List.IsInfix.trans ?_ h.qualifiedName_isInfix
  rw [qualifiedName]
  cases p.addOn with
  | none => exact List.nil_infix
  | some addOn => exact ⟨[], .plain '.' :: p.name, by simp⟩

theorem name_isInfix : p.name <:+: pieces :=
  (List.suffix_append _ _).isInfix.trans h.qualifiedName_isInfix

/-- The literals up to an argument are among those of all the segments. -/
theorem literals_argument_le {front rest : List (List Segment)} {a : List Segment}
    (ha : p.arguments = front ++ a :: rest) :
    p.literalsBeforeArguments + (literals front.flatten).length + (literals a).length ≤
      (literals pieces).length := by
  rw [h.eq_append_of_arguments_eq ha, beforeArgument, literals_append, literals_append,
    literals_append, literals_flatMap_comma, literalsBeforeArguments]
  simp only [List.length_append]
  omega

theorem literals_shown_le :
    p.literalsBeforeArguments + (literals p.shown.flatten).length ≤ (literals pieces).length := by
  obtain ⟨front, a, ha⟩ := List.eq_nil_or_concat p.arguments |>.resolve_left h.arguments_ne_nil
  have hle := h.literals_argument_le (ha.trans (List.concat_eq_append ..))
  rw [shown]
  split
  · simp only [List.flatten_nil, literals, List.length_nil]
    omega
  · rw [ha, List.concat_eq_append, List.flatten_append, literals_append, List.flatten_singleton,
      List.length_append, ← Nat.add_assoc]
    exact hle

theorem argument_isInfix {a : List Segment} (ha : a ∈ p.arguments) : a <:+: pieces := by
  obtain ⟨front, rest, harguments⟩ := List.append_of_mem ha
  exact ⟨p.beforeArgument front, p.behindArgument rest, by
    rw [h.eq_append_of_arguments_eq harguments, List.append_assoc]⟩

end Of

end CallParts

/-! ### Parts are read -/

/-- An error at an offset of the trimmed expression. -/
def ParseError.atOffset (expression : String) (fault : ParseFault) (offset : Nat) : ParseError where
  fault
  position := byteLength (expression.toList.takeWhile isBlank) + offset
  context := String.ofList (expression.toList.take 40)

/-- An expression has parts, or its call has no opening parenthesis and the end of the trimmed
expression is reported. -/
theorem exists_of_or_parseCall_eq (expression : String) :
    (∃ p : CallParts, p.Of (segments (Chars.trim expression.toList))) ∨
      ∀ scope, parseCall scope expression = .error (.atOffset expression
        (.missingParenthesis (Text.trim expression))
        (byteLength (Chars.trim expression.toList))) := by
  obtain ⟨output, call, hpieces, houtput, hnone⟩ :=
    exists_upTo_append '=' (segments (Chars.trim expression.toList))
  by_cases hopen : .plain '(' ∈ call
  · exact Or.inl (CallParts.exists_of hpieces houtput hnone hopen)
  · refine Or.inr fun scope => ?_
    have hcut := Chars.cut?_eq_none
      (notMem_protectedFrom (notMem_token (by decide) (by decide)) hopen
        (literals (upTo '=' output)).length)
    have hend := originalOffset_spans (upTo '=' output ++ call) []
    rw [List.append_nil, ← hpieces, sourceText_segments, hpieces, protectedText,
      protectedFrom_append, Chars.byteLength_append, ← protectedText, Nat.zero_add] at hend
    simp only [parseCall, hpieces, outputAndCall_upTo_append scope houtput hnone, hcut, hend]
    rfl

/-- **Parts are read.** What the reader makes of an expression, by its parts. -/
theorem CallParts.Of.parseCall_eq {p : CallParts} {expression : String}
    (h : p.Of (segments (Chars.trim expression.toList))) (scope : Scope) :
    parseCall scope expression =
      if p.nameText = [] then
        .error (.atOffset expression .emptyFunctionName (byteLength (sourceText p.outputPieces)))
      else
        match bindArguments scope (literals (segments (Chars.trim expression.toList))) 0
            (byteLength (protectedText p.beforeArguments)) p.argumentTexts with
        | .ok inputs =>
            .ok { addOn := String.ofList p.addOnText, name := String.ofList p.nameText,
                  output := outputName scope p.output, inputs }
        | .error (parameter, offset) =>
            .error (.atOffset expression
              (.undeclaredParameter parameter (String.ofList p.qualifiedNameText)
                scope.unit.typeName)
              (originalOffset (spans (segments (Chars.trim expression.toList))) offset)) := by
  have hoffset := originalOffset_spans p.outputPieces p.call
  rw [← h.pieces_eq] at hoffset
  have hopen : ('(' : Char).utf8Size = 1 := rfl
  have harguments : byteLength (protectedText p.outputPieces) +
      byteLength (protectedFrom p.literalsBeforeName p.qualifiedName) + 1 =
        byteLength (protectedText p.beforeArguments) := by
    simp [CallParts.beforeArguments, protectedText, protectedFrom_append, protectedFrom, hopen,
      CallParts.literalsBeforeName, Nat.add_assoc]
  have hname := h.addOnAndName_eq
  rw [CallParts.qualifiedNameText] at hname ⊢
  simp only [parseCall, h.outputAndCall_eq scope, h.cut?_call, hname, h.argumentPieces_eq, hoffset,
    harguments, List.isEmpty_iff]
  rfl

end PageMigration
