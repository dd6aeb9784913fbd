import PageMigration.Proofs.Expression.Binding

/-!
# Which expressions are calls

An expression is a call unless one of three things is wrong with it, of which the first one is
reported: its call has no opening parenthesis, there is no name in front of that, or an argument
refers to a name that a strict unit does not declare.  The rules of this verdict are stated of the
pieces of the text alone.  They cover every expression, and no expression by two of them.

## Main definitions

* `FollowsFirst`, `PrecedesLast`, `Separated` : a text and its pieces around separators.
* `Opens`, `ListsArguments` : the two sides of the first parenthesis of a call, and its arguments.
* `Scope.Undeclared` : the names that no declared property has.
* `Verdict` : the fault of an expression, or the number of inputs of the call that it is.

## Main results

* `listsArguments_iff` : the arguments of a call are found by the reader.
* `verdict_iff` : the reader comes to the verdict on an expression and to no other.
-/

namespace PageMigration

/-! ### Texts around separators -/

/-- `FollowsFirst sep s t` says that `t` is what follows the first separator in `s`, or all of `s`
where it has none. -/
inductive FollowsFirst (sep : Char) : List Char → List Char → Prop
  | whole {s : List Char} (h : sep ∉ s) : FollowsFirst sep s s
  | behind {a t : List Char} (h : sep ∉ a) : FollowsFirst sep (a ++ sep :: t) t

/-- `PrecedesLast sep s t` says that `t` is what stands before the last separator in `s`, or all of
`s` where it has none. -/
inductive PrecedesLast (sep : Char) : List Char → List Char → Prop
  | whole {s : List Char} (h : sep ∉ s) : PrecedesLast sep s s
  | before {t b : List Char} (h : sep ∉ b) : PrecedesLast sep (t ++ sep :: b) t

/-- `Separated sep s pieces` says that `s` consists of pieces without separators, with a separator
between any two of them. -/
inductive Separated (sep : Char) : List Char → List (List Char) → Prop
  | single {s : List Char} (h : sep ∉ s) : Separated sep s [s]
  | cons {a s : List Char} {pieces : List (List Char)} (h : sep ∉ a) (hs : Separated sep s pieces) :
      Separated sep (a ++ sep :: s) (a :: pieces)

section Separators

variable {sep : Char} {s t : List Char} {pieces : List (List Char)}

theorem followsFirst_iff : FollowsFirst sep s t ↔ ((Chars.cut? sep s).map Prod.snd).getD s = t := by
  constructor
  · rintro (h | h)
    · rw [Chars.cut?_eq_none h]
      rfl
    · rw [Chars.cut?_append _ h]
      rfl
  · rintro rfl
    by_cases hm : sep ∈ s
    · obtain ⟨a, b, rfl, ha⟩ := List.eq_append_cons_of_mem hm
      rw [Chars.cut?_append b ha]
      exact .behind ha
    · rw [Chars.cut?_eq_none hm]
      exact .whole hm

theorem precedesLast_iff :
    PrecedesLast sep s t ↔ ((Chars.cutLast? sep s).map Prod.fst).getD s = t := by
  constructor
  · rintro (h | h)
    · rw [Chars.cutLast?_eq_none h]
      rfl
    · rw [Chars.cutLast?_append _ h]
      rfl
  · rintro rfl
    cases hcut : Chars.cutLast? sep s with
    | none => exact .whole (Chars.cutLast?_eq_none_iff.mp hcut)
    | some sides =>
        obtain ⟨rfl, hb⟩ := Chars.cutLast?_eq_some_iff.mp hcut
        exact .before hb

theorem separated_splitOn (sep : Char) (s : List Char) : Separated sep s (Chars.splitOn sep s) := by
  by_cases hm : sep ∈ s
  · obtain ⟨a, b, hs, ha⟩ := List.eq_append_cons_of_mem hm
    have hshorter : b.length < s.length := by
      simp only [hs, List.length_append, List.length_cons]
      omega
    rw [hs, Chars.splitOn_append b ha]
    exact .cons ha (separated_splitOn sep b)
  · rw [Chars.splitOn_of_notMem hm]
    exact .single hm
termination_by s.length

/-- The pieces of a text are found by splitting it. -/
theorem separated_iff : Separated sep s pieces ↔ Chars.splitOn sep s = pieces := by
  refine ⟨fun h => ?_, fun h => h ▸ separated_splitOn sep s⟩
  induction h with
  | single h => exact Chars.splitOn_of_notMem h
  | cons h _ ih => rw [Chars.splitOn_append _ h, ih]

end Separators

/-! ### The pieces of a call -/

open Expression

/-- The text that an expression is taken apart by: without blanks at its ends, and with tokens in
place of its literals. -/
def Expression.syntaxText (expression : String) : List Char :=
  protectedText (segments (Chars.trim expression.toList))

/-- `Opens expression before after` says that the call of an expression, which follows the first
equality sign, has `before` and `after` on the two sides of its first opening parenthesis. -/
structure Opens (expression : String) (before after : List Char) : Prop where
  call : FollowsFirst '=' (syntaxText expression) (before ++ '(' :: after)
  first : '(' ∉ before

/-- `ListsArguments after args` says that `args` are the arguments of a call that goes on with
`after` behind its first opening parenthesis: the pieces between commas before the last closing
parenthesis, or none if there are only blanks. -/
inductive ListsArguments (after : List Char) : List (List Char) → Prop
  | none {inner : List Char} (hinner : PrecedesLast ')' after inner) (h : Chars.blank inner) :
      ListsArguments after []
  | some {inner : List Char} {args : List (List Char)} (hinner : PrecedesLast ')' after inner)
      (h : Chars.blank inner = false) (hargs : Separated ',' inner args) : ListsArguments after args

section Pieces

variable {expression : String} {before after name : List Char} {args : List (List Char)}

theorem followsFirst_outputAndCall (scope : Scope) (text : List Char) :
    FollowsFirst '=' text (outputAndCall scope text).2.1 := by
  rw [followsFirst_iff, outputAndCall]
  cases Chars.cut? '=' text <;> rfl

/-- The call of an expression opens where the reader cuts it. -/
theorem opens_iff (scope : Scope) : Opens expression before after ↔
    Chars.cut? '(' (outputAndCall scope (syntaxText expression)).2.1 = some (before, after) := by
  have hcall := followsFirst_iff.mp (followsFirst_outputAndCall scope (syntaxText expression))
  rw [Chars.cut?_eq_some_iff, ← hcall]
  exact ⟨fun h => ⟨followsFirst_iff.mp h.call, h.first⟩,
    fun h => ⟨followsFirst_iff.mpr h.1, h.2⟩⟩

/-- The arguments of a call are the pieces that the reader finds. -/
theorem listsArguments_iff : ListsArguments after args ↔ argumentPieces after = args := by
  have hpieces : argumentPieces after =
      if Chars.blank (((Chars.cutLast? ')' after).map Prod.fst).getD after) then []
      else Chars.splitOn ',' (((Chars.cutLast? ')' after).map Prod.fst).getD after) := by
    rw [argumentPieces]
    cases Chars.cutLast? ')' after <;> rfl
  rw [hpieces]
  constructor
  · rintro (⟨hprecedes, hblank⟩ | ⟨hprecedes, hblank, hargs⟩)
    · simp [precedesLast_iff.mp hprecedes, hblank]
    · simp [precedesLast_iff.mp hprecedes, hblank, separated_iff.mp hargs]
  · rintro rfl
    split
    · next hblank => exact .none (precedesLast_iff.mpr rfl) hblank
    · next hblank =>
        exact .some (precedesLast_iff.mpr rfl) (Bool.eq_false_iff.mpr hblank)
          (separated_splitOn ',' _)

/-- Blanks around a qualified name do not matter to the name behind its first dot. -/
theorem addOnAndName_snd (h : FollowsFirst '.' before name) :
    (addOnAndName (Chars.trim before)).2 = Chars.trim name := by
  cases h with
  | whole h =>
      have htrim : '.' ∉ Chars.trim before := fun hm => by
        obtain ⟨b, -, hbefore⟩ := Chars.exists_eq_append_trim before
        refine h ?_
        rw [hbefore]
        simp [hm]
      simp [addOnAndName, Chars.cut?_eq_none htrim]
  | behind h =>
      rw [Chars.trim_append_cons _ _ (by decide), addOnAndName,
        Chars.cut?_append _ (Chars.notMem_trimStart h)]
      exact Chars.trim_trimEnd name

end Pieces

/-! ### Verdicts -/

/-- The names that no declared property has, in any case. -/
def Scope.Undeclared (scope : Scope) (name : String) : Prop :=
  ∀ d ∈ scope.declared, Text.sameName d.name name = false

/-- `Verdict scope expression verdict` is the rule by which an expression has a fault or is a call
with a number of inputs. -/
inductive Verdict (scope : Scope) (expression : String) : Except ParseFault Nat → Prop
  /-- The call has no opening parenthesis. -/
  | missingParenthesis {call : List Char} (hcall : FollowsFirst '=' (syntaxText expression) call)
      (h : '(' ∉ call) :
      Verdict scope expression (.error (.missingParenthesis (Text.trim expression)))
  /-- What stands before the parenthesis, behind its first dot if there is one, is blank. -/
  | emptyFunctionName {before after name : List Char} (hopens : Opens expression before after)
      (hname : FollowsFirst '.' before name) (h : Chars.blank name) :
      Verdict scope expression (.error .emptyFunctionName)
  /-- The unit is strict, and the argument is the first one that refers to an undeclared name. -/
  | undeclaredParameter {before after name : List Char} {front rest : List (List Char)}
      {raw : List Char} {parameter : String} (hopens : Opens expression before after)
      (hname : FollowsFirst '.' before name) (hnamed : Chars.blank name = false)
      (hargs : ListsArguments after (front ++ raw :: rest))
      (hstrict : scope.unit.kind.isLooselyTyped = false)
      (hfront : ∀ a ∈ front, ∀ p ∈ reference? a, ¬ scope.Undeclared p)
      (hparameter : reference? raw = some parameter) (h : scope.Undeclared parameter) :
      Verdict scope expression (.error
        (.undeclaredParameter parameter (String.ofList (Chars.trim before)) scope.unit.typeName))
  /-- The unit is loosely typed, or no argument refers to an undeclared name. -/
  | call {before after name : List Char} {args : List (List Char)}
      (hopens : Opens expression before after) (hname : FollowsFirst '.' before name)
      (hnamed : Chars.blank name = false) (hargs : ListsArguments after args)
      (h : scope.unit.kind.isLooselyTyped ∨
        ∀ a ∈ args, ∀ p ∈ reference? a, ¬ scope.Undeclared p) :
      Verdict scope expression (.ok args.length)

/-- What the reader says of an expression: its fault, or the number of inputs of the call. -/
def verdictOf : Except ParseError FunctionCall → Except ParseFault Nat
  | .error e => .error e.fault
  | .ok call => .ok call.inputs.length

section Verdict

variable {scope : Scope} {expression : String}

/-- A scope refuses undeclared names for a strict unit. -/
theorem bind?_eq_none_iff {name : String} : bind? scope name = none ↔
    scope.unit.kind.isLooselyTyped = false ∧ scope.Undeclared name := by
  rw [← Option.not_isSome_iff_eq_none, bind?_isSome_iff, findProperty?_isSome_iff, not_or,
    Scope.Undeclared, and_comm, Bool.not_eq_true]
  simp

/-- A scope binds every argument for a loosely typed unit, and for a strict one those that do not
refer to an undeclared name. -/
theorem binds_iff {raw : List Char} : Binds scope raw ↔
    scope.unit.kind.isLooselyTyped ∨ ∀ p ∈ reference? raw, ¬ scope.Undeclared p := by
  have hname (name : String) : (bind? scope name).isSome ↔
      scope.unit.kind.isLooselyTyped ∨ ¬ scope.Undeclared name := by
    rw [Option.isSome_iff_ne_none, Ne, bind?_eq_none_iff, Classical.not_and_iff_not_or_not,
      Bool.not_eq_false]
  simp only [Binds, hname]
  by_cases hl : scope.unit.kind.isLooselyTyped <;> simp [hl]

/-- What the reader says where there is no parenthesis. -/
theorem verdictOf_of_notMem (scope : Scope) {call : List Char}
    (hcall : FollowsFirst '=' (syntaxText expression) call) (h : '(' ∉ call) :
    verdictOf (parseCall scope expression) =
      .error (.missingParenthesis (Text.trim expression)) := by
  have hout := followsFirst_iff.mp (followsFirst_outputAndCall scope (syntaxText expression))
  rw [followsFirst_iff.mp hcall, syntaxText] at hout
  simp only [parseCall, ← hout, Chars.cut?_eq_none h]
  rfl

/-- What the reader says where there is a parenthesis. -/
theorem exists_verdictOf_eq (scope : Scope) {before after name : List Char}
    (hopens : Opens expression before after) (hname : FollowsFirst '.' before name) :
    ∃ bodies offset, verdictOf (parseCall scope expression) =
      if Chars.blank name then .error .emptyFunctionName
      else
        match bindArguments scope bodies 0 offset (argumentPieces after) with
        | .ok inputs => .ok inputs.length
        | .error (parameter, _) => .error (.undeclaredParameter parameter
            (String.ofList (Chars.trim before)) scope.unit.typeName) := by
  have hcut := (opens_iff scope).mp hopens
  have hempty : (addOnAndName (Chars.trim before)).2.isEmpty = Chars.blank name := by
    rw [addOnAndName_snd hname, Bool.eq_iff_iff, List.isEmpty_iff, Chars.trim_eq_nil_iff]
  refine ⟨literals (segments (Chars.trim expression.toList)),
    (outputAndCall scope (syntaxText expression)).2.2 + Chars.byteLength before + 1, ?_⟩
  rw [syntaxText] at hcut ⊢
  simp only [parseCall, hcut, hempty]
  split
  · rfl
  · cases bindArguments scope (literals (segments (Chars.trim expression.toList))) 0
      ((outputAndCall scope (protectedText (segments (Chars.trim expression.toList)))).2.2 +
        Chars.byteLength before + 1) (argumentPieces after) <;> rfl

/-- The reader comes to the verdict on an expression. -/
theorem Verdict.verdictOf_eq {verdict : Except ParseFault Nat}
    (h : Verdict scope expression verdict) : verdictOf (parseCall scope expression) = verdict := by
  cases h with
  | missingParenthesis hcall h => exact verdictOf_of_notMem scope hcall h
  | emptyFunctionName hopens hname h =>
      obtain ⟨bodies, offset, hverdict⟩ := exists_verdictOf_eq scope hopens hname
      rw [hverdict, if_pos h]
  | undeclaredParameter hopens hname hnamed hargs hstrict hfront hparameter h =>
      obtain ⟨bodies, offset, hverdict⟩ := exists_verdictOf_eq scope hopens hname
      obtain ⟨position, hbind⟩ := exists_bindArguments_eq_error bodies
        (fun a ha => binds_iff.mpr (Or.inr (hfront a ha))) hparameter
        (bind?_eq_none_iff.mpr ⟨hstrict, h⟩) _ 0 offset
      rw [hverdict, hnamed, if_neg Bool.false_ne_true, listsArguments_iff.mp hargs, hbind]
  | call hopens hname hnamed hargs h =>
      obtain ⟨bodies, offset, hverdict⟩ := exists_verdictOf_eq scope hopens hname
      obtain ⟨inputs, hbind, hlength⟩ := exists_bindArguments_eq_ok bodies
        (fun a ha => binds_iff.mpr (h.imp_right fun h => h a ha)) 0 offset
      rw [hverdict, hnamed, if_neg Bool.false_ne_true, listsArguments_iff.mp hargs, hbind]
      exact congrArg Except.ok hlength

/-- What the reader says is a verdict. -/
theorem verdict_parseCall (scope : Scope) (expression : String) :
    Verdict scope expression (verdictOf (parseCall scope expression)) := by
  have hcall := followsFirst_outputAndCall scope (syntaxText expression)
  cases hcut : Chars.cut? '(' (outputAndCall scope (syntaxText expression)).2.1 with
  | none =>
      have hnone := Chars.cut?_eq_none_iff.mp hcut
      rw [verdictOf_of_notMem scope hcall hnone]
      exact .missingParenthesis hcall hnone
  | some sides =>
      obtain ⟨before, after⟩ := sides
      have hopens : Opens expression before after := (opens_iff scope).mpr hcut
      obtain ⟨name, hname⟩ : ∃ name, FollowsFirst '.' before name := ⟨_, followsFirst_iff.mpr rfl⟩
      obtain ⟨bodies, offset, hverdict⟩ := exists_verdictOf_eq scope hopens hname
      rw [hverdict]
      split
      · next hblank => exact .emptyFunctionName hopens hname hblank
      next hnamed =>
      rw [Bool.not_eq_true] at hnamed
      have hargs : ListsArguments after (argumentPieces after) := listsArguments_iff.mpr rfl
      rcases forall_binds_or_exists scope (argumentPieces after) with
        hbinds | ⟨front, raw, rest, parameter, hpieces, hfront, hparameter, hunbound⟩
      · obtain ⟨inputs, hbind, hlength⟩ := exists_bindArguments_eq_ok bodies hbinds 0 offset
        simp only [hbind, hlength]
        refine .call hopens hname hnamed hargs ?_
        by_cases hl : scope.unit.kind.isLooselyTyped
        · exact Or.inl hl
        · exact Or.inr fun a ha => (binds_iff.mp (hbinds a ha)).resolve_left hl
      · obtain ⟨hstrict, hundeclared⟩ := bind?_eq_none_iff.mp hunbound
        obtain ⟨position, hbind⟩ :=
          exists_bindArguments_eq_error bodies hfront hparameter hunbound rest 0 offset
        rw [hpieces] at hargs ⊢
        simp only [hbind]
        refine .undeclaredParameter hopens hname hnamed hargs hstrict (fun a ha => ?_) hparameter
          hundeclared
        exact (binds_iff.mp (hfront a ha)).resolve_left (by simp [hstrict])

/-- **The verdict on an expression.** The reader comes to the verdict on an expression and to no
other. -/
theorem verdict_iff {verdict : Except ParseFault Nat} :
    Verdict scope expression verdict ↔ verdictOf (parseCall scope expression) = verdict :=
  ⟨Verdict.verdictOf_eq, fun h => h ▸ verdict_parseCall scope expression⟩

end Verdict

end PageMigration
