import PageMigration.Expression.Parser

/-!
# Expressions and the scopes they are read in

A scope takes part in the reading of an expression in three ways only: it names the output where
the expression does not, it binds placeholders, and it lends the name of its unit to messages.  An
expression that is a call in one scope is one in every scope that binds as many names.

## Main definitions

* `Scope.Covers` : a scope that binds all names that another one binds.
* `Expression.reference?` : the name that an argument refers to.
* `Expression.Binds` : the arguments that a scope can bind.

## Main results

* `Expression.exists_bindArguments_eq_ok`, `Expression.bindArguments_eq_error` : arguments are
  bound, or the first one that cannot be bound is reported.
* `parseCall_eq_ok_iff` : the expressions that are calls.
* `parseCall_congr` : scopes in which all expressions mean the same.
* `exists_parseCall_of_covers` : a call stays a call while a scope grows.
-/

namespace PageMigration

open Expression

/-! ### Binding of names -/

namespace Expression

/-- A name is bound if it is declared or the unit does not ask for declarations. -/
theorem bind?_isSome_iff {scope : Scope} {name : String} :
    (bind? scope name).isSome ↔
      (findProperty? scope.declared name).isSome ∨ scope.unit.kind.isLooselyTyped := by
  simp only [bind?]
  cases findProperty? scope.declared name with
  | none => cases scope.unit.kind.isLooselyTyped <;> simp
  | some p => simp

/-- A declaration matters to a name by its type alone. -/
theorem bind?_congr {scope scope' : Scope} (hu : scope'.unit = scope.unit)
    (hd : ∀ name, (findProperty? scope'.declared name).map PropertyDefinition.type =
      (findProperty? scope.declared name).map PropertyDefinition.type) :
    bind? scope' = bind? scope := by
  funext name
  have h := hd name
  simp only [bind?, hu]
  cases hf : findProperty? scope.declared name with
  | none =>
      rw [hf] at h
      rw [Option.map_eq_none_iff.mp h]
  | some p =>
      rw [hf] at h
      obtain ⟨p', hp', ht⟩ := Option.map_eq_some_iff.mp h
      simp only [hp', ht]

theorem bindArguments_congr {scope scope' : Scope} (h : bind? scope' = bind? scope)
    (bodies : List (List Char)) (k offset : Nat) (args : List (List Char)) :
    bindArguments scope' bodies k offset args = bindArguments scope bodies k offset args := by
  induction args generalizing k offset with
  | nil => rfl
  | cons raw rest ih => simp only [bindArguments, h, ih]

end Expression

/-- `scope'.Covers scope` says that `scope'` is for the same property as `scope` and binds every
name that `scope` binds. -/
structure Scope.Covers (scope' scope : Scope) : Prop where
  property : scope'.property = scope.property
  binds : ∀ name, (bind? scope name).isSome → (bind? scope' name).isSome

/-! ### Arguments -/

namespace Expression

/-- The name that an argument refers to: what is left of it without braces if it has both of them,
or else its text.  A literal refers to none. -/
def reference? (raw : List Char) : Option String :=
  let arg := Chars.trim raw
  if '\x7b' ∈ arg ∧ '\x7d' ∈ arg then some (String.ofList (unbraced arg))
  else if '\'' ∈ arg then none
  else some (String.ofList arg)

/-- An argument that refers to a name is a placeholder of it. -/
theorem argumentForm_of_reference? {raw : List Char} {name : String}
    (h : reference? raw = some name) (bodies : List (List Char)) :
    argumentForm bodies (Chars.trim raw) = .placeholder name := by
  simp only [reference?] at h
  simp only [argumentForm, Bool.and_eq_true, List.contains_iff_mem]
  split at h
  · next hbraces => rw [if_pos hbraces, Option.some.inj h]
  · next hbraces =>
      split at h
      · cases h
      · next hquote => rw [if_neg hbraces, if_neg hquote, Option.some.inj h]

/-- Every other argument is a literal. -/
theorem exists_argumentForm_of_reference? {raw : List Char} (h : reference? raw = none)
    (bodies : List (List Char)) :
    ∃ value, argumentForm bodies (Chars.trim raw) = .literal value := by
  simp only [reference?] at h
  simp only [argumentForm, Bool.and_eq_true, List.contains_iff_mem]
  split at h
  · cases h
  · next hbraces =>
      split at h
      · next hquote => exact ⟨_, by rw [if_neg hbraces, if_pos hquote]⟩
      · cases h

/-- The arguments that a scope can bind: literals, and those that refer to a bound name. -/
def Binds (scope : Scope) (raw : List Char) : Prop :=
  ∀ name ∈ reference? raw, (bind? scope name).isSome

variable {scope : Scope} (bodies : List (List Char))

/-- Arguments that can all be bound are bound one by one. -/
theorem exists_bindArguments_eq_ok {args : List (List Char)} (h : ∀ raw ∈ args, Binds scope raw)
    (k offset : Nat) :
    ∃ inputs, bindArguments scope bodies k offset args = .ok inputs ∧
      inputs.length = args.length := by
  induction args generalizing k offset with
  | nil => exact ⟨[], rfl, rfl⟩
  | cons raw rest ih =>
      rw [List.forall_mem_cons] at h
      cases hname : reference? raw with
      | none =>
          obtain ⟨value, hform⟩ := exists_argumentForm_of_reference? hname bodies
          obtain ⟨inputs, hinputs, hlength⟩ :=
            ih h.2 (k + 1) (offset + Chars.byteLength raw + 1)
          let input : CallInput :=
            { name := "Static_" ++ toString k, value, isLiteral := true }
          exact ⟨input :: inputs, by simp [bindArguments, hform, hinputs, Except.map, input],
            by simp [hlength]⟩
      | some name =>
          have hform := argumentForm_of_reference? hname bodies
          obtain ⟨input, hinput⟩ := Option.isSome_iff_exists.mp (h.1 name hname)
          obtain ⟨inputs, hinputs, hlength⟩ := ih h.2 k (offset + Chars.byteLength raw + 1)
          exact ⟨input :: inputs, by simp [bindArguments, hform, hinput, hinputs, Except.map],
            by simp [hlength]⟩

/-- The first argument that cannot be bound is reported, where the blanks at its start end. -/
theorem bindArguments_eq_error {front : List (List Char)}
    (hfront : ∀ raw ∈ front, Binds scope raw) {raw : List Char} {name : String}
    (hname : reference? raw = some name) (hunbound : bind? scope name = none)
    (rest : List (List Char)) (k offset : Nat) :
    bindArguments scope bodies k offset (front ++ raw :: rest) =
      .error (name, offset + Chars.byteLength (front.flatMap (· ++ [','])) +
        Chars.byteLength (raw.takeWhile Chars.isBlank)) := by
  induction front generalizing k offset with
  | nil =>
      have hform := argumentForm_of_reference? hname bodies
      simp only [List.nil_append, List.flatMap_nil, bindArguments, hform, hunbound]
      rfl
  | cons first front ih =>
      rw [List.forall_mem_cons] at hfront
      have hcomma : Chars.byteLength [','] = 1 := rfl
      have ih (k : Nat) := ih hfront.2 k (offset + Chars.byteLength first + 1)
      rw [List.flatMap_cons, Chars.byteLength_append, Chars.byteLength_append, hcomma,
        ← Nat.add_assoc, ← Nat.add_assoc]
      cases hfirst : reference? first with
      | none =>
          obtain ⟨value, hform⟩ := exists_argumentForm_of_reference? hfirst bodies
          simp [bindArguments, hform, ih, Except.map]
      | some name' =>
          have hform := argumentForm_of_reference? hfirst bodies
          obtain ⟨input, hinput⟩ := Option.isSome_iff_exists.mp (hfront.1 name' hfirst)
          simp [bindArguments, hform, hinput, ih, Except.map]

theorem exists_bindArguments_eq_error {front : List (List Char)}
    (hfront : ∀ raw ∈ front, Binds scope raw) {raw : List Char} {name : String}
    (hname : reference? raw = some name) (hunbound : bind? scope name = none)
    (rest : List (List Char)) (k offset : Nat) :
    ∃ position, bindArguments scope bodies k offset (front ++ raw :: rest) =
      .error (name, position) :=
  ⟨_, bindArguments_eq_error bodies hfront hname hunbound rest k offset⟩

/-- All arguments can be bound, or there is a first one that cannot. -/
theorem forall_binds_or_exists (scope : Scope) (args : List (List Char)) :
    (∀ raw ∈ args, Binds scope raw) ∨
      ∃ front raw rest name, args = front ++ raw :: rest ∧ (∀ a ∈ front, Binds scope a) ∧
        reference? raw = some name ∧ bind? scope name = none := by
  induction args with
  | nil => exact Or.inl fun raw h => absurd h List.not_mem_nil
  | cons raw rest ih =>
      by_cases hbinds : Binds scope raw
      · rcases ih with h | ⟨front, raw', rest', name, rfl, hfront, hname, hunbound⟩
        · exact Or.inl (List.forall_mem_cons.mpr ⟨hbinds, h⟩)
        · exact Or.inr ⟨raw :: front, raw', rest', name, rfl,
            List.forall_mem_cons.mpr ⟨hbinds, hfront⟩, hname, hunbound⟩
      · cases hname : reference? raw with
        | none => exact absurd (fun name h => by rw [hname] at h; cases h) hbinds
        | some name =>
            have hunbound : bind? scope name = none := by
              cases hinput : bind? scope name with
              | none => rfl
              | some input =>
                  refine absurd (fun name' h => ?_) hbinds
                  rw [hname, Option.mem_some_iff] at h
                  rw [← h, hinput]
                  rfl
            exact Or.inr ⟨[], raw, rest, name, rfl, fun a h => absurd h List.not_mem_nil, hname,
              hunbound⟩

variable {bodies} in
/-- Arguments that can be bound stay so in a scope that binds more. -/
theorem exists_bindArguments_of_covers {scope' : Scope} (h : scope'.Covers scope) {k offset : Nat}
    {args : List (List Char)} {inputs : List CallInput}
    (ha : bindArguments scope bodies k offset args = .ok inputs) :
    ∃ inputs', bindArguments scope' bodies k offset args = .ok inputs' ∧
      inputs'.length = inputs.length := by
  rcases forall_binds_or_exists scope args with
    hbinds | ⟨front, raw, rest, name, rfl, hfront, hname, hunbound⟩
  · obtain ⟨inputs₀, hinputs, hlength⟩ := exists_bindArguments_eq_ok bodies hbinds k offset
    cases hinputs.symm.trans ha
    obtain ⟨inputs', hinputs', hlength'⟩ := exists_bindArguments_eq_ok bodies
      (fun raw hraw name hname => h.binds name (hbinds raw hraw name hname)) k offset
    exact ⟨inputs', hinputs', hlength'.trans hlength.symm⟩
  · obtain ⟨position, herror⟩ :=
      exists_bindArguments_eq_error bodies hfront hname hunbound rest k offset
    cases herror.symm.trans ha

end Expression

/-! ### Reading of expressions -/

/-- An expression is a call iff its text has an opening parenthesis with a name in front of it and
its arguments can be bound. -/
theorem parseCall_eq_ok_iff {scope : Scope} {expression : String} {call : FunctionCall} :
    parseCall scope expression = .ok call ↔
      ∃ output text callOffset beforeOpen afterOpen addOn name inputs,
        outputAndCall scope (protectedText (segments (Chars.trim expression.toList))) =
          (output, text, callOffset) ∧
        Chars.cut? '(' text = some (beforeOpen, afterOpen) ∧
        addOnAndName (Chars.trim beforeOpen) = (addOn, name) ∧ name ≠ [] ∧
        bindArguments scope (literals (segments (Chars.trim expression.toList))) 0
          (callOffset + Chars.byteLength beforeOpen + 1) (argumentPieces afterOpen) = .ok inputs ∧
        call = { addOn := String.ofList addOn, name := String.ofList name, output, inputs } := by
  rcases hout : outputAndCall scope (protectedText (segments (Chars.trim expression.toList))) with
    ⟨output, text, callOffset⟩
  simp only [parseCall, hout]
  cases hcut : Chars.cut? '(' text with
  | none => simp [hcut]
  | some sides =>
      obtain ⟨beforeOpen, afterOpen⟩ := sides
      rcases hname : addOnAndName (Chars.trim beforeOpen) with ⟨addOn, name⟩
      by_cases hempty : name = []
      · simp [hname, hempty, hcut]
      · cases hargs : bindArguments scope (literals (segments (Chars.trim expression.toList))) 0
            (callOffset + Chars.byteLength beforeOpen + 1) (argumentPieces afterOpen) with
        | error e => simp [hname, hempty, hcut, hargs]
        | ok inputs =>
            simp only [hname, List.isEmpty_iff, hempty, hargs, if_false]
            constructor
            · intro h
              exact ⟨output, text, callOffset, beforeOpen, afterOpen, addOn, name, inputs, rfl,
                hcut, hname, hempty, hargs, (Except.ok.inj h).symm⟩
            · rintro ⟨_, _, _, _, _, _, _, _, h, hcut', hname', -, hargs', rfl⟩
              cases h
              cases hcut.symm.trans hcut'
              cases hname.symm.trans hname'
              cases hargs.symm.trans hargs'
              rfl

/-- A scope names the output of an expression by its property alone. -/
theorem outputAndCall_congr {scope scope' : Scope} (h : scope'.property = scope.property)
    (text : List Char) : outputAndCall scope' text = outputAndCall scope text := by
  rw [outputAndCall, outputAndCall, h]

/-- All expressions mean the same in scopes that bind names to the same inputs. -/
theorem parseCall_congr {scope scope' : Scope} (hp : scope'.property = scope.property)
    (hu : scope'.unit = scope.unit) (hb : bind? scope' = bind? scope) (expression : String) :
    parseCall scope' expression = parseCall scope expression := by
  simp only [parseCall, outputAndCall, hp, hu, bindArguments_congr hb]

/-- **Calls in a growing scope.** A call stays a call of the same function with as many inputs in
every scope that binds the names of the first one. -/
theorem exists_parseCall_of_covers {scope scope' : Scope} (h : scope'.Covers scope)
    {expression : String} {call : FunctionCall} (hc : parseCall scope expression = .ok call) :
    ∃ call', parseCall scope' expression = .ok call' ∧ call'.addOn = call.addOn ∧
      call'.name = call.name ∧ call'.inputs.length = call.inputs.length := by
  obtain ⟨output, text, callOffset, beforeOpen, afterOpen, addOn, name, inputs, hout, hcut, hname,
    hne, hargs, rfl⟩ := parseCall_eq_ok_iff.mp hc
  obtain ⟨inputs', hargs', hlen⟩ := exists_bindArguments_of_covers h hargs
  have hout' := (outputAndCall_congr h.property _).trans hout
  exact ⟨_, parseCall_eq_ok_iff.mpr ⟨output, text, callOffset, beforeOpen, afterOpen, addOn, name,
    inputs', hout', hcut, hname, hne, hargs', rfl⟩, rfl, rfl, hlen⟩

end PageMigration
