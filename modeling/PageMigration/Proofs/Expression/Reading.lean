import PageMigration.Proofs.Expression.Binding
import PageMigration.Proofs.Expression.Written

/-!
# Reading of written calls

Reading a written call gives back what it means.  Its literals are put behind tokens one by one,
and since neither names nor tokens nor blanks hold a delimiter, the first equality sign, the first
opening parenthesis, the last closing one and the commas of the protected text are those of the
call.

## Main definitions

* `WrittenArgument.segments`, `WrittenArgument.protectedText` : an argument behind its token.
* `protectedPieces` : the pieces between the commas of a protected text.

## Main results

* `WrittenArguments.argumentPieces_eq` : the pieces of the protected text are the arguments.
* `bindArguments_protectedPieces` : the pieces are bound to the inputs that are meant.
* `WrittenCall.parseCall_of_binds` : a call is read where its names are bound.
* `WrittenCall.parseCall_text` : reading undoes writing.
-/

namespace PageMigration

open Expression

/-! ### Arguments behind tokens -/

namespace WrittenArgument

/-- The segments that an argument is read into. -/
def segments : WrittenArgument → List Segment
  | placeholder name => (braced name).map .plain
  | bare name => name.chars.map .plain
  | literal body _ => [.literal body]

/-- The text of an argument in which the token of a number stands for a literal. -/
def protectedText (k : Nat) : WrittenArgument → List Char
  | placeholder name => braced name
  | bare name => name.chars
  | literal .. => token k

/-- The texts of the literals in an argument. -/
def bodies : WrittenArgument → List (List Char)
  | literal body _ => [body]
  | _ => []

end WrittenArgument

theorem notMem_braced (name : Padded PlainName) {c : Char} (hc : c ∈ '\'' :: separators) :
    c ∉ braced name := by
  obtain ⟨hc, ho, hk⟩ := mem_delimiters_of_mem hc
  have h : c ∉ name.text PlainName.chars := Padded.notMem_text hc (name.core.plain.notMem hc)
  simp [braced, ho, hk, h]

namespace WrittenArgument

variable (a : WrittenArgument)

theorem splits : Splits a.text a.segments := by
  cases a with
  | placeholder name => exact splits_of_notMem (notMem_braced name (by decide))
  | bare name => exact splits_of_notMem (name.plain.notMem (by decide))
  | literal body h => exact splits_literal h

theorem literals_segments : literals a.segments = a.bodies := by
  cases a <;> simp [segments, bodies, literals]

theorem protectedFrom_segments (k : Nat) : protectedFrom k a.segments = a.protectedText k := by
  cases a <;> simp [segments, protectedText, protectedFrom]

/-- An argument holds no separators once its literal is behind a token. -/
theorem notMem_protectedText (k : Nat) {c : Char} (hc : c ∈ separators) :
    c ∉ a.protectedText k := by
  cases a with
  | placeholder name => exact notMem_braced name (List.mem_cons_of_mem _ hc)
  | bare name => exact name.plain.notMem (mem_delimiters_of_mem (List.mem_cons_of_mem _ hc)).1
  | literal body h =>
      intro hm
      have hall : separators.all (fun c => c ≠ '\'' && !c.isAlphanum) := by decide
      have hc := List.all_eq_true.mp hall c hc
      rcases of_mem_token hm with rfl | hd
      · simp at hc
      · simp [hd] at hc

end WrittenArgument

namespace Padded

variable (a : Padded WrittenArgument)

/-- The segments of an argument with the blanks around it. -/
def segments : List Segment :=
  a.before.chars.map .plain ++ a.core.segments ++ a.after.chars.map .plain

theorem splits : Splits (a.text WrittenArgument.text) a.segments :=
  ((splits_of_notMem (a.before.plain.notMem (by decide))).append a.core.splits).append
    (splits_of_notMem (a.after.plain.notMem (by decide)))

theorem literals_segments : literals a.segments = a.core.bodies := by
  simp [segments, a.core.literals_segments]

theorem protectedFrom_segments (k : Nat) :
    protectedFrom k a.segments = a.text (WrittenArgument.protectedText k) := by
  simp [segments, protectedFrom_append, a.core.protectedFrom_segments, text]

end Padded

/-- The pieces between the commas of the protected text of arguments, with tokens numbered from
`k`. -/
def protectedPieces (k : Nat) : List (Padded WrittenArgument) → List (List Char)
  | [] => []
  | a :: rest =>
      a.text (WrittenArgument.protectedText k) :: protectedPieces (k + a.core.bodies.length) rest

theorem notMem_of_mem_protectedPieces {k : Nat} {args : List (Padded WrittenArgument)}
    {piece : List Char} (h : piece ∈ protectedPieces k args) {c : Char} (hc : c ∈ separators) :
    c ∉ piece := by
  induction args generalizing k with
  | nil => cases h
  | cons a rest ih =>
      rcases List.mem_cons.mp h with rfl | h
      · exact Padded.notMem_text (mem_delimiters_of_mem (List.mem_cons_of_mem _ hc)).1
          (a.core.notMem_protectedText k hc)
      · exact ih h

/-! ### Segments of argument lists -/

/-- The segments of arguments that follow another one. -/
def restSegments (rest : List (Padded WrittenArgument)) : List Segment :=
  rest.flatMap fun a => .plain ',' :: a.segments

section RestSegments

variable (rest : List (Padded WrittenArgument))

theorem splits_rest :
    Splits (rest.flatMap fun a => ',' :: a.text WrittenArgument.text) (restSegments rest) := by
  induction rest with
  | nil => exact splits_nil
  | cons a rest ih =>
      have hcomma : Splits [','] [.plain ','] := splits_of_notMem (by decide)
      simpa [restSegments] using (hcomma.append a.splits).append ih

theorem literals_restSegments :
    literals (restSegments rest) = rest.flatMap fun a => a.core.bodies := by
  induction rest with
  | nil => rfl
  | cons a rest ih =>
      rw [restSegments, List.flatMap_cons, List.flatMap_cons, ← restSegments, List.cons_append,
        literals, literals_append, a.literals_segments, ih]

theorem protectedFrom_restSegments (k : Nat) :
    protectedFrom k (restSegments rest) = (protectedPieces k rest).flatMap (',' :: ·) := by
  induction rest generalizing k with
  | nil => rfl
  | cons a rest ih =>
      rw [restSegments, List.flatMap_cons, ← restSegments, List.cons_append, protectedFrom,
        protectedFrom_append, a.protectedFrom_segments, a.literals_segments, ih]
      rfl

end RestSegments

namespace WrittenArguments

variable (args : WrittenArguments)

/-- The segments that arguments are read into. -/
def segments : WrittenArguments → List Segment
  | none blanks => blanks.chars.map .plain
  | list first rest => first.segments ++ restSegments rest

theorem splits : Splits args.text args.segments := by
  cases args with
  | none blanks => exact splits_of_notMem (blanks.plain.notMem (by decide))
  | list first rest => exact first.splits.append (splits_rest rest)

theorem literals_segments :
    literals args.segments = args.padded.flatMap fun a => a.core.bodies := by
  cases args with
  | none blanks => simp [segments, padded]
  | list first rest =>
      rw [segments, literals_append, first.literals_segments, literals_restSegments, padded,
        List.flatMap_cons]

/-- Arguments hold no separators but commas once their literals are behind tokens. -/
theorem notMem_protectedFrom_segments {c : Char} (hc : c ∈ separators) (hcomma : c ≠ ',') :
    c ∉ protectedFrom 0 args.segments := by
  have hdelimiter := (mem_delimiters_of_mem (List.mem_cons_of_mem _ hc)).1
  cases args with
  | none blanks => simpa [segments] using blanks.plain.notMem hdelimiter
  | list first rest =>
      rw [segments, protectedFrom_append, first.protectedFrom_segments, protectedFrom_restSegments]
      intro hm
      rcases List.mem_append.mp hm with hm | hm
      · exact Padded.notMem_text hdelimiter (first.core.notMem_protectedText 0 hc) hm
      · obtain ⟨piece, hpiece, hm⟩ := List.mem_flatMap.mp hm
        rcases List.mem_cons.mp hm with rfl | hm
        · exact hcomma rfl
        · exact notMem_of_mem_protectedPieces hpiece hc hm

end WrittenArguments

/-! ### Arguments are read -/

/-- An argument is not blank. -/
theorem WrittenArgument.not_blank_protectedText (a : WrittenArgument) (k : Nat) :
    Chars.blank (a.protectedText k) = false := by
  rw [Bool.eq_false_iff]
  intro h
  cases a with
  | placeholder name => exact Chars.notMem_of_blank h (c := '\x7b') (by decide) List.mem_cons_self
  | bare name => exact name.ne_nil (by rw [← name.trim_eq]; exact Chars.trim_of_blank h)
  | literal body hbody =>
      exact Chars.notMem_of_blank h (c := '\'') (by decide) (by simp [protectedText, token_eq])

/-- **Arguments between commas.** The pieces of the protected text are the arguments. -/
theorem WrittenArguments.argumentPieces_eq (args : WrittenArguments) :
    argumentPieces (protectedFrom 0 args.segments ++ [')']) = protectedPieces 0 args.padded := by
  have hcut : Chars.cutLast? ')' (protectedFrom 0 args.segments ++ [')']) =
      some (protectedFrom 0 args.segments, []) := Chars.cutLast?_append _ List.not_mem_nil
  simp only [argumentPieces, hcut]
  cases args with
  | none blanks =>
      rw [segments, protectedFrom_map_plain, if_pos blanks.blank]
      rfl
  | list first rest =>
      have hpieces {piece : List Char}
          (h : piece ∈ protectedPieces 0 (first :: rest)) : ',' ∉ piece :=
        notMem_of_mem_protectedPieces h (by decide)
      rw [segments, protectedFrom_append, first.protectedFrom_segments, first.literals_segments,
        protectedFrom_restSegments, if_neg, Chars.splitOn_flatMap]
      · rfl
      · exact hpieces List.mem_cons_self
      · exact fun piece h => hpieces (List.mem_cons_of_mem _ h)
      · simp [Padded.text, Chars.blank_append, first.core.not_blank_protectedText]

/-- A name that is bound at all is bound to the input that it means. -/
theorem bind?_eq_some_input {scope : Scope} {name : String} (h : (bind? scope name).isSome) :
    bind? scope name = some (scope.input name) := by
  have hbound := bind?_isSome_iff.mp h
  rw [bind?, Scope.input]
  cases hfind : findProperty? scope.declared name with
  | some d => rfl
  | none => simp_all

theorem trim_braced (name : Padded PlainName) : Chars.trim (braced name) = braced name :=
  Chars.trim_cons_concat _ (by decide) (by decide)

theorem trim_token (k : Nat) : Chars.trim (token k) = token k :=
  Chars.trim_cons_concat ("StaticParameter".toList ++ Nat.toDigits 10 k) (by decide) (by decide)

/-- A text without delimiters has no braces that could be taken off. -/
theorem Plain.filter_eq {s : List Char} (h : Plain s) :
    s.filter (fun c => c ≠ '\x7b' && c ≠ '\x7d') = s := by
  refine List.filter_eq_self.mpr fun c hc => ?_
  have ho : c ≠ '\x7b' := fun he => h.notMem (by decide) (he ▸ hc)
  have hk : c ≠ '\x7d' := fun he => h.notMem (by decide) (he ▸ hc)
  simp [ho, hk]

/-- Blanks around a text do not matter to what is left without braces. -/
theorem unbraced_blank_append_blank {a b : List Char} (s : List Char) (ha : Chars.blank a)
    (hb : Chars.blank b) : unbraced (a ++ s ++ b) = unbraced s := by
  rw [unbraced, List.filter_append, List.filter_append, (plain_of_blank ha).filter_eq,
    (plain_of_blank hb).filter_eq, Chars.trim_append_blank hb, Chars.trim_blank_append ha, unbraced]

theorem unbraced_trimStart (s : List Char) : unbraced (Chars.trimStart s) = unbraced s := by
  have h := unbraced_blank_append_blank (Chars.trimStart s) (Chars.blank_takeWhile s)
    Chars.blank_nil
  rw [List.append_nil, Chars.trimStart, List.takeWhile_append_dropWhile] at h
  exact h.symm

/-- Braces and the blanks inside them are taken off a name. -/
theorem unbraced_braced (name : Padded PlainName) : unbraced (braced name) = name.core.chars := by
  have hbraces : unbraced (braced name) = unbraced (name.text PlainName.chars) := by
    simp [unbraced, braced]
  rw [hbraces, Padded.text, unbraced_blank_append_blank _ name.before.blank name.after.blank,
    unbraced, name.core.plain.filter_eq, name.core.trim_eq]

/-- The form in which a written argument is found, where `all` are the literals of the call. -/
theorem argumentForm_trim_text (a : Padded WrittenArgument) (k : Nat) (all : List (List Char)) :
    argumentForm all (Chars.trim (a.text (WrittenArgument.protectedText k))) =
      match a.core with
      | .placeholder name => .placeholder (String.ofList name.core.chars)
      | .bare name => .placeholder (String.ofList name.chars)
      | .literal _ _ =>
          .literal (String.ofList (all[k]?.getD (Chars.trimWhere (· == '\'') (token k)))) := by
  rw [a.trim_text]
  cases a.core with
  | placeholder name =>
      have ho : '\x7b' ∈ braced name := by simp [braced]
      have hk : '\x7d' ∈ braced name := by simp [braced]
      simp [WrittenArgument.protectedText, trim_braced, argumentForm, ho, hk, unbraced_braced]
  | bare name =>
      have ho : '\x7b' ∉ name.chars := name.plain.notMem (by decide)
      have hq : '\'' ∉ name.chars := name.plain.notMem (by decide)
      simp [WrittenArgument.protectedText, name.trim_eq, argumentForm, ho, hq]
  | literal body h =>
      have ho : '\x7b' ∉ token k := fun hm => by
        rcases of_mem_token hm with h | h <;> revert h <;> decide
      have hq : '\'' ∈ token k := by simp [token_eq]
      have htoken := literalOfToken?_token 0 k all
      rw [Nat.zero_add] at htoken
      simp [WrittenArgument.protectedText, trim_token, argumentForm, ho, hq, htoken]

/-- The inputs that arguments mean in a scope, where `k` literals come before the first one. -/
def inputsFrom (scope : Scope) (k : Nat) : List WrittenArgument → List CallInput
  | [] => []
  | a :: rest => a.input scope k :: inputsFrom scope (k + if a.isLiteral then 1 else 0) rest

theorem inputsFrom_eq_mapIdx (scope : Scope) (k : Nat) (args : List WrittenArgument) :
    inputsFrom scope k args = args.mapIdx fun i a =>
      a.input scope (k + (args.take i).countP WrittenArgument.isLiteral) := by
  induction args generalizing k with
  | nil => rfl
  | cons a rest ih =>
      rw [inputsFrom, ih, List.mapIdx_cons]
      simp only [List.take_zero, List.take_succ_cons, List.countP_nil, List.countP_cons,
        Nat.add_zero, Nat.add_assoc, Nat.add_comm (List.countP WrittenArgument.isLiteral _)]

/-- **Arguments are bound.** The pieces of written arguments are bound to the inputs that the
arguments mean, where `k` of the literals `all` come before them. -/
theorem bindArguments_protectedPieces {scope : Scope} {all : List (List Char)} {k : Nat}
    (offset : Nat) {args : List (Padded WrittenArgument)}
    (hbinds : ∀ a ∈ args, ∀ name ∈ a.core.name?, (bind? scope (String.ofList name.chars)).isSome)
    (hall : all.drop k = args.flatMap fun a => a.core.bodies) :
    bindArguments scope all k offset (protectedPieces k args) =
      .ok (inputsFrom scope k (args.map Padded.core)) := by
  induction args generalizing k offset with
  | nil => rfl
  | cons a rest ih =>
      rw [List.flatMap_cons] at hall
      rw [List.forall_mem_cons] at hbinds
      have ih (k offset) := ih (k := k) offset hbinds.2
      simp only [protectedPieces, bindArguments, argumentForm_trim_text, List.map_cons, inputsFrom]
      cases hcore : a.core with
      | placeholder name =>
          rw [hcore] at hall hbinds
          simp only [bind?_eq_some_input (hbinds.1 name.core rfl), WrittenArgument.bodies,
            List.length_nil, Nat.add_zero, ih k _ hall]
          rfl
      | bare name =>
          rw [hcore] at hall hbinds
          simp only [bind?_eq_some_input (hbinds.1 name rfl), WrittenArgument.bodies,
            List.length_nil, Nat.add_zero, ih k _ hall]
          rfl
      | literal body h =>
          rw [hcore] at hall
          have hbody : all[k]? = some body := by
            rw [← List.head?_drop, hall]
            rfl
          have hrest : all.drop (k + 1) = rest.flatMap fun a => a.core.bodies := by
            rw [← List.drop_drop, hall]
            rfl
          simp only [hbody, Option.getD_some, WrittenArgument.bodies, List.length_singleton,
            ih (k + 1) _ hrest]
          rfl

/-! ### Calls are read -/

namespace WrittenCall

variable (e : WrittenCall)

theorem quote_notMem_outputText : '\'' ∉ e.outputText := by
  rw [outputText]
  cases e.output with
  | none => exact List.not_mem_nil
  | some output =>
      have h : '\'' ∉ output.text braced := Padded.notMem_text (by decide)
        (notMem_braced output.core (by decide))
      simp [h]

/-- Of the delimiters the name of a function and its add-on hold the dot alone. -/
theorem notMem_nameText {c : Char} (hc : c ∈ delimiters) (hdot : c ≠ '.') : c ∉ e.nameText := by
  have hname : c ∉ e.name.text PlainName.chars :=
    Padded.notMem_text hc (e.name.core.plain.notMem hc)
  rw [nameText]
  cases e.addOn with
  | none => exact hname
  | some addOn =>
      have haddOn : c ∉ addOn.text PlainName.chars :=
        Padded.notMem_text hc (addOn.core.plain.notMem hc)
      simp [hname, haddOn, hdot]

/-- The add-on and the name are found in the text of the name. -/
theorem addOnAndName_trim_nameText :
    addOnAndName (Chars.trim e.nameText) =
      ((e.addOn.map fun addOn => addOn.core.chars).getD [], e.name.core.chars) := by
  have hname : Chars.trim (e.name.text PlainName.chars) = e.name.core.chars := by
    rw [e.name.trim_text, e.name.core.trim_eq]
  rw [nameText]
  cases e.addOn with
  | none =>
      have hdot : '.' ∉ e.name.core.chars := e.name.core.plain.notMem (by decide)
      simp [hname, addOnAndName, Chars.cut?_eq_none hdot]
  | some addOn =>
      have hdot : '.' ∉ Chars.trimStart (addOn.text PlainName.chars) :=
        Chars.notMem_trimStart <|
          Padded.notMem_text (by decide) (addOn.core.plain.notMem (by decide))
      simp [Chars.trim_append_cons _ _ (show Chars.isBlank '.' = false by decide), addOnAndName,
        Chars.cut?_append _ hdot, hname, addOn.trim_text, addOn.core.trim_eq]

/-- The text of a call without the blanks at its ends. -/
theorem trim_text :
    Chars.trim e.text = Chars.trimStart (e.outputText ++ e.nameText) ++ '(' :: e.arguments.text ++
      [')'] := by
  have hend : Chars.trimEnd (e.arguments.text ++ ')' :: e.after.chars) =
      e.arguments.text ++ [')'] := by
    have h := Chars.trimEnd_append_blank (a := e.arguments.text ++ [')']) e.after.blank
    rw [List.append_assoc, List.singleton_append] at h
    rw [h, Chars.trimEnd_concat _ (by decide)]
  rw [text, List.append_assoc, List.cons_append, Chars.trim_append_cons _ _ (by decide), hend]
  simp

/-- The segments of the text of a call. -/
theorem segments_trim_text :
    segments (Chars.trim e.text) =
      (Chars.trimStart (e.outputText ++ e.nameText) ++ ['(']).map .plain ++ e.arguments.segments ++
        [.plain ')'] := by
  have hhead : '\'' ∉ e.outputText ++ e.nameText := by
    rw [List.mem_append, not_or]
    exact ⟨e.quote_notMem_outputText, e.notMem_nameText (by decide) (by decide)⟩
  have hopen : '\'' ∉ Chars.trimStart (e.outputText ++ e.nameText) ++ ['('] := by
    simpa using Chars.notMem_trimStart hhead
  have hclose : Splits [')'] [.plain ')'] := splits_of_notMem (by decide)
  rw [trim_text, ← (((splits_of_notMem hopen).append e.arguments.splits).append
    hclose).segments_eq]
  simp

theorem protectedText_trim_text :
    protectedText (segments (Chars.trim e.text)) =
      Chars.trimStart (e.outputText ++ e.nameText) ++
        '(' :: (protectedFrom 0 e.arguments.segments ++ [')']) := by
  rw [segments_trim_text, protectedText, protectedFrom_append, protectedFrom_append,
    protectedFrom_map_plain, literals_map_plain]
  simp [protectedFrom]

theorem literals_trim_text :
    literals (segments (Chars.trim e.text)) =
      e.arguments.padded.flatMap fun a => a.core.bodies := by
  rw [segments_trim_text]
  simp [e.arguments.literals_segments, literals]

/-- The output and what follows it are found in the protected text. -/
theorem exists_outputAndCall_eq (scope : Scope) {rest : List Char} (hrest : '=' ∉ rest) :
    ∃ beforeOpen offset,
      outputAndCall scope (Chars.trimStart (e.outputText ++ e.nameText) ++ rest) =
        ((e.call scope).output, beforeOpen ++ rest, offset) ∧
      Chars.trim beforeOpen = Chars.trim e.nameText ∧ '(' ∉ beforeOpen := by
  have hname : '=' ∉ e.nameText := e.notMem_nameText (by decide) (by decide)
  have hopen : '(' ∉ e.nameText := e.notMem_nameText (by decide) (by decide)
  cases houtput : e.output with
  | none =>
      have hcut : Chars.cut? '=' (Chars.trimStart e.nameText ++ rest) = none := by
        refine Chars.cut?_eq_none ?_
        rw [List.mem_append, not_or]
        exact ⟨Chars.notMem_trimStart hname, hrest⟩
      refine ⟨Chars.trimStart e.nameText, 0, ?_, Chars.trim_trimStart _,
        Chars.notMem_trimStart hopen⟩
      simp [outputText, houtput, outputAndCall, hcut, call]
  | some output =>
      have heq : '=' ∉ Chars.trimStart (output.text braced) :=
        Chars.notMem_trimStart (Padded.notMem_text (by decide)
          (notMem_braced output.core (by decide)))
      have hunbraced :
          unbraced (Chars.trimStart (output.text braced)) = output.core.core.chars := by
        rw [unbraced_trimStart, Padded.text,
          unbraced_blank_append_blank _ output.before.blank output.after.blank, unbraced_braced]
      have hsplit : Chars.trimStart (e.outputText ++ e.nameText) ++ rest =
          Chars.trimStart (output.text braced) ++ '=' :: (e.nameText ++ rest) := by
        rw [outputText, houtput, List.append_assoc, List.singleton_append,
          Chars.trimStart_append_cons _ _ (by decide), List.append_assoc, List.cons_append]
      refine ⟨e.nameText, Chars.byteLength (Chars.trimStart (output.text braced)) + 1, ?_, rfl,
        hopen⟩
      simp [hsplit, outputAndCall, Chars.cut?_append _ heq, hunbraced, call, houtput]

end WrittenCall

/-- A written call is read as the call that it means if the scope binds the names in it. -/
theorem WrittenCall.parseCall_of_binds (e : WrittenCall) {scope : Scope}
    (hbinds : ∀ a ∈ e.arguments.padded, ∀ name ∈ a.core.name?,
      (bind? scope (String.ofList name.chars)).isSome) :
    parseCall scope (String.ofList e.text) = .ok (e.call scope) := by
  have hrest : '=' ∉ '(' :: (protectedFrom 0 e.arguments.segments ++ [')']) := by
    have h : '=' ∉ protectedFrom 0 e.arguments.segments :=
      e.arguments.notMem_protectedFrom_segments (by decide) (by decide)
    simp [h]
  obtain ⟨beforeOpen, offset, hout, htrim, hopen⟩ := e.exists_outputAndCall_eq scope hrest
  have hname : addOnAndName (Chars.trim beforeOpen) =
      ((e.addOn.map fun addOn => addOn.core.chars).getD [], e.name.core.chars) := by
    rw [htrim, e.addOnAndName_trim_nameText]
  have hargs : bindArguments scope (literals (segments (Chars.trim e.text))) 0
      (offset + Chars.byteLength beforeOpen + 1)
      (argumentPieces (protectedFrom 0 e.arguments.segments ++ [')'])) =
        .ok (e.inputs scope) := by
    rw [e.arguments.argumentPieces_eq, e.literals_trim_text,
      bindArguments_protectedPieces _ hbinds List.drop_zero, inputsFrom_eq_mapIdx]
    simp [inputs]
  rw [← e.protectedText_trim_text] at hout
  rw [parseCall_eq_ok_iff, String.toList_ofList]
  refine ⟨_, _, offset, beforeOpen, _, _, _, e.inputs scope, hout, Chars.cut?_append _ hopen, hname,
    e.name.core.ne_nil, hargs, ?_⟩
  cases haddOn : e.addOn <;> simp [call, haddOn]

/-- **Reading undoes writing.** For a loosely typed unit every written call is read as the call
that it means. -/
theorem WrittenCall.parseCall_text (e : WrittenCall) {scope : Scope}
    (hl : scope.unit.kind.isLooselyTyped) :
    parseCall scope (String.ofList e.text) = .ok (e.call scope) := by
  refine e.parseCall_of_binds fun a _ name _ => ?_
  exact bind?_isSome_iff.mpr (Or.inr hl)

/-- A call with an output, an add-on and an argument of each form, whose literal holds what takes
part in the syntax of calls elsewhere. -/
theorem WrittenCall.parseCall_text_of_each_form :
    let scope : Scope :=
      { property := some "Text"
        declared := [{ name := "Count", typeName := "integer" }]
        unit := { typeName := "Text", kind := .clientSide, properties := ⟨[("count", "7")]⟩ } }
    scope.unit.kind.isLooselyTyped ∧
      parseCall scope "\x7bOut\x7d = Kit.Join(\x7bCount\x7d, '=,\\'', Tail)" =
        .ok { addOn := "Kit", name := "Join", output := "Out"
              inputs :=
                [{ name := "Count", type := .integer, value := "7" },
                 { name := "Static_0", value := "=,\\'", isLiteral := true },
                 { name := "Tail" }] } := by
  intro scope
  have hl : scope.unit.kind.isLooselyTyped := rfl
  let blank : Blanks := { chars := [' '] }
  let e : WrittenCall :=
    { output := some { core := { core := { chars := "Out".toList } }, after := blank }
      addOn := some { before := blank, core := { chars := "Kit".toList } }
      name := { core := { chars := "Join".toList } }
      arguments := .list { core := .placeholder { core := { chars := "Count".toList } } }
        [{ before := blank
           core := .literal "=,\\'".toList <|
             .char (by decide) (by decide) <| .char (by decide) (by decide) <|
             .escape (by decide) .nil },
         { before := blank, core := .bare { chars := "Tail".toList } }] }
  have h := e.parseCall_text hl
  have htext : String.ofList e.text = "\x7bOut\x7d = Kit.Join(\x7bCount\x7d, '=,\\'', Tail)" := by
    decide
  rw [htext] at h
  refine ⟨hl, h.trans (congrArg Except.ok ?_)⟩
  decide

end PageMigration
