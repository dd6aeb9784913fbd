import Mathlib.Data.List.Forall2
import PageMigration.Proofs.Expression.Binding

/-!
# Values take no part in the syntax

The values of a unit come into a call after its expression has been taken apart.  Two units of one
type and one kind therefore read every expression alike, whatever their values hold: they find the
same fault in it or the same call, in which each of them puts its own values behind the names.

## Main definitions

* `SameOutcome` : two results with the same error, or with related values.
* `CallInput.Alike`, `FunctionCall.Alike` : what the calls of two units have in common.

## Main results

* `Expression.bindArguments_alike` : arguments are bound alike for both units.
* `parseCall_alike` : expressions are read alike for both units.
-/

namespace PageMigration

open Expression

/-- `SameOutcome R x y` says that `x` and `y` fail with the same error, or are values that `R`
relates. -/
inductive SameOutcome {ε α β : Type} (R : α → β → Prop) : Except ε α → Except ε β → Prop
  | error (e : ε) : SameOutcome R (.error e) (.error e)
  | ok {a : α} {b : β} (h : R a b) : SameOutcome R (.ok a) (.ok b)

theorem SameOutcome.map {ε α β γ δ : Type} {R : α → β → Prop} {S : γ → δ → Prop} {f : α → γ}
    {g : β → δ} (hfg : ∀ a b, R a b → S (f a) (g b)) {x : Except ε α} {y : Except ε β}
    (h : SameOutcome R x y) : SameOutcome S (x.map f) (y.map g) := by
  cases h with
  | error e => exact .error e
  | ok h => exact .ok (hfg _ _ h)

/-- The value that a unit has for a name, or the empty text. -/
def ContentUnit.valueOf (unit : ContentUnit) (name : String) : String :=
  (unit.properties.get? name).getD ""

/-- What the inputs `a` of the unit `u` and `b` of the unit `v` have in common: they are the same
literal, or refer to the same name with one type, each with the value that its own unit has for
the name. -/
structure CallInput.Alike (u v : ContentUnit) (a b : CallInput) : Prop where
  name : b.name = a.name
  type : b.type = a.type
  isLiteral : b.isLiteral = a.isLiteral
  literal : a.isLiteral → b.value = a.value
  bound : a.isLiteral = false → a.value = u.valueOf a.name ∧ b.value = v.valueOf b.name

/-- What the calls `c` of the unit `u` and `d` of the unit `v` have in common: they are the same up
to the values of properties. -/
structure FunctionCall.Alike (u v : ContentUnit) (c d : FunctionCall) : Prop where
  addOn : d.addOn = c.addOn
  name : d.name = c.name
  output : d.output = c.output
  inputs : List.Forall₂ (CallInput.Alike u v) c.inputs d.inputs

section TwoUnits

variable {u v : ContentUnit}

theorem CallInput.alike_of_isLiteral {input : CallInput} (h : input.isLiteral) :
    CallInput.Alike u v input input where
  name := rfl
  type := rfl
  isLiteral := rfl
  literal _ := rfl
  bound hnot := absurd h (by simp [hnot])

variable (hkind : v.kind = u.kind) (property : Option String) (declared : List PropertyDefinition)
include hkind

namespace Expression

/-- A name is bound for both units or for none. -/
theorem bind?_alike (name : String) :
    Option.Rel (CallInput.Alike u v) (bind? ⟨property, declared, u⟩ name)
      (bind? ⟨property, declared, v⟩ name) := by
  have hsome (type : ValueType) :
      Option.Rel (CallInput.Alike u v) (some { name, type, value := u.valueOf name })
        (some { name, type, value := v.valueOf name }) := .some
    { name := rfl, type := rfl, isLiteral := rfl, literal := nofun, bound := fun _ => ⟨rfl, rfl⟩ }
  cases hfind : findProperty? declared name with
  | some p => simpa only [bind?, hfind, ContentUnit.valueOf] using hsome p.type
  | none =>
      cases hl : u.kind.isLooselyTyped with
      | true =>
          simpa only [bind?, hfind, hkind, hl, if_true, ContentUnit.valueOf] using hsome .string
      | false => simp [bind?, hfind, hkind, hl]

/-- **Arguments of two units.** The arguments of a call are bound alike for both units, and the
first one that cannot be bound is the same. -/
theorem bindArguments_alike (bodies : List (List Char)) (k offset : Nat)
    (args : List (List Char)) :
    SameOutcome (List.Forall₂ (CallInput.Alike u v))
      (bindArguments ⟨property, declared, u⟩ bodies k offset args)
      (bindArguments ⟨property, declared, v⟩ bodies k offset args) := by
  induction args generalizing k offset with
  | nil => exact .ok .nil
  | cons raw rest ih =>
      cases hform : argumentForm bodies (Chars.trim raw) with
      | literal value =>
          simp only [bindArguments, hform]
          exact (ih ..).map fun _ _ h => .cons (CallInput.alike_of_isLiteral rfl) h
      | placeholder name =>
          have hbind := bind?_alike hkind property declared name
          simp only [bindArguments, hform]
          generalize bind? ⟨property, declared, u⟩ name = a at hbind
          generalize bind? ⟨property, declared, v⟩ name = b at hbind
          cases hbind with
          | none => exact .error _
          | some hinput => exact (ih ..).map fun _ _ h => .cons hinput h

end Expression

end TwoUnits

/-- **Values take no part in the syntax.** An expression is read alike for two units of one type
and one kind, whatever their values are: with the same error, or as the same call of the same
inputs, where each literal has one value and every other input the value of its own unit. -/
theorem parseCall_alike {u v : ContentUnit} (htype : v.typeName = u.typeName)
    (hkind : v.kind = u.kind) (property : Option String) (declared : List PropertyDefinition)
    (expression : String) :
    SameOutcome (FunctionCall.Alike u v) (parseCall ⟨property, declared, u⟩ expression)
      (parseCall ⟨property, declared, v⟩ expression) := by
  have hout (text : List Char) : outputAndCall ⟨property, declared, v⟩ text =
      outputAndCall ⟨property, declared, u⟩ text := outputAndCall_congr rfl text
  simp only [parseCall, hout, htype]
  generalize hpieces : outputAndCall ⟨property, declared, u⟩
    (protectedText (segments (Chars.trim expression.toList))) = pieces
  obtain ⟨output, call, callOffset⟩ := pieces
  dsimp only
  cases hcut : Chars.cut? '(' call with
  | none => exact .error _
  | some sides =>
      obtain ⟨beforeOpen, afterOpen⟩ := sides
      dsimp only
      split
      · exact .error _
      · have hargs := bindArguments_alike hkind property declared
          (literals (segments (Chars.trim expression.toList))) 0
          (callOffset + Chars.byteLength beforeOpen + 1) (argumentPieces afterOpen)
        revert hargs
        generalize bindArguments ⟨property, declared, u⟩ _ _ _ _ = a
        generalize bindArguments ⟨property, declared, v⟩ _ _ _ _ = b
        rintro (⟨parameter, offset⟩ | hinputs)
        · exact .error _
        · exact .ok ⟨rfl, rfl, rfl, hinputs⟩

/-- A value that looks like the end of a literal and of a call, with a token in it, is put behind
its name like any other. -/
theorem parseCall_alike_of_delimiters :
    let u : ContentUnit := { typeName := "Text", kind := .clientSide }
    let v : ContentUnit :=
      { typeName := "Text", kind := .clientSide
        properties := ⟨[("Title", "', \x7bBody\x7d) = Fn('StaticParameter0'")]⟩ }
    let expression := "\x7bOut\x7d = Concatenate(\x7bTitle\x7d, 'a, b', title)"
    v.typeName = u.typeName ∧ v.kind = u.kind ∧
      SameOutcome (FunctionCall.Alike u v) (parseCall ⟨none, [], u⟩ expression)
        (parseCall ⟨none, [], v⟩ expression) ∧
      parseCall ⟨none, [], v⟩ expression =
        .ok { addOn := "", name := "Concatenate", output := "Out"
              inputs :=
                [{ name := "Title", value := "', \x7bBody\x7d) = Fn('StaticParameter0'" },
                 { name := "Static_0", value := "a, b", isLiteral := true },
                 { name := "title", value := "', \x7bBody\x7d) = Fn('StaticParameter0'" }] } := by
  intro u v expression
  have halike := parseCall_alike (u := u) (v := v) rfl rfl none [] expression
  exact ⟨rfl, rfl, halike, by decide +kernel⟩

end PageMigration
