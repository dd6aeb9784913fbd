import PageMigration.Expression.Parser
import PageMigration.Proofs.Expression.ProtectedText

/-!
# Written calls

A call is written as an optional output in braces with an equality sign, an optional add-on with a
dot, the name of the function, and arguments between parentheses with commas between them.  An
argument is a name in braces, a bare name, or a literal.  Blanks may stand between any two parts.
The parts carry the proofs that they are well formed, so every written call can be read.

## Main definitions

* `PlainName`, `Blanks`, `Padded` : names, blanks, and parts with blanks around them.
* `WrittenArgument`, `WrittenArguments` : arguments as they are written.
* `WrittenCall`, `WrittenCall.text` : a call as it is written, and its text.
* `Scope.input`, `WrittenCall.call` : what names and written calls mean in a scope.

## Main results

* `Padded.trim_text`, `Padded.notMem_text` : blanks around a part do not matter.
-/

namespace PageMigration

open Expression

/-! ### Names and blanks -/

/-- The characters that stand between the parts of a call. -/
def separators : List Char :=
  ['=', '(', ')', ',', '.']

/-- The characters that take part in the syntax of calls: separators, quotes and braces. -/
def delimiters : List Char :=
  '\x7b' :: '\x7d' :: '\'' :: separators

/-- Separators and quotes are delimiters, but no braces. -/
theorem mem_delimiters_of_mem {c : Char} (h : c ∈ '\'' :: separators) :
    c ∈ delimiters ∧ c ≠ '\x7b' ∧ c ≠ '\x7d' := by
  refine ⟨List.mem_cons_of_mem _ (List.mem_cons_of_mem _ h), ?_, ?_⟩
  · rintro rfl
    exact absurd h (by decide)
  · rintro rfl
    exact absurd h (by decide)

/-- A text in which no character takes part in the syntax of calls. -/
def Plain (s : List Char) : Prop :=
  ∀ c ∈ s, c ∉ delimiters

instance (s : List Char) : Decidable (Plain s) :=
  decidable_of_iff (s.all fun c => !delimiters.contains c) (by simp [Plain])

theorem Plain.notMem {s : List Char} (h : Plain s) {c : Char} (hc : c ∈ delimiters) : c ∉ s :=
  fun hm => h c hm hc

theorem isBlank_of_mem_delimiters {c : Char} (h : c ∈ delimiters) : Chars.isBlank c = false := by
  have hall : delimiters.all (fun c => !Chars.isBlank c) := by decide
  simpa using List.all_eq_true.mp hall c h

/-- Blanks are no delimiters. -/
theorem plain_of_blank {s : List Char} (h : Chars.blank s) : Plain s := fun _ hm hc =>
  Chars.notMem_of_blank h (isBlank_of_mem_delimiters hc) hm

/-- A name as it may be written: it is not empty, has no blanks at its ends and no character that
takes part in the syntax. -/
structure PlainName where
  chars : List Char
  ne_nil : chars ≠ [] := by decide
  trim_eq : Chars.trim chars = chars := by decide
  plain : Plain chars := by decide

/-- Blanks between two parts of a call. -/
structure Blanks where
  chars : List Char := []
  blank : Chars.blank chars := by decide

theorem Blanks.plain (b : Blanks) : Plain b.chars := plain_of_blank b.blank

/-- A part of a call with the blanks around it. -/
structure Padded (α : Type) where
  before : Blanks := {}
  core : α
  after : Blanks := {}

/-- The text of a part with the blanks around it. -/
def Padded.text {α : Type} (write : α → List Char) (p : Padded α) : List Char :=
  p.before.chars ++ write p.core ++ p.after.chars

theorem Padded.trim_text {α : Type} (write : α → List Char) (p : Padded α) :
    Chars.trim (p.text write) = Chars.trim (write p.core) := by
  rw [text, Chars.trim_append_blank p.after.blank, Chars.trim_blank_append p.before.blank]

theorem Padded.notMem_text {α : Type} {write : α → List Char} {p : Padded α} {c : Char}
    (hc : c ∈ delimiters) (h : c ∉ write p.core) : c ∉ p.text write := by
  simp only [text, List.mem_append, not_or]
  exact ⟨⟨p.before.plain.notMem hc, h⟩, p.after.plain.notMem hc⟩

/-- The input that a name means in a scope: of the declared type, or a string where the name is
not declared, with the value that the unit has for it. -/
def Scope.input (scope : Scope) (name : String) : CallInput where
  name
  type := ((findProperty? scope.declared name).map PropertyDefinition.type).getD .string
  value := (scope.unit.properties.get? name).getD ""

/-- A name in braces. -/
def braced (name : Padded PlainName) : List Char :=
  '\x7b' :: name.text PlainName.chars ++ ['\x7d']

/-! ### Arguments -/

/-- An argument as it is written. -/
inductive WrittenArgument where
  /-- A name in braces. -/
  | placeholder (name : Padded PlainName)
  | bare (name : PlainName)
  /-- A text between quotes. -/
  | literal (body : List Char) (h : LiteralText (· ≠ '\n') body)

namespace WrittenArgument

/-- The text of an argument. -/
def text : WrittenArgument → List Char
  | placeholder name => braced name
  | bare name => name.chars
  | literal body _ => '\'' :: body ++ ['\'']

/-- The name that an argument is, unless it is a literal. -/
def name? : WrittenArgument → Option PlainName
  | placeholder name => some name.core
  | bare name => some name
  | literal .. => none

/-- Whether an argument is a literal. -/
def isLiteral : WrittenArgument → Bool
  | literal .. => true
  | _ => false

/-- The input that an argument means in a scope, where `k` literals come before it. -/
def input (scope : Scope) (k : Nat) : WrittenArgument → CallInput
  | placeholder name => scope.input (String.ofList name.core.chars)
  | bare name => scope.input (String.ofList name.chars)
  | literal body _ =>
      { name := "Static_" ++ toString k, value := String.ofList body, isLiteral := true }

end WrittenArgument

/-- The arguments of a call as they are written. -/
inductive WrittenArguments where
  | none (blanks : Blanks)
  | list (first : Padded WrittenArgument) (rest : List (Padded WrittenArgument))

namespace WrittenArguments

/-- The arguments with the blanks around them. -/
def padded : WrittenArguments → List (Padded WrittenArgument)
  | none _ => []
  | list first rest => first :: rest

/-- The text of arguments, with commas between them. -/
def text : WrittenArguments → List Char
  | none blanks => blanks.chars
  | list first rest =>
      first.text WrittenArgument.text ++ rest.flatMap fun a => ',' :: a.text WrittenArgument.text

end WrittenArguments

/-! ### Calls -/

/-- A call as it is written. -/
structure WrittenCall where
  output : Option (Padded (Padded PlainName)) := none
  addOn : Option (Padded PlainName) := none
  name : Padded PlainName
  arguments : WrittenArguments
  after : Blanks := {}

namespace WrittenCall

/-- The text of the output with its equality sign. -/
def outputText (e : WrittenCall) : List Char :=
  match e.output with
  | some output => output.text braced ++ ['=']
  | none => []

/-- The text of the name, with the add-on in front of it. -/
def nameText (e : WrittenCall) : List Char :=
  match e.addOn with
  | some addOn => addOn.text PlainName.chars ++ '.' :: e.name.text PlainName.chars
  | none => e.name.text PlainName.chars

/-- The text of a call. -/
def text (e : WrittenCall) : List Char :=
  e.outputText ++ e.nameText ++ '(' :: e.arguments.text ++ ')' :: e.after.chars

/-- The inputs that the arguments mean in a scope.  A literal is numbered by the literals before
it. -/
def inputs (e : WrittenCall) (scope : Scope) : List CallInput :=
  let arguments := e.arguments.padded.map Padded.core
  arguments.mapIdx fun i a => a.input scope ((arguments.take i).countP WrittenArgument.isLiteral)

/-- The call that is meant in a scope. -/
def call (e : WrittenCall) (scope : Scope) : FunctionCall where
  addOn := (e.addOn.map fun addOn => String.ofList addOn.core.chars).getD ""
  name := String.ofList e.name.core.chars
  output := (e.output.map fun output => String.ofList output.core.core.chars).getD
    (scope.property.getD selectorOutput)
  inputs := e.inputs scope

end WrittenCall

end PageMigration
