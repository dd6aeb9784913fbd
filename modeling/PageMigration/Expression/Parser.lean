import PageMigration.Expression.Literal
import PageMigration.WebPart.Definition
import PageMigration.WebPart.Unit

/-!
# Function expressions

An expression calls one function.  Its form is an optional output name and an equality sign, the
name of the function, which an add-on may qualify, and arguments between parentheses: a
placeholder in braces, a literal in quotes, or a bare name, which means the same as the name in
braces.  Arguments are separated by commas, and calls do not nest.

Reading an expression binds it: a placeholder takes its type from the declared properties and its
value from the unit.

## Main definitions

* `FunctionCall` : a call whose inputs are bound.
* `ParseError` : why an expression is no call, and where.
* `parseCall` : the call that an expression stands for.
-/

namespace PageMigration

/-- One input of a call. -/
structure CallInput where
  /-- The name of a property, or a numbered name for a literal. -/
  name : String
  type : ValueType := .string
  /-- The text that is to be read as a value of the type. -/
  value : String := ""
  isLiteral : Bool := false
  deriving DecidableEq, Repr

/-- A call of a function, with its inputs bound. -/
structure FunctionCall where
  /-- The add-on that qualifies the name, or nothing. -/
  addOn : String
  name : String
  /-- The property that the result is for. -/
  output : String
  inputs : List CallInput
  deriving DecidableEq, Repr

/-- The name of a function with the add-on in front of it. -/
def FunctionCall.qualifiedName (call : FunctionCall) : String :=
  if call.addOn.isEmpty then call.name else call.addOn ++ "." ++ call.name

/-- What can be wrong with an expression. -/
inductive ParseFault where
  | missingParenthesis (expression : String)
  | emptyFunctionName
  | undeclaredParameter (parameter function webPart : String)
  deriving DecidableEq, Repr

/-- A fault, the byte offset in the expression where it shows, and the start of the
expression. -/
structure ParseError where
  fault : ParseFault
  position : Nat
  context : String
  deriving DecidableEq, Repr

/-- What a fault is, in words. -/
def ParseFault.message : ParseFault → String
  | .missingParenthesis expression =>
      "expected '(' in function expression '" ++ expression ++ "'"
  | .emptyFunctionName => "missing function name before '('"
  | .undeclaredParameter parameter function webPart =>
      if parameter.isEmpty then "empty argument in function '" ++ function ++ "'"
      else
        "parameter '" ++ parameter ++ "' used in function '" ++ function ++
          "' is not declared for web part '" ++ webPart ++ "'"

/-- An error in words, with its position. -/
def ParseError.message (e : ParseError) : String :=
  "at position " ++ toString e.position ++ ": " ++ e.fault.message

/-- What an expression is bound against. -/
structure Scope where
  /-- The property whose chain is read; selectors have none. -/
  property : Option String := none
  declared : List PropertyDefinition
  unit : ContentUnit

/-- The output of an expression that neither names one nor belongs to a property. -/
def selectorOutput : String := "SelectorResult"

namespace Expression

/-- A text without braces and without the blanks that then stand at its ends. -/
def unbraced (s : List Char) : List Char :=
  Chars.trim (s.filter fun c => c ≠ '\x7b' && c ≠ '\x7d')

/-- The input that a placeholder stands for.  Its type is the declared one; where the property
is not declared, a loosely typed unit takes it for a string and a strict one refuses it. -/
def bind? (scope : Scope) (name : String) : Option CallInput :=
  let value := (scope.unit.properties.get? name).getD ""
  match findProperty? scope.declared name with
  | some p => some { name, type := p.type, value }
  | none => if scope.unit.kind.isLooselyTyped then some { name, value } else none

/-- One argument as written: the name of a property, or a literal with its text. -/
inductive ArgumentForm where
  | placeholder (name : String)
  | literal (value : String)
  deriving DecidableEq, Repr

/-- The form of an argument of the protected text, where `bodies` are the literals of the
expression. -/
def argumentForm (bodies : List (List Char)) (arg : List Char) : ArgumentForm :=
  if arg.contains '\x7b' && arg.contains '\x7d' then
    .placeholder (String.ofList (unbraced arg))
  else if arg.contains '\'' then
    .literal <| String.ofList <|
      (literalOfToken? 0 arg bodies).getD (Chars.trimWhere (· == '\'') arg)
  else .placeholder (String.ofList arg)

/-- The inputs that arguments stand for, where `literals` literals come before them and the
first argument starts at the given offset of the protected text.  A placeholder that cannot be
bound is reported with the offset at which it starts. -/
def bindArguments (scope : Scope) (bodies : List (List Char)) (literals offset : Nat) :
    List (List Char) → Except (String × Nat) (List CallInput)
  | [] => .ok []
  | raw :: rest =>
      let next := offset + Chars.byteLength raw + 1
      match argumentForm bodies (Chars.trim raw) with
      | .literal value =>
          let input : CallInput :=
            { name := "Static_" ++ toString literals, value, isLiteral := true }
          (bindArguments scope bodies (literals + 1) next rest).map (input :: ·)
      | .placeholder name =>
          match bind? scope name with
          | some input => (bindArguments scope bodies literals next rest).map (input :: ·)
          | none => .error (name, offset + Chars.byteLength (raw.takeWhile Chars.isBlank))

/-- The arguments of a call, given what follows its opening parenthesis: the pieces between
commas, up to the last closing parenthesis; a blank list has no arguments. -/
def argumentPieces (afterOpen : List Char) : List (List Char) :=
  let inner := match Chars.cutLast? ')' afterOpen with
    | some (inner, _) => inner
    | none => afterOpen
  if Chars.blank inner then [] else Chars.splitOn ',' inner

/-- The output name, the call, and the offset of the call, in a protected expression. -/
def outputAndCall (scope : Scope) (text : List Char) : String × List Char × Nat :=
  match Chars.cut? '=' text with
  | some (output, call) =>
      (String.ofList (unbraced output), call, Chars.byteLength output + 1)
  | none => (scope.property.getD selectorOutput, text, 0)

/-- The add-on and the name in a qualified name. -/
def addOnAndName (fullName : List Char) : List Char × List Char :=
  match Chars.cut? '.' fullName with
  | some (addOn, name) => (Chars.trim addOn, Chars.trim name)
  | none => ([], fullName)

end Expression

open Expression in
/-- The call that an expression stands for in a scope. -/
def parseCall (scope : Scope) (expression : String) : Except ParseError FunctionCall :=
  let source := expression.toList
  let trimmed := Chars.trim source
  let segments := segments trimmed
  let text := protectedText segments
  let leading := Chars.byteLength (source.takeWhile Chars.isBlank)
  let fail (fault : ParseFault) (offset : Nat) : Except ParseError FunctionCall :=
    .error ⟨fault, leading + originalOffset (spans segments) offset,
      String.ofList (source.take 40)⟩
  let (output, call, callOffset) := outputAndCall scope text
  match Chars.cut? '(' call with
  | none =>
      fail (.missingParenthesis (String.ofList trimmed)) (callOffset + Chars.byteLength call)
  | some (beforeOpen, afterOpen) =>
      let fullName := Chars.trim beforeOpen
      let (addOn, name) := addOnAndName fullName
      if name.isEmpty then fail .emptyFunctionName callOffset
      else
        let firstOffset := callOffset + Chars.byteLength beforeOpen + 1
        match bindArguments scope (literals segments) 0 firstOffset
            (argumentPieces afterOpen) with
        | .ok inputs =>
            .ok { addOn := String.ofList addOn, name := String.ofList name, output, inputs }
        | .error (parameter, offset) =>
            fail (.undeclaredParameter parameter (String.ofList fullName) scope.unit.typeName)
              offset

end PageMigration
