import PageMigration.Text

/-!
# Function chains

A chain is a list of expressions with semicolons between them.  A semicolon inside a literal
does not separate; inside a literal a backslash hides the character after it.

## Main definitions

* `Expression.splitChain` : the expressions of a chain, without blank ones.
-/

namespace PageMigration.Expression

/-- Where the scan of a chain stands. -/
inductive ChainState where
  | outside
  | inside
  /-- Inside a literal, after a backslash. -/
  | escaped
  deriving DecidableEq, Repr

/-- The state after a character. -/
def ChainState.step (state : ChainState) (c : Char) : ChainState :=
  match state with
  | .escaped => .inside
  | .inside => if c = '\\' then .escaped else if c = '\'' then .outside else .inside
  | .outside => if c = '\'' then .inside else .outside

/-- The parts of a chain between the semicolons that stand outside literals, at least one. -/
def chainParts (state : ChainState) : List Char → List (List Char)
  | [] => [[]]
  | c :: s =>
      if state = .outside ∧ c = ';' then [] :: chainParts .outside s
      else
        match chainParts (state.step c) s with
        | [] => [[c]]
        | part :: rest => (c :: part) :: rest

/-- The expressions of a chain, without blanks around them and without empty ones. -/
def splitChain (chain : String) : List String :=
  ((chainParts .outside chain.toList).map Chars.trim).filterMap fun part =>
    if part.isEmpty then none else some (String.ofList part)

end PageMigration.Expression
