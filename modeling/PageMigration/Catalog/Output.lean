import PageMigration.Expression.Parser

/-!
# Results of functions

A function yields one value, several named values, or nothing.  A call fails if its expression
cannot be read, if it has the wrong number of inputs, if a selector yields several values, or if
a page would break a rule that the author of the page has to settle.

## Main definitions

* `Output` : what a function yields.
* `PolicyViolation`, `CallError` : why a call fails.
* `CallError.isChainLocal` : whether a failure stops one chain alone.
-/

namespace PageMigration

/-- What a function yields. -/
inductive Output where
  | text (value : String)
  | bool (value : Bool)
  /-- Values by the names of properties, in the order of the names. -/
  | map (values : List (String × String))
  | nothing
  deriving DecidableEq, Repr

/-- The text of a single value. -/
def Output.scalar? : Output → Option String
  | text value => some value
  | bool value => some (boolText value)
  | map _ => none
  | nothing => none

/-- A rule that a function refuses to break. -/
inductive PolicyViolation where
  /-- A page is referred to that cannot exist at the target. -/
  | pageNotAvailable (path : String)
  /-- A part that plays media has no source. -/
  | mediaSourceMissing (webPart : String)
  deriving DecidableEq, Repr

/-- A broken rule in words. -/
def PolicyViolation.message : PolicyViolation → String
  | pageNotAvailable path => "page '" ++ path ++ "' is not available at the target site"
  | mediaSourceMissing webPart =>
      "media control '" ++ webPart ++ "' has no source configured"

/-- Why a call failed. -/
inductive CallError where
  | parse (error : ParseError)
  /-- The number of inputs is not that of the parameters. -/
  | argumentCount (function : String) (expected actual : Nat)
  /-- A selector yielded several values. -/
  | nonScalarSelector (selector : String)
  | policy (violation : PolicyViolation)
  deriving DecidableEq, Repr

namespace CallError

/-- Whether a failure stops only the chain that the call is in. -/
def isChainLocal : CallError → Bool
  | parse _ => true
  | argumentCount .. => true
  | nonScalarSelector _ => false
  | policy _ => false

/-- A chain is stopped alone by an expression that cannot be read or has a wrong number of
inputs. -/
theorem isChainLocal_iff {e : CallError} :
    e.isChainLocal ↔ (∃ error, e = .parse error) ∨
      ∃ function expected actual, e = .argumentCount function expected actual := by
  cases e <;> simp [isChainLocal]

/-- A failure in words. -/
def message : CallError → String
  | parse error => "parse error " ++ error.message
  | argumentCount function expected actual =>
      "function '" ++ function ++ "' takes " ++ toString expected ++ " parameter(s) but " ++
        toString actual ++ " were supplied"
  | nonScalarSelector selector => "selector '" ++ selector ++ "' returned multiple values"
  | policy violation => violation.message

end CallError

end PageMigration
