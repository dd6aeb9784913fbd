import PageMigration.Proofs.Expression.ChainParts
import PageMigration.Site.Snapshot
import PageMigration.Transform.Part

/-!
# Chains one after the other

Running a list of expressions is running its beginning and then, if nothing was skipped and
nothing failed, the rest on what the beginning has left.  Hence a chain that is put together from
two chains by a semicolon does what the two do one after the other.

## Main results

* `Part.runExpressions_append` : the run of a list of expressions in two steps.
* `Part.processFunctions_append_semicolon` : the run of two chains in a row.
-/

namespace PageMigration.Part

variable (library : Library) (ctx : Context)

/-- The rest of a list of expressions is run only if its beginning was run to its end. -/
theorem runExpressions_append (property : Option String) (xs ys : List String) (p : Part)
    (s : RunState) :
    runExpressions library ctx property (xs ++ ys) p s =
      match runExpressions library ctx property xs p s with
      | ((q, .ok none), t) => runExpressions library ctx property ys q t
      | result => result := by
  induction xs generalizing p s with
  | nil => rfl
  | cons expression rest ih =>
      rw [List.cons_append]
      rcases h : evaluate library ctx (p.scope property) expression s with ⟨e | ⟨call, output⟩, t⟩
      · rw [runExpressions_cons_of_error h, runExpressions_cons_of_error h]
        cases e.isChainLocal <;> rfl
      · rw [runExpressions_cons_of_ok h, runExpressions_cons_of_ok h, ih]

theorem processFunctions_eq (functions : String) (p : Part) (s : RunState) :
    p.processFunctions library ctx functions s =
      match runExpressions library ctx none (Expression.splitChain functions) p s with
      | ((q, result), t) => ((q, result.map fun skipped => { skipped := skipped.toList }), t) :=
  rfl

/-- **Composition of chains.** Where `a` closes its literals, the expressions of `a;b` are those
of `a` and then those of `b`.  The run of `a;b` is the run of `a`, if that fails or skips an
expression, and otherwise the run of `b` on the part and in the state that `a` leaves. -/
theorem processFunctions_append_semicolon {a : String} (b : String)
    (ha : Expression.ClosesLiterals a.toList) (p : Part) (s : RunState) :
    Expression.splitChain (a ++ ";" ++ b) = Expression.splitChain a ++ Expression.splitChain b ∧
      p.processFunctions library ctx (a ++ ";" ++ b) s =
        match p.processFunctions library ctx a s with
        | ((q, .error e), t) => ((q, .error e), t)
        | ((q, .ok outcome), t) =>
            if outcome.skipped = [] then q.processFunctions library ctx b t
            else ((q, .ok outcome), t) := by
  have hsplit := Expression.splitChain_append_semicolon ha b
  refine ⟨hsplit, ?_⟩
  simp only [processFunctions_eq, hsplit, runExpressions_append]
  rcases runExpressions library ctx none (Expression.splitChain a) p s with
    ⟨⟨q, e | skipped⟩, t⟩
  · rfl
  · cases skipped <;> rfl

/-- The semicolon in a literal ends no chain, and the second chain is run on what the first one has
stored. -/
theorem processFunctions_semicolon_in_literal :
    let ctx : Context := { source := (Snapshot.ofUrl "https://contoso.sharepoint.com").source }
    let p : Part := { definition := { typeName := "Text" }, unit := { typeName := "Text" } }
    let a := "{A} = StaticString('x;y')"
    let b := "{B} = HtmlEncode({A})"
    Expression.ClosesLiterals a.toList ∧
      Expression.splitChain (a ++ ";" ++ b) = [a, b] ∧
      (p.processFunctions .general ctx (a ++ ";" ++ b)
          (ctx.start {})).1.1.unit.properties.entries = [("A", "x;y"), ("B", "x;y")] := by
  intro ctx p a b
  have ha : Expression.ClosesLiterals a.toList := by decide
  obtain ⟨hsplit, hrun⟩ := processFunctions_append_semicolon .general ctx b ha p (ctx.start {})
  refine ⟨ha, ?_, ?_⟩
  · rw [hsplit]
    decide
  · rw [hrun]
    decide +kernel

end PageMigration.Part
