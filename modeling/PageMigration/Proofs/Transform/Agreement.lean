import PageMigration.Proofs.Catalog.Agreement
import PageMigration.Proofs.Transform.Walk
import PageMigration.Transform.Field

/-!
# Transformations in runs that agree

Expressions, chains, parts and fields are transformed by calls of functions.  In two runs whose
look-ups agree they come to the same, also one after the other.

## Main definitions

* `Job`, `Job.run` : what a run can be asked to do, and what comes of it.

## Main results

* `Part.agree_process`, `ContentUnit.agree_processField` : parts and fields.
* `Job.agree_mapM` : jobs one after the other.
-/

namespace PageMigration

open Run

variable {R : RunState → RunState → Prop} {c d : Context} (h : c.Mirrors R d)
include h

theorem agree_evaluate (library : Library) (scope : Scope) (expression : String) :
    Agree R (evaluate library c scope expression) (evaluate library d scope expression) := by
  unfold evaluate
  cases parseCall scope expression with
  | error e => exact .pure _
  | ok call =>
      refine (Library.agree_invoke h library call).bind fun result => ?_
      cases result <;> exact .pure _

namespace Part

variable (library : Library)

theorem agree_runExpressions (property : Option String) (expressions : List String) (p : Part) :
    Agree R (runExpressions library c property expressions p)
      (runExpressions library d property expressions p) := by
  induction expressions generalizing p with
  | nil => exact .pure _
  | cons expression rest ih =>
      refine (agree_evaluate h library _ expression).bind fun result => ?_
      cases result with
      | error error => exact .pure _
      | ok value => exact ih _

theorem agree_runChain (property : Option String) (chain : String) (p : Part) :
    Agree R (runChain library c property chain p) (runChain library d property chain p) :=
  agree_runExpressions h library property _ p

theorem agree_runProperties (index : Nat) (p : Part) :
    Agree R (runProperties library c index p) (runProperties library d index p) := by
  intro s t hst
  fun_induction runProperties library c index p s generalizing t with
  | case1 index p s hp =>
      rw [runProperties_stop hp]
      exact ⟨rfl, hst⟩
  | case2 index p s property hp hc ih =>
      rw [runProperties_pass hp hc]
      exact ih t hst
  | case3 index p s property hp chain hc q e s' hr =>
      obtain ⟨t', hr', hstate⟩ := (agree_runChain h library _ chain p).exists_eq hst hr
      rw [runProperties_fail hp hc hr']
      exact ⟨rfl, hstate⟩
  | case4 index p s property hp chain hc q skipped s' hr r result u hrest ih =>
      obtain ⟨t', hr', hstate⟩ := (agree_runChain h library _ chain p).exists_eq hst hr
      obtain ⟨hvalue, hend⟩ := ih t' hstate
      rcases hrest' : runProperties library d (index + 1) q t' with ⟨last, u'⟩
      rw [hrest, hrest'] at hvalue hend
      obtain rfl : (r, result) = last := hvalue
      rw [runProperties_run hp hc hr', hrest']
      exact ⟨rfl, hend⟩

theorem agree_runSelector (selector : String) (p : Part) :
    Agree R (runSelector library c selector p) (runSelector library d selector p) := by
  refine (agree_evaluate h library _ selector).bind fun result => ?_
  rcases result with error | ⟨call, _ | _ | _ | _⟩ <;> exact .pure _

theorem agree_process (p : Part) : Agree R (p.process library c) (p.process library d) := by
  refine (agree_runProperties h library 0 p).bind fun result => ?_
  obtain ⟨p, e | skipped⟩ := result
  · exact .pure _
  · cases hs : p.definition.selector? with
    | none =>
        simp only [hs]
        exact .pure _
    | some selector =>
        simp only [hs]
        refine (agree_runSelector h library selector p).bind fun result => ?_
        cases result <;> exact .pure _

theorem agree_processFunctions (functions : String) (p : Part) :
    Agree R (p.processFunctions library c functions) (p.processFunctions library d functions) :=
  (agree_runChain h library none functions p).bind fun _ => .pure _

end Part

namespace ContentUnit

theorem agree_runFieldExpressions (field : String) (last : Option (String × String))
    (expressions : List String) (unit : ContentUnit) :
    Agree R (runFieldExpressions c field last expressions unit)
      (runFieldExpressions d field last expressions unit) := by
  induction expressions generalizing last unit with
  | nil => exact .pure _
  | cons expression rest ih =>
      refine (agree_evaluate h .publishing _ expression).bind fun result => ?_
      cases result with
      | error error => exact .pure _
      | ok value => exact ih _ _

theorem agree_processField (field functions : String) (unit : ContentUnit) :
    Agree R (processField c field functions unit) (processField d field functions unit) :=
  agree_runFieldExpressions h field none _ unit

end ContentUnit

omit h

/-! ### Jobs -/

/-- What a run can be asked to do. -/
inductive Job where
  | call (library : Library) (called : FunctionCall)
  | part (library : Library) (part : Part)
  | functions (library : Library) (chain : String) (part : Part)
  | field (name chain : String) (unit : ContentUnit)

namespace Job

/-- What comes of a job. -/
inductive Answer where
  | output (result : Except CallError Output)
  | part (part : Part) (result : Except CallError Outcome)
  | field (unit : ContentUnit) (result : Except CallError (Option (String × String)))
  deriving DecidableEq

/-- A job in a run. -/
def run (ctx : Context) : Job → Run Answer
  | call library called => return .output (← library.invoke ctx called)
  | part library p => do
      let (p, result) ← p.process library ctx
      return .part p result
  | functions library chain p => do
      let (p, result) ← p.processFunctions library ctx chain
      return .part p result
  | field name chain unit => do
      let (unit, result) ← unit.processField ctx name chain
      return .field unit result

include h

theorem agree_run (job : Job) : Agree R (job.run c) (job.run d) := by
  cases job with
  | call library called => exact (library.agree_invoke h called).bind fun _ => .pure _
  | part library p => exact (p.agree_process h library).bind fun _ => .pure _
  | functions library chain p =>
      exact (p.agree_processFunctions h library chain).bind fun _ => .pure _
  | field name chain unit =>
      exact (unit.agree_processField h name chain).bind fun _ => .pure _

/-- **Jobs agree.** Jobs that are done one after the other come to the same in two runs whose
look-ups agree. -/
theorem agree_mapM (jobs : List Job) : Agree R (jobs.mapM (run c)) (jobs.mapM (run d)) :=
  Agree.mapM (agree_run h) jobs

end Job

end PageMigration
