import PageMigration.Proofs.Run.Steps
import PageMigration.Proofs.Transform.Agreement

/-!
# Steps of jobs

Functions, parts and fields do nothing to the state of a run but take steps, whatever their
arguments and whatever is remembered from before.  So what every step keeps is kept by all jobs.
In particular no file outside the source web is ever asked for.

## Main definitions

* `Run.ReadsInside` : the look-ups between two states that ask for no file outside a web.

## Main results

* `Library.steps_of_mem`, `Job.steps_mapM` : functions and jobs take steps.
* `Context.reads_inside` : they ask for files of the source web only.
-/

namespace PageMigration

open Run

/-- Every function of a library takes steps, whatever its arguments are. -/
theorem Library.steps_of_mem (ctx : Context) (library : Library) {e : Entry}
    (he : e ∈ library.entries) (args : Arguments) (s : RunState) :
    Steps ctx s (e.body ctx args s).2 := by
  have hagrees := library.agrees_of_mem (ctx.steps_mirror s) he
  exact (hagrees args s s ⟨rfl, .refl⟩).2.2

/-- Jobs that are done one after the other take steps. -/
theorem Job.steps_mapM (ctx : Context) (jobs : List Job) (s : RunState) :
    Steps ctx s (jobs.mapM (Job.run ctx) s).2 := by
  have hagree := Job.agree_mapM (ctx.steps_mirror s) jobs
  exact (hagree s s ⟨rfl, .refl⟩).2.2

/-! ### Files that are read -/

namespace Run

/-- Between two states no file outside a web is asked for. -/
def ReadsInside (web : Web) (s t : RunState) : Prop :=
  ∃ made, t.history = made ++ s.history ∧
    ∀ path, Lookup.file path ∈ made ∨ Lookup.content path ∈ made → web.containsPath path

namespace ReadsInside

variable {web : Web} {s t : RunState}

theorem refl (web : Web) (s : RunState) : ReadsInside web s s :=
  ⟨[], rfl, by simp⟩

theorem of_history_eq (h : ReadsInside web s t) {u : RunState} (hu : u.history = t.history) :
    ReadsInside web s u := by
  rwa [ReadsInside, hu]

/-- One more look-up, which is in the web if it asks for a file. -/
theorem cons (h : ReadsInside web s t) {lookup : Lookup} {u : RunState}
    (hu : u.history = lookup :: t.history)
    (hinside : ∀ path, lookup = .file path ∨ lookup = .content path → web.containsPath path) :
    ReadsInside web s u := by
  obtain ⟨made, ht, hmade⟩ := h
  refine ⟨lookup :: made, by rw [hu, ht, List.cons_append], fun path hpath => ?_⟩
  simp only [List.mem_cons] at hpath
  rcases hpath with (hfile | hfile) | (hcontent | hcontent)
  · exact hinside path (Or.inl hfile.symm)
  · exact hmade path (Or.inl hfile)
  · exact hinside path (Or.inr hcontent.symm)
  · exact hmade path (Or.inr hcontent)

end ReadsInside

theorem Step.readsInside {ctx : Context} {s t u : RunState} (h : Step ctx t u)
    (hs : ReadsInside ctx.source.web s t) : ReadsInside ctx.source.web s u := by
  cases h with
  | list | users | term => exact hs.cons rfl (by rintro path (h | h) <;> cases h)
  | @file path hinside =>
      refine hs.cons rfl ?_
      rintro path' (h | h)
      · cases h
        exact hinside
      · cases h
  | @content path hinside =>
      refine hs.cons rfl ?_
      rintro path' (h | h)
      · cases h
      · cases h
        exact hinside
  | copy | breakOff => exact hs.of_history_eq rfl

theorem Steps.readsInside {ctx : Context} {s t : RunState} (h : Steps ctx s t) :
    ReadsInside ctx.source.web s t := by
  induction h with
  | refl => exact .refl _ s
  | tail _ hstep ih => exact hstep.readsInside ih

end Run

/-- **Files of the source web.** Whatever has been done before and is remembered, functions of both
libraries with any arguments, and jobs one after the other, ask for the description and the content
of files only at paths in the source web.  These are the path of the web and its continuations with
a slash, in any case of ASCII letters, and all paths if the web is at the root. -/
theorem Context.reads_inside (ctx : Context) (s : RunState) :
    let web := ctx.source.web
    (∀ (library : Library) (e : Entry), e ∈ library.entries → ∀ args : Arguments,
      ReadsInside web s (e.body ctx args s).2) ∧
    (∀ jobs : List Job, ReadsInside web s (jobs.mapM (Job.run ctx) s).2) ∧
    (∀ path, web.containsPath path ↔ web.path = "" ∨ Text.sameName path web.path ∨
      ∃ start rest, path.toList = start ++ '/' :: rest ∧
        Chars.sameName start web.path.toList) := by
  intro web
  refine ⟨fun library e he args => ?_, fun jobs => ?_, fun path => Web.containsPath_iff⟩
  · have hsteps := library.steps_of_mem ctx he args s
    exact hsteps.readsInside
  · have hsteps := Job.steps_mapM ctx jobs s
    exact hsteps.readsInside

end PageMigration
