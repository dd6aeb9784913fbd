import PageMigration.Run.AssetFolder
import PageMigration.Run.ReadThrough
import PageMigration.Run.Settings
import PageMigration.Site.Source
import PageMigration.Site.UrlMapping
import PageMigration.Site.UserMapping

/-!
# Runs

A run moves parts of pages from a source to a target.  What it is told stays the same all along:
the source, the target, the mappings of links and users, and the settings.  What it has done so
far is its state: the look-ups that reached the source, the answers that it remembers, and the
folder of copies.

## Main definitions

* `Context` : what a run is told.
* `Context.withTarget` : a run to another web.
* `Context.isCrossSite` : whether content moves to another web.
* `RunState`, `Run` : what a run has done, and computations that go on with it.
-/

namespace PageMigration

/-- What a run is told. -/
structure Context where
  source : Source
  /-- The web that content moves to, unless it stays in the web of the source. -/
  target : Option Web := none
  links : UrlMapping := .identity
  users : UserMapping := {}
  /-- The path that copies of files are served from, if files are copied at all. -/
  servedFrom : Option String := none
  settings : Settings := {}

namespace Context

/-- The run to another web, into which links are redirected. -/
def withTarget (ctx : Context) (target : Web) : Context :=
  { ctx with target := some target, links := .redirect ctx.source.web target }

/-- The web that content moves to. -/
def targetWeb (ctx : Context) : Web :=
  ctx.target.getD ctx.source.web

/-- Whether content moves to another web: one of another address or path, case left aside. -/
def isCrossSite (ctx : Context) : Bool :=
  match ctx.target with
  | some target =>
      !Text.sameName target.serverRelativeUrl ctx.source.web.serverRelativeUrl ||
        !Text.sameName target.url ctx.source.web.url
  | none => false

/-- A text with its links redirected, unless links are kept. -/
def mapLinks (ctx : Context) (text : String) : String :=
  if ctx.settings.keepLinks then text else ctx.links.apply text

end Context

/-- What a run has done so far. -/
structure RunState where
  /-- The look-ups that reached the source, the latest first. -/
  history : History := []
  /-- Users by the keys of questions. -/
  users : ReadThrough String (List UserRecord)
  lists : ReadThrough Guid (Option SiteList)
  /-- Addresses of copies by the paths of files in small letters. -/
  copies : ReadThrough String String
  folder : AssetFolder := {}

/-- The state in which a run with a folder of copies begins. -/
def Context.start (ctx : Context) (folder : AssetFolder) : RunState where
  users := { enabled := ctx.settings.cacheLookups }
  lists := { enabled := ctx.settings.cacheLookups }
  copies := { enabled := ctx.settings.cacheLookups }
  folder

/-- Computations that go on with the state of a run. -/
abbrev Run := StateM RunState

/-- A computation goes on with the value and the state that the one before it leaves. -/
theorem Run.bind_of_eq {α β : Type} {x : Run α} {f : α → Run β} {a : α} {s t : RunState}
    (h : x s = (a, t)) : (x >>= f) s = f a t := by
  simp only [bind, StateT.bind, h]

/-- Look-ups in the course of a run, which may fail. -/
abbrev LookupM := ExceptT SourceError Run

end PageMigration
