import PageMigration.Encoding.Utf8
import PageMigration.Site.Records

/-!
# Sources

A source answers look-ups about the site that pages come from.  It may fail, and what it answers
may depend on the look-ups made before, of which a run keeps the history.

## Main definitions

* `Lookup`, `History` : one look-up, and all look-ups made so far.
* `Source` : the answers to look-ups.
* `Source.interrupted` : a source that fails on some of its look-ups.
-/

namespace PageMigration

/-- A question to a source. -/
inductive Lookup where
  | list (id : Guid)
  | file (path : String)
  | content (path : String)
  | users (query : UserQuery)
  | term (id : Guid)
  deriving DecidableEq, Repr

/-- The look-ups made so far, the latest first. -/
abbrev History := List Lookup

/-- Why a look-up failed. -/
inductive SourceError where
  | notAvailable
  | remote (message : String)
  deriving DecidableEq, Repr

/-- The site that pages come from, as far as it is looked up. -/
structure Source where
  web : Web
  list : History → Guid → Except SourceError (Option SiteList)
  /-- A file by its path on the server. -/
  file : History → String → Except SourceError (Option FileInfo)
  /-- The content of a file by its path on the server. -/
  content : History → String → Except SourceError (Option Bytes)
  users : History → UserQuery → Except SourceError (List UserRecord)
  term : History → Guid → Except SourceError (Option Term)

/-- The kinds of look-ups. -/
inductive LookupKind where
  | list | file | content | users | term
  deriving DecidableEq, Repr

/-- The kind of a look-up. -/
def Lookup.kind : Lookup → LookupKind
  | .list _ => .list
  | .file _ => .file
  | .content _ => .content
  | .users _ => .users
  | .term _ => .term

/-- How look-ups of a kind are interrupted. -/
inductive Outage where
  /-- The first look-ups fail. -/
  | first (count : Nat)
  /-- The source does not support the look-up. -/
  | always
  deriving DecidableEq, Repr

/-- The error with which an outage meets a look-up after those of a history, if it does. -/
def Outage.error? (outage : Outage) (kind : LookupKind) (history : History) :
    Option SourceError :=
  match outage with
  | .always => some .notAvailable
  | .first count =>
      if history.countP (fun l => l.kind = kind) < count then
        some (.remote "the service did not respond")
      else none

/-- An answer, unless an outage prevents it. -/
def Outage.guard {α : Type} (outages : LookupKind → Outage) (kind : LookupKind)
    (history : History) (answer : Except SourceError α) : Except SourceError α :=
  match (outages kind).error? kind history with
  | some e => .error e
  | none => answer

/-- A source of which the look-ups of each kind are interrupted by an outage. -/
def Source.interrupted (source : Source) (outages : LookupKind → Outage) : Source where
  web := source.web
  list h id := Outage.guard outages .list h (source.list h id)
  file h path := Outage.guard outages .file h (source.file h path)
  content h path := Outage.guard outages .content h (source.content h path)
  users h query := Outage.guard outages .users h (source.users h query)
  term h id := Outage.guard outages .term h (source.term h id)

end PageMigration
