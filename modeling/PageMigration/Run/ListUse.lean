import PageMigration.Chars.Pattern
import PageMigration.Run.Context
import PageMigration.Site.ViewMatch

/-!
# Lists that parts show

A part that shows a list refers to it by its identifier.  The list tells what kind of part can
take its place, where it lies in its web, and which of its views is shown.

## Main definitions

* `ListUse.kind` : the kind of modern part for a list.
* `ListUse.webRelativePath` : the path of a list in its web.
* `ListUse.isCalendarView` : whether a description of a view shows a calendar.
-/

namespace PageMigration.ListUse

/-- The kind of part for a list of one of the well-known templates. -/
def kindOfTemplate? (template : Int) : Option String :=
  if template = 106 then some "Calendar"
  else if template = 107 ∨ template = 171 then some "Task"
  else if template = 108 then some "Discussion"
  else if template = 1100 then some "Issue"
  else if template = 102 then some "Survey"
  else none

/-- The kind of part for a list of a base type. -/
def kindOfBaseType : ListBaseType → String
  | .documentLibrary => "Library"
  | .genericList => "List"
  | .discussionBoard => "Discussion"
  | .survey => "Survey"
  | .issue => "Issue"
  | .unknown => "Undefined"

/-- The kind of part for a list: that of its template, or else that of its base type. -/
def kind (list : SiteList) : String :=
  (kindOfTemplate? list.baseTemplate).getD (kindOfBaseType list.baseType)

open Pattern in
/-- A quote of either kind. -/
def quoteMark : Pattern :=
  one fun c => c == '"' || c == '\''

open Pattern in
/-- The attribute of a view that shows a calendar. -/
def calendarType : Pattern :=
  all [edge, word "Type", many Chars.isBlank, word "=", many Chars.isBlank, quoteMark,
    word "CALENDAR", quoteMark]

/-- Whether a description of a view shows a calendar. -/
def isCalendarView (description : String) : Bool :=
  calendarType.occursIn description.toList

/-- The path of a list without the path of its web, if it begins with it, case left aside. -/
def webRelativePath (web : Web) (list : SiteList) : String :=
  if Text.startsWithName web.path list.serverRelativeUrl then
    String.ofList (list.serverRelativeUrl.toList.drop web.path.length)
  else list.serverRelativeUrl

end PageMigration.ListUse
