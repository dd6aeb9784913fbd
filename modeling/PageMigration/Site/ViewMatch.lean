import PageMigration.Site.Records
import PageMigration.Xml.Likeness

/-!
# Matching views

Two views show the same data if their queries, fields and row limits are alike.

## Main definitions

* `sectionsAlike` : whether one section of two views is the same.
* `viewsMatch` : whether two descriptions of views show the same data.
* `SiteList.viewShowing?` : the view of a list that shows the same data as a description.
-/

namespace PageMigration

/-- The sections of a view that decide which data it shows. -/
def viewSections : List String := ["Query", "ViewFields", "RowLimit"]

/-- Whether the first elements of a name are alike in two views, or missing in both. -/
def sectionsAlike (a b : Xml.Node) (name : String) : Bool :=
  match a.firstNamed? name, b.firstNamed? name with
  | some x, some y => x.alike y
  | none, none => true
  | _, _ => false

/-- Whether two descriptions are views that show the same data. -/
def viewsMatch (a b : String) : Bool :=
  match Xml.rootOf? a, Xml.rootOf? b with
  | some x, some y => viewSections.all (sectionsAlike x y)
  | _, _ => false

/-- The first view of a list that shows the same data as a description, or else the default
view. -/
def SiteList.viewShowing? (list : SiteList) (description : String) : Option ListView :=
  (list.views.find? fun v => viewsMatch v.xml description).or list.defaultView?

end PageMigration
