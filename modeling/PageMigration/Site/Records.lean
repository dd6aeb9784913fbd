import PageMigration.Site.Web
import PageMigration.Value.Argument

/-!
# What a site holds

Lists with their views, files, the entries of the hidden user list, and the terms of the term
store, as far as the transformation of pages looks them up.

## Main definitions

* `SiteList`, `ListView` : a list and its views.
* `FileInfo` : a file in a library.
* `UserRecord`, `UserQuery` : an entry of the user list and a question to it.
* `Term` : a term of the term store.

## Main results

* `UserQuery.cacheKey_eq_iff` : the questions whose answers are remembered under one key.
* `UserQuery.answeredBy_congr` : they have the same answers.
-/

namespace PageMigration

/-- The base type of a list. -/
inductive ListBaseType where
  | genericList | documentLibrary | discussionBoard | survey | issue | unknown
  deriving DecidableEq, Repr

/-- A view of a list, with the markup that describes it. -/
structure ListView where
  id : Guid
  title : String
  xml : String
  isDefault : Bool := false
  deriving DecidableEq, Repr

/-- A list or library. -/
structure SiteList where
  id : Guid
  title : String
  baseType : ListBaseType := .genericList
  baseTemplate : Int
  /-- The path of the list's root folder on the server. -/
  serverRelativeUrl : String
  views : List ListView := []
  deriving DecidableEq, Repr

/-- The view flagged as the default one, or else the first. -/
def SiteList.defaultView? (list : SiteList) : Option ListView :=
  (list.views.find? ListView.isDefault).or list.views.head?

/-- A file in a library. -/
structure FileInfo where
  serverRelativeUrl : String
  listId : Guid
  uniqueId : Guid
  authorLogin : String := ""
  authorName : String := ""
  deriving DecidableEq, Repr

/-- The last segment of a path. -/
def lastSegment (path : String) : String :=
  match Text.cutLast? '/' path with
  | some (_, name) => name
  | none => path

/-- The name of a file in its folder. -/
def FileInfo.name (file : FileInfo) : String :=
  lastSegment file.serverRelativeUrl

/-- The kinds of entries of the user list. -/
inductive PrincipalType where
  | user | securityGroup | sharePointGroup
  deriving DecidableEq, Repr

/-- An entry of the hidden user list of a site. -/
structure UserRecord where
  id : Int
  loginName : String
  name : String := ""
  email : String := ""
  jobTitle : String := ""
  department : String := ""
  workPhone : String := ""
  sipAddress : String := ""
  principalType : PrincipalType := .user
  deriving DecidableEq, Repr

/-- A question to the user list. -/
inductive UserQuery where
  | login (name : String)
  | id (number : Int)
  deriving DecidableEq, Repr

namespace UserQuery

/-- The question that a text asks: by number if the text is one, and otherwise by login. -/
def ofText (s : String) : UserQuery :=
  match readInteger? s with
  | some n => .id n
  | none => .login (Text.trim s)

/-- The key under which answers are remembered; logins that differ in case share it. -/
def cacheKey : UserQuery → String
  | .login name => "login:" ++ Text.lower name
  | .id number => "id:" ++ intText number

/-- Whether an entry of the user list answers a question. -/
def answeredBy (query : UserQuery) (user : UserRecord) : Bool :=
  match query with
  | .login name => Text.sameName user.loginName name
  | .id number => user.id == number

/-- Two questions have one key if they ask for one number, or for one login up to the case of ASCII
letters. -/
theorem cacheKey_eq_iff {p q : UserQuery} : p.cacheKey = q.cacheKey ↔
    (∃ a b, p = .login a ∧ q = .login b ∧ Text.sameName a b) ∨ ∃ n, p = .id n ∧ q = .id n := by
  have hlogin (a b : String) : (login a).cacheKey = (login b).cacheKey ↔ Text.sameName a b := by
    simp [cacheKey, Text.lower, Text.sameName, Chars.sameName_iff, ← String.toList_inj]
  have hid (m n : Int) : (id m).cacheKey = (id n).cacheKey ↔ m = n := by
    rw [cacheKey, cacheKey, String.append_right_inj]
    exact ⟨intText_inj, congrArg intText⟩
  cases p with
  | login a =>
      cases q with
      | login b => simp [hlogin]
      | id n => simp [cacheKey, ← String.toList_inj]
  | id m =>
      cases q with
      | login b => simp [cacheKey, ← String.toList_inj]
      | id n =>
          rw [hid]
          constructor
          · rintro rfl
            exact Or.inr ⟨m, rfl, rfl⟩
          · rintro (⟨_, _, h, -, -⟩ | ⟨k, hm, hn⟩)
            · cases h
            · exact (UserQuery.id.inj hm).trans (UserQuery.id.inj hn).symm

/-- The same entries of the user list answer questions with one key. -/
theorem answeredBy_congr {p q : UserQuery} (h : p.cacheKey = q.cacheKey) :
    p.answeredBy = q.answeredBy := by
  rcases cacheKey_eq_iff.mp h with ⟨a, b, rfl, rfl, hname⟩ | ⟨n, rfl, rfl⟩
  · funext user
    rw [answeredBy, answeredBy, Bool.eq_iff_iff]
    have hname' : Text.sameName b a := Text.sameName_comm a b ▸ hname
    exact ⟨fun hu => Text.sameName_trans hu hname, fun hu => Text.sameName_trans hu hname'⟩
  · rfl

end UserQuery

/-- A term of the term store. -/
structure Term where
  id : Guid
  label : String
  deriving DecidableEq, Repr

end PageMigration
