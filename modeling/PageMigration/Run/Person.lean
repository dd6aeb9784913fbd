import PageMigration.Chars.Pattern
import PageMigration.Run.Lookup

/-!
# People

A person is named by a login or by a number in the user list of the source.  What the list says
about the person is taken over, with the login at the target; where it says nothing, as much as
possible is read off the login.

## Main definitions

* `Login.bare`, `Login.isGroup` : what a login says.
* `Person` : what is known about a person or a group.
* `Run.person?` : the person that a text names.
-/

namespace PageMigration

namespace Login

/-- How the logins of groups begin, in small letters. -/
def groupPrefixes : List String :=
  ["c:0(.s|true", "c:0-.f|rolemanager|", "c:0t.c|tenant|",
   "c:0o.c|federateddirectoryclaimprovider|", "c:0+.w|"]

/-- Whether a text is the end of the identifier of a group in a local domain: four numbers, each
with a hyphen before it. -/
def isDomainGroupEnd (s : List Char) : Bool :=
  match Chars.splitOn '-' s with
  | [] :: numbers => numbers.length = 4 && numbers.all fun n => !n.isEmpty && n.all Chars.isDecimal
  | _ => false

/-- Whether a text ends in the identifier of a group in a local domain. -/
def isDomainGroup : List Char → Bool
  | [] => false
  | c :: s =>
      (match (Pattern.word "s-1-5-21").rest? none (c :: s) with
        | some rest => isDomainGroupEnd rest
        | none => false) || isDomainGroup s

/-- A login without the claims in front of it. -/
def bare (login : String) : String :=
  Text.trim <| match Text.cutLast? '|' login with
    | some (_, name) => name
    | none => login

/-- Whether a login belongs to a group. -/
def isGroup (login : String) : Bool :=
  let login := Text.lower (Text.trim login)
  (groupPrefixes.any fun p => Text.startsWith p login) || isDomainGroup login.toList

end Login

/-- What is known about a person or a group. -/
structure Person where
  name : String
  email : String
  /-- The login at the target. -/
  login : String
  role : String := ""
  department : String := ""
  phone : String := ""
  sip : String := ""
  isGroup : Bool
  deriving DecidableEq, Repr

namespace Person

/-- The login at the target: that of a group stays as it is. -/
def targetLogin (ctx : Context) (isGroup : Bool) (login : String) : String :=
  if isGroup then login else ctx.users.apply (Login.bare login)

/-- The person of an entry of the user list. -/
def ofRecord (ctx : Context) (record : UserRecord) : Person :=
  let isGroup := record.principalType != .user || Login.isGroup record.loginName
  { name := record.name, email := record.email,
    login := targetLogin ctx isGroup record.loginName, role := record.jobTitle,
    department := record.department, phone := record.workPhone, sip := record.sipAddress,
    isGroup }

/-- What a login says about a person: the name without the domain, which is the mail address if
it has the form of one. -/
def ofLogin (ctx : Context) (login : String) : Person :=
  let bare := Login.bare login
  let name := match Text.cutLast? '\\' bare with
    | some (_, name) => name
    | none => bare
  let isGroup := Login.isGroup login
  { name, email := if name.toList.contains '@' then name else "",
    login := targetLogin ctx isGroup login, isGroup }

end Person

/-- The person that a text names, unless it is blank. -/
def Run.person? (ctx : Context) (text : String) : Run (Option Person) := do
  let text := Text.trim text
  if text.isEmpty then return none
  match ← Run.users ctx (.ofText text) with
  | record :: _ => return some (.ofRecord ctx record)
  | [] => return some (.ofLogin ctx text)

end PageMigration
