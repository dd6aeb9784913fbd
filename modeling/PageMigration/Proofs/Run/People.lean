import Mathlib.Data.List.Basic
import PageMigration.Proofs.Run.Answers
import PageMigration.Run.Person
import PageMigration.Site.Snapshot

/-!
# Who people are at the target

Where the user list says nothing about a login, as much as possible is read off the login.  Less is
known of the person then, but not who it is: the login at the target and whether it is that of a
group depend on the login and on the mapping of users only, as long as the entry that the list would
have is a user's and has the login as it is asked for.

## Main definitions

* `Person.identity` : the login at the target, and whether it is that of a group.
* `Run.answer` : how the look-up of users ends, in the source or in what is remembered.
* `LoginAnswer` : the ways in which the look-up of a login may end.

## Main results

* `Run.person?_fst`, `Run.person?_eq_none_iff` : the person that a text names, if it names any.
* `Person.identity_ofRecord` : an entry of the user list and the login alone give one identity.
* `Run.identity_of_person?` : who a person is, however the look-up ends.
-/

namespace PageMigration

/-! ### Persons that texts name -/

namespace Run

/-- How the look-up of users ends: what is remembered, or else the answer of the source. -/
def answer (ctx : Context) (query : UserQuery) (s : RunState) :
    Except SourceError (List UserRecord) :=
  match s.users.get? query.cacheKey with
  | some found => .ok found
  | none => ctx.source.users s.history query

theorem users_fst_eq (ctx : Context) (query : UserQuery) (s : RunState) :
    (users ctx query s).1 = (answer ctx query s).toOption.getD [] := by
  rw [users_eq, orElse_apply, answer]
  cases hknown : s.users.get? query.cacheKey with
  | some found => rw [askOnce_of_known hknown]
  | none =>
      rw [askOnce_of_unknown hknown]
      rcases ctx.source.users s.history query with e | found <;> rfl

/-- The person that an answer tells of, or else the login. -/
def personOf (ctx : Context) (login : String) : List UserRecord → Person
  | record :: _ => .ofRecord ctx record
  | [] => .ofLogin ctx login

/-- A text that is not blank names a person, who is read off the first entry found. -/
theorem person?_fst (ctx : Context) (text : String) (s : RunState) :
    (person? ctx text s).1 =
      if Text.isBlank text then none
      else some (personOf ctx (Text.trim text)
        ((answer ctx (.ofText (Text.trim text)) s).toOption.getD [])) := by
  have hblank : (Text.trim text).isEmpty = Text.isBlank text := by
    rw [Bool.eq_iff_iff, String.isEmpty_iff, Text.isBlank, ← Chars.trim_eq_nil_iff,
      ← String.toList_eq_nil_iff, Text.trim, String.toList_ofList]
  rw [person?, hblank]
  by_cases h : Text.isBlank text
  · rw [if_pos h, if_pos h]
    rfl
  · rw [if_neg h, if_neg h, ← users_fst_eq]
    rcases hfound : users ctx (.ofText (Text.trim text)) s with ⟨_ | ⟨record, more⟩, t⟩
    · rw [bind_of_eq hfound]
      rfl
    · rw [bind_of_eq hfound]
      rfl

theorem person?_eq_none_iff {ctx : Context} {text : String} {s : RunState} :
    (person? ctx text s).1 = none ↔ Text.isBlank text := by
  rw [person?_fst]
  split_ifs with h <;> simp [h]

end Run

/-! ### Identities -/

/-- Who a person is: the login at the target, and whether it is that of a group. -/
def Person.identity (person : Person) : String × Bool :=
  (person.login, person.isGroup)

/-- An entry of the user list with exactly a login, which is that of a user. -/
structure UserRecord.IsOf (record : UserRecord) (login : String) : Prop where
  loginName : record.loginName = login
  principalType : record.principalType = .user

/-- The ways in which the look-up of a login may end: it fails, or it finds nobody, or the entry
found first is that of the login. -/
inductive LoginAnswer (login : String) : Except SourceError (List UserRecord) → Prop
  | fails (e : SourceError) : LoginAnswer login (.error e)
  | nobody : LoginAnswer login (.ok [])
  | found {record : UserRecord} (h : record.IsOf login) (more : List UserRecord) :
      LoginAnswer login (.ok (record :: more))

namespace Person

variable {login : String}

theorem identity_ofLogin (ctx : Context) (login : String) :
    (ofLogin ctx login).identity =
      (targetLogin ctx (Login.isGroup login) login, Login.isGroup login) := by
  rw [identity, ofLogin]

/-- An entry with the login of a user tells who it is as the login alone does. -/
theorem identity_ofRecord (ctx : Context) {record : UserRecord} (h : record.IsOf login) :
    (ofRecord ctx record).identity = (ofLogin ctx login).identity := by
  have hgroup : (record.principalType != .user || Login.isGroup login) = Login.isGroup login := by
    simp [h.principalType]
  rw [identity_ofLogin, identity, ofRecord]
  simp only [h.loginName, hgroup]

/-- The login alone tells who a person is, however the look-up ends. -/
theorem identity_personOf {ctx : Context} {answer : Except SourceError (List UserRecord)}
    (h : LoginAnswer login answer) :
    (Run.personOf ctx login (answer.toOption.getD [])).identity =
      (ofLogin ctx login).identity := by
  cases h with
  | fails | nobody => rfl
  | found hrecord more => exact identity_ofRecord ctx hrecord

end Person

namespace Run

variable {ctx : Context} {login : String} {s : RunState}

/-- Who a login names: nobody if it is blank, and otherwise what the login alone tells. -/
theorem map_identity_person?_fst (htrim : Text.trim login = login)
    (hnumber : readInteger? login = none) (h : LoginAnswer login (answer ctx (.login login) s)) :
    (person? ctx login s).1.map Person.identity =
      if Text.isBlank login then none else some (Person.ofLogin ctx login).identity := by
  have hquery : UserQuery.ofText login = .login login := by
    rw [UserQuery.ofText, hnumber, htrim]
  rw [person?_fst, htrim, hquery]
  split_ifs
  · rfl
  · exact congrArg some (Person.identity_personOf h)

/-- **Identities.** With one mapping of users, a login that is no number names a person of one
identity in all runs, however the look-ups of the login end in them.  Only a blank text names
nobody. -/
theorem identity_of_person? (users : UserMapping) :
    (∀ (ctx ctx' : Context) (login : String) (s s' : RunState),
      ctx.users = users → ctx'.users = users →
      Text.trim login = login → readInteger? login = none →
      LoginAnswer login (answer ctx (.login login) s) →
      LoginAnswer login (answer ctx' (.login login) s') →
      (person? ctx login s).1.map Person.identity =
        (person? ctx' login s').1.map Person.identity) ∧
    ∀ (ctx : Context) (text : String) (s : RunState),
      (person? ctx text s).1 = none ↔ Text.isBlank text := by
  refine ⟨fun ctx ctx' login s s' husers husers' htrim hnumber h h' => ?_, fun ctx text s =>
    person?_eq_none_iff⟩
  rw [map_identity_person?_fst htrim hnumber h, map_identity_person?_fst htrim hnumber h',
    Person.identity_ofLogin, Person.identity_ofLogin, Person.targetLogin, Person.targetLogin,
    husers, husers']

/-- A user in a local domain, who is in the mapping of users. -/
def annasRun (answers : Source) : Context where
  source := answers
  users := ({} : UserMapping).add "contoso\\anna" "anna@fabrikam.com"

/-- The user is found, then remembered in another spelling of the login, and in other runs not found
or not looked up. -/
theorem identity_of_person?_of_anna :
    let login := "i:0#.w|contoso\\anna"
    let anna : UserRecord := { id := 7, loginName := login, name := "Anna Smith" }
    let site : Snapshot := { web := .ofUrl "https://old.com/a", users := [anna] }
    let found := annasRun site.source
    let nobody := annasRun (Snapshot.ofUrl "https://old.com/a").source
    let fails := annasRun (site.source.interrupted fun _ => .always)
    let remembered := (person? found "I:0#.W|Contoso\\Anna" (found.start {})).2
    let identity := some ("anna@fabrikam.com", false)
    Text.trim login = login ∧ readInteger? login = none ∧
      answer found (.login login) (found.start {}) = .ok [anna] ∧
      answer found (.login login) remembered = .ok [anna] ∧
      answer nobody (.login login) (nobody.start {}) = .ok [] ∧
      answer fails (.login login) (fails.start {}) = .error .notAvailable ∧
      (person? found login (found.start {})).1.map Person.identity = identity ∧
      (person? found login remembered).1.map Person.identity = identity ∧
      (person? nobody login (nobody.start {})).1.map Person.identity = identity ∧
      (person? fails login (fails.start {})).1.map Person.identity = identity := by
  intro login anna site found nobody fails remembered identity
  have htrim : Text.trim login = login := by decide +kernel
  have hnumber : readInteger? login = none := by decide +kernel
  have hanna : anna.IsOf login := ⟨rfl, rfl⟩
  have hfound : answer found (.login login) (found.start {}) = .ok [anna] := by decide +kernel
  have hremembered : answer found (.login login) remembered = .ok [anna] := by decide +kernel
  have hnobody : answer nobody (.login login) (nobody.start {}) = .ok [] := by decide +kernel
  have hfails : answer fails (.login login) (fails.start {}) = .error .notAvailable := by
    decide +kernel
  have hidentity : (person? found login (found.start {})).1.map Person.identity = identity := by
    decide +kernel
  have hsame := (identity_of_person? found.users).1
  have hany : LoginAnswer login (answer found (.login login) (found.start {})) :=
    hfound ▸ .found hanna []
  refine ⟨htrim, hnumber, hfound, hremembered, hnobody, hfails, hidentity, ?_, ?_, ?_⟩
  · rw [← hidentity]
    exact hsame found found login _ _ rfl rfl htrim hnumber (hremembered ▸ .found hanna []) hany
  · rw [← hidentity]
    exact hsame nobody found login _ _ rfl rfl htrim hnumber (hnobody ▸ .nobody) hany
  · rw [← hidentity]
    exact hsame fails found login _ _ rfl rfl htrim hnumber (hfails ▸ .fails .notAvailable) hany

end Run

end PageMigration
