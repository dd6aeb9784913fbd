import PageMigration.Proofs.Catalog.LinkHosts
import PageMigration.Proofs.Chars.Separators
import PageMigration.Proofs.Json.ReadBack
import PageMigration.Proofs.Run.People

/-!
# Authors of a page

A field names people by identities with display names after them, or by identities alone.  Blanks
around an identity are dropped before it is looked up, and a blank identity is not looked up at all,
but neither matters: each identity is resolved as it stands in the field, and a blank one names
nobody.  Nobody gets lost and nobody is made up, whatever display names look like and however
look-ups end.

## Main definitions

* `PageField.lookupValue` : the text of a field with identities and display names.
* `Run.Resolves` : persons that identities name, one after the other.
* `ListsAuthors` : what it is for a call to list the persons that identities name.

## Main results

* `PageField.people_lookupValue`, `PageField.people_of_not_isInfix` : the identities in a field.
* `Run.Resolves.mapM_lookedUp` : blanks do not matter.
* `listed_authors` : the authors of a page.
-/

namespace PageMigration

/-! ### Identities in a field -/

namespace PageField

/-- The text of a field that names people by identities with display names after them. -/
def lookupValue (people : List (String × String)) : String :=
  Text.join ";#" (people.flatMap fun (identity, name) => [identity, name])

/-- Identities as they are looked up: without blanks around them, and blank ones left out. -/
def lookedUp (identities : List String) : List String :=
  (identities.map Text.trim).filter fun identity => !identity.isEmpty

theorem everyOther_flatMap {α : Type} (pairs : List (α × α)) :
    everyOther (pairs.flatMap fun (a, b) => [a, b]) = pairs.map Prod.fst := by
  induction pairs with
  | nil => rfl
  | cons pair pairs ih => exact congrArg (pair.1 :: ·) ih

/-- Texts that do not hold the separator are found again between its occurrences. -/
theorem splitAtAll_join {parts : List String} (hne : parts ≠ [])
    (h : ∀ p ∈ parts, ¬ ";#".toList <:+: p.toList) :
    Text.splitAtAll ";#" (Text.join ";#" parts) = parts := by
  have hpieces : ∀ s ∈ parts.map String.toList, ¬ [';', '#'] <:+: s :=
    List.forall_mem_map.mpr h
  have hsplit := Chars.splitAtAll_intercalate (by decide) (mt List.map_eq_nil_iff.mp hne) hpieces
  rw [Text.splitAtAll, Text.join, String.toList_intercalate]
  exact (congrArg (List.map String.ofList) hsplit).trans (by simp)

theorem holds_lookupValue {pairs : List (String × String)} (hne : pairs ≠ []) :
    Text.holds ";#" (lookupValue pairs) := by
  obtain ⟨⟨identity, name⟩, rest, rfl⟩ := List.exists_cons_of_ne_nil hne
  rw [Text.holds, Chars.holds_iff, lookupValue, Text.join, String.toList_intercalate,
    List.flatMap_cons, List.cons_append, List.cons_append, List.map_cons, List.map_cons,
    List.intercalate_cons_cons, List.append_assoc]
  exact (List.prefix_append ..).isInfix.trans (List.suffix_append ..).isInfix

/-- Every other piece of a field is an identity. -/
theorem people_lookupValue {pairs : List (String × String)} (hne : pairs ≠ [])
    (h : ∀ p ∈ pairs, ¬ ";#".toList <:+: p.1.toList ∧ ¬ ";#".toList <:+: p.2.toList) :
    people (lookupValue pairs) = lookedUp (pairs.map Prod.fst) := by
  have hparts : ∀ part ∈ pairs.flatMap fun (identity, name) => [identity, name],
      ¬ ";#".toList <:+: part.toList := by
    intro part hpart
    obtain ⟨⟨identity, name⟩, hpair, hpart⟩ := List.mem_flatMap.mp hpart
    obtain ⟨hidentity, hname⟩ := h _ hpair
    rcases List.mem_pair.mp hpart with rfl | rfl
    · exact hidentity
    · exact hname
  have hsome : pairs.flatMap (fun (identity, name) => [identity, name]) ≠ [] := by
    obtain ⟨⟨identity, name⟩, rest, rfl⟩ := List.exists_cons_of_ne_nil hne
    exact List.cons_ne_nil _ _
  rw [people, if_pos (holds_lookupValue hne), lookupValue, splitAtAll_join hsome hparts,
    everyOther_flatMap, lookedUp]

/-- Without the separator, semicolons part the identities in a field. -/
theorem people_of_not_isInfix {field : String} (h : ¬ ";#".toList <:+: field.toList) :
    people field = lookedUp ((field.toList.splitOn ';').map String.ofList) := by
  have hholds : ¬ Text.holds ";#" field := fun hholds => h (Chars.holds_iff.mp hholds)
  rw [people, if_neg hholds, Text.splitOn, Chars.splitOn_eq, lookedUp]

end PageField

/-! ### Persons that identities name -/

namespace Run

variable {ctx : Context} {s t : RunState} {identities : List String}
  {people : List (Option Person)}

/-- Persons that identities name, one after the other; each look-up goes on with the state that the
one before it leaves. -/
inductive Resolves (ctx : Context) :
    RunState → List String → List (Option Person) → RunState → Prop
  | nil {s : RunState} : Resolves ctx s [] [] s
  | cons {s t u : RunState} {identity : String} {person : Option Person}
      {identities : List String} {people : List (Option Person)}
      (h : person? ctx identity s = (person, t)) (hrest : Resolves ctx t identities people u) :
      Resolves ctx s (identity :: identities) (person :: people) u

/-- Each identity is resolved in every run. -/
theorem exists_resolves (ctx : Context) (identities : List String) (s : RunState) :
    ∃ people t, Resolves ctx s identities people t := by
  induction identities generalizing s with
  | nil => exact ⟨[], s, .nil⟩
  | cons identity identities ih =>
      rcases hperson : person? ctx identity s with ⟨person, t⟩
      obtain ⟨people, u, hrest⟩ := ih t
      exact ⟨person :: people, u, .cons hperson hrest⟩

/-- Exactly the blank identities name nobody. -/
theorem Resolves.forall₂ (h : Resolves ctx s identities people t) :
    List.Forall₂ (fun identity person => person = none ↔ Text.isBlank identity)
      identities people := by
  induction h with
  | nil => exact .nil
  | @cons s _ _ identity _ _ _ hperson _ ih =>
      have hblank := @person?_eq_none_iff ctx identity s
      rw [hperson] at hblank
      exact .cons hblank ih

/-- A text names the same person without the blanks around it. -/
theorem person?_trim (ctx : Context) (text : String) :
    person? ctx (Text.trim text) = person? ctx text := by
  rw [person?, person?, Text.trim_trim]

/-- Nothing is looked up for a blank text. -/
theorem person?_of_trim_isEmpty (ctx : Context) {text : String} (h : (Text.trim text).isEmpty)
    (s : RunState) : person? ctx text s = (none, s) := by
  rw [person?, if_pos h]
  rfl

/-- The identities that are looked up name the same persons as all identities. -/
theorem Resolves.mapM_lookedUp (h : Resolves ctx s identities people t) :
    ∃ found, (PageField.lookedUp identities).mapM (person? ctx) s = (found, t) ∧
      found.filterMap id = people.filterMap id := by
  induction h with
  | nil => exact ⟨[], rfl, rfl⟩
  | @cons s t u identity person identities people hperson _ ih =>
      obtain ⟨found, hfound, hsame⟩ := ih
      rw [PageField.lookedUp, List.map_cons]
      by_cases hempty : (Text.trim identity).isEmpty
      · -- What is left out would have named nobody and asked nothing.
        obtain ⟨rfl, rfl⟩ := Prod.mk.inj (hperson.symm.trans (person?_of_trim_isEmpty ctx hempty s))
        rw [List.filter_cons_of_neg (by simp [hempty])]
        exact ⟨found, hfound, hsame⟩
      · rw [List.filter_cons_of_pos (by simp [hempty]), List.mapM_cons, person?_trim]
        refine ⟨person :: found, (bind_of_eq hperson).trans (bind_of_eq hfound), ?_⟩
        rw [List.filterMap_cons, List.filterMap_cons, hsame]

end Run

/-! ### Authors -/

/-- What it is for a call to list the persons that identities name: each identity that is not blank
names one person, and the text that the call yields is an array with an entry for each of these
persons that is not a group. -/
def ListsAuthors (ctx : Context) (s : RunState) (call : FunctionCall) (identities : List String) :
    Prop :=
  ∃ people t json, Run.Resolves ctx s identities people t ∧
    List.Forall₂ (fun identity person => person = none ↔ Text.isBlank identity)
      identities people ∧
    Library.publishing.invoke ctx call s = (.ok (.text json), t) ∧
    Json.ofText? json = some (.array (((people.filterMap id).filter (!·.isGroup)).map fun person =>
      .object [("id", .string ("i:0#.f|membership|" ++ person.login)),
        ("upn", .string person.login), ("name", .string person.name),
        ("role", .string person.role)]))

theorem PageField.textual_authors (authors : List Person) :
    Json.Textual Json.deepest (.array (authors.map authorJson)) := by
  have hauthor (person : Person) : Json.Textual 126 (authorJson person) := by
    refine .object ?_
    simp [Json.Textual.string]
  refine .array ?_
  rw [List.forall_mem_map]
  exact fun person _ => hauthor person

theorem Library.find?_toAuthors :
    ∃ e, Library.publishing.find? "ToAuthors" = some e ∧ e.arity = 1 ∧
      e.body = .ofRun fun ctx args => return .text (← Run.authors ctx (args.text 0)) :=
  ⟨_, rfl, rfl, rfl⟩

/-- A call lists the persons that identities name if they are the identities in its field. -/
theorem FunctionCall.IsOn.listsAuthors {call : FunctionCall} {field : String}
    (hcall : call.IsOn "ToAuthors" field) {identities : List String}
    (hpeople : PageField.people field = PageField.lookedUp identities) (ctx : Context)
    (s : RunState) : ListsAuthors ctx s call identities := by
  obtain ⟨people, t, hresolves⟩ := Run.exists_resolves ctx identities s
  obtain ⟨found, hfound, hsame⟩ := hresolves.mapM_lookedUp
  have hauthors : Run.authors ctx field s = ((Json.array (((people.filterMap id).filter
      (!·.isGroup)).map PageField.authorJson)).compact, t) := by
    rw [← hpeople] at hfound
    rw [← hsame]
    exact Run.bind_of_eq hfound
  refine ⟨people, t, _, hresolves, hresolves.forall₂, ?_,
    (PageField.textual_authors _).ofText?_compact⟩
  rw [← hcall.text] at hauthors
  exact Library.invoke_of_parameters Library.find?_toAuthors hcall.addOn hcall.name hcall.single
    (Run.bind_of_eq (Run.bind_of_eq hauthors))

/-- **Authors.** Where a field names people by identities with display names after them, the authors
are the persons that the identities name, in order and without groups, as long as the separator
stands in no identity and in no display name.  Where the separator is not in the field at all, the
pieces between semicolons are the identities. -/
theorem listed_authors (ctx : Context) (s : RunState) :
    (∀ (pairs : List (String × String)) (call : FunctionCall), pairs ≠ [] →
      (∀ p ∈ pairs, ¬ ";#".toList <:+: p.1.toList ∧ ¬ ";#".toList <:+: p.2.toList) →
      call.IsOn "ToAuthors" (PageField.lookupValue pairs) →
        ListsAuthors ctx s call (pairs.map Prod.fst)) ∧
    ∀ (field : String) (call : FunctionCall), ¬ ";#".toList <:+: field.toList →
      call.IsOn "ToAuthors" field →
        ListsAuthors ctx s call ((field.toList.splitOn ';').map String.ofList) := by
  refine ⟨fun pairs call hne hseparator hcall => ?_, fun field call hseparator hcall => ?_⟩
  · exact hcall.listsAuthors (PageField.people_lookupValue hne hseparator) ctx s
  · exact hcall.listsAuthors (PageField.people_of_not_isInfix hseparator) ctx s

/-- A call that lists authors. -/
def listing (field : String) : FunctionCall where
  addOn := ""
  name := "ToAuthors"
  output := "Authors"
  inputs := [{ name := "PublishingContact", value := field }]

theorem isOn_listing (field : String) : (listing field).IsOn "ToAuthors" field :=
  ⟨rfl, rfl, rfl, rfl⟩

/-- A user who is found, a group and a login, with display names that look like separators; and
logins where nothing is found. -/
theorem listed_authors_of_staff :
    let anna : UserRecord :=
      { id := 7, loginName := "i:0#.w|contoso\\anna", name := "Anna Smith", jobTitle := "Editor" }
    let site : Snapshot := { web := .ofUrl "https://old.com/a", users := [anna] }
    let found : Context := { source := site.source }
    let fails : Context := { source := site.source.interrupted fun _ => .always }
    let pairs := [("7", "Smith;"), ("c:0(.s|true", "#Everyone"), (" ", "Nobody"), ("bob", "Bob")]
    let value := "7;#Smith;;#c:0(.s|true;##Everyone;# ;#Nobody;#bob;#Bob"
    let logins := "i:0#.w|contoso\\anna; ;bob"
    PageField.lookupValue pairs = value ∧ pairs ≠ [] ∧
      (∀ p ∈ pairs, ¬ ";#".toList <:+: p.1.toList ∧ ¬ ";#".toList <:+: p.2.toList) ∧
      ListsAuthors found (found.start {}) (listing value) ["7", "c:0(.s|true", " ", "bob"] ∧
      (Library.publishing.invoke found (listing value) (found.start {})).1 = .ok (.text
        ("[\x7b\"id\":\"i:0#.f|membership|contoso\\\\anna\",\"upn\":\"contoso\\\\anna\"," ++
          "\"name\":\"Anna Smith\",\"role\":\"Editor\"\x7d," ++
          "\x7b\"id\":\"i:0#.f|membership|bob\",\"upn\":\"bob\"," ++
          "\"name\":\"bob\",\"role\":\"\"\x7d]")) ∧
      ¬ ";#".toList <:+: logins.toList ∧
      ListsAuthors fails (fails.start {}) (listing logins)
        ["i:0#.w|contoso\\anna", " ", "bob"] := by
  intro anna site found fails pairs value logins
  have hvalue : PageField.lookupValue pairs = value := by decide +kernel
  have hne : pairs ≠ [] := List.cons_ne_nil _ _
  have hparts : ∀ p ∈ pairs, ¬ ";#".toList <:+: p.1.toList ∧ ¬ ";#".toList <:+: p.2.toList := by
    decide +kernel
  have hlogins : ¬ ";#".toList <:+: logins.toList := by decide +kernel
  have hpieces : (logins.toList.splitOn ';').map String.ofList =
      ["i:0#.w|contoso\\anna", " ", "bob"] := by
    decide +kernel
  refine ⟨hvalue, hne, hparts, ?_, by decide +kernel, hlogins, ?_⟩
  · exact (listed_authors found (found.start {})).1 pairs (listing value) hne hparts
      (hvalue ▸ isOn_listing value)
  · rw [← hpieces]
    exact (listed_authors fails (fails.start {})).2 logins (listing logins) hlogins
      (isOn_listing logins)

end PageMigration
