import PageMigration.Proofs.Catalog.Refusal
import PageMigration.Proofs.Encoding.PlainEnd
import PageMigration.Site.Snapshot

/-!
# Paths of lists in their web

The path of a list in its web is the path of the list without that of the web.  The letters of the
two may differ in case, which does not change the number of bytes, so what is left off is as long as
the path of the web.  A list of another web whose path goes on with more letters loses these as
well, though it does not lie in the web.

## Main definitions

* `Web.IsRest` : what is left of a path without the path of a web.
* `FunctionCall.LocatesList` : calls that ask for the path of a list in its web.

## Main results

* `Utf8.length_encode_of_sameName` : texts that differ in case have as many bytes.
* `ListUse.webRelativePath_of_containsPath`, `ListUse.webRelativePath_of_startsWithName` : the path
  of a list that lies in the web, and of one of another web with a longer name.
* `located_lists` : what the function yields.
-/

namespace PageMigration

/-! ### Bytes of texts in other letters -/

namespace Utf8

theorem encode_append (s t : String) : encode (s ++ t) = encode s ++ encode t := by
  rw [← String.ofList_toList (s := s ++ t), String.toList_append, encode_ofList_append,
    String.ofList_toList, String.ofList_toList]

theorem length_utf8EncodeChar_toLower (c : Char) :
    (String.utf8EncodeChar c.toLower).length = (String.utf8EncodeChar c).length := by
  by_cases h : c.toNat < 128
  · have hlower : c.toLower.toNat < 128 :=
      Chars.forall_ascii (p := fun c => c.toLower.toNat < 128) (by decide) h
    rw [utf8EncodeChar_of_lt h, utf8EncodeChar_of_lt hlower]
    rfl
  · rw [Chars.toLower_of_not_ascii h]

/-- Texts that differ in the case of ASCII letters have as many bytes. -/
theorem length_encode_of_sameName {a b : String} (h : Text.sameName a b) :
    (encode a).length = (encode b).length := by
  have hlower (s : List Char) :
      (encode (String.ofList (Chars.lower s))).length = (encode (String.ofList s)).length := by
    induction s with
    | nil => rfl
    | cons c s ih =>
        rw [encode_ofList, encode_ofList] at *
        rw [Chars.lower, List.map_cons, ← Chars.lower, List.flatMap_cons, List.flatMap_cons,
          List.length_append, List.length_append, ih, length_utf8EncodeChar_toLower]
  rw [← String.ofList_toList (s := a), ← String.ofList_toList (s := b), ← hlower a.toList,
    ← hlower b.toList, Chars.sameName_iff.mp h]

end Utf8

/-! ### What is left of a path -/

/-- A text that begins with another one in some case of ASCII letters. -/
theorem Text.startsWithName_iff {start s : String} : startsWithName start s ↔
    ∃ a rest, s = a ++ rest ∧ sameName a start := by
  rw [startsWithName, List.isPrefixOf_iff_prefix]
  constructor
  · rintro ⟨rest, hrest⟩
    rw [eq_comm, Chars.lower, List.map_eq_append_iff] at hrest
    obtain ⟨a, tail, hs, ha, -⟩ := hrest
    refine ⟨String.ofList a, String.ofList tail, ?_, ?_⟩
    · rw [← String.ofList_append, ← hs, String.ofList_toList]
    · rw [sameName, String.toList_ofList]
      exact Chars.sameName_iff.mpr ha
  · rintro ⟨a, rest, rfl, ha⟩
    rw [String.toList_append, Chars.lower_append, Chars.sameName_iff.mp ha]
    exact List.prefix_append _ _

namespace Web

/-- What is left of a path without its beginning, which is the path of a web in some case of ASCII
letters and has as many bytes. -/
structure IsRest (web : Web) (url rest : String) : Prop where
  bytes : Utf8.encode rest = (Utf8.encode url).drop (Utf8.encode web.path).length
  exists_start : ∃ start, url = start ++ rest ∧ Text.sameName start web.path ∧
    (Utf8.encode start).length = (Utf8.encode web.path).length

variable {web : Web} {url start rest : String}

theorem isRest_append (h : Text.sameName start web.path) : web.IsRest (start ++ rest) rest where
  bytes := by
    rw [Utf8.encode_append, ← Utf8.length_encode_of_sameName h, List.drop_left]
  exists_start := ⟨start, rfl, h, Utf8.length_encode_of_sameName h⟩

/-- A path that begins with that of a web lies in the web iff it ends there or goes on with a slash,
or the web is at the root of the server. -/
theorem containsPath_append_iff (h : Text.sameName start web.path) :
    web.containsPath (start ++ rest) ↔
      web.path = "" ∨ rest = "" ∨ rest.toList.head? = some '/' := by
  have hempty (s : String) : Chars.lower s.toList = [] ↔ s = "" := by
    rw [Chars.lower, List.map_eq_nil_iff, String.toList_eq_nil_iff]
  have hslash : ['/'] <+: Chars.lower rest.toList ↔ rest.toList.head? = some '/' := by
    cases rest.toList with
    | nil => simp [Chars.lower]
    | cons c tail =>
        rw [Chars.lower, List.map_cons, List.cons_prefix_cons, List.head?_cons, Option.some_inj]
        refine ⟨fun hc => Chars.eq_slash_of_toLower hc.1.symm, ?_⟩
        rintro rfl
        exact ⟨rfl, List.nil_prefix⟩
  simp only [containsPath, String.toList_append, Chars.lower_append, Chars.sameName_iff.mp h,
    Bool.or_eq_true, List.isEmpty_iff, beq_iff_eq, List.isPrefixOf_iff_prefix, hempty,
    List.append_right_eq_self, List.prefix_append_right_inj, hslash, or_assoc]

/-- What lies in a web begins with its path. -/
theorem startsWithName_of_containsPath (h : web.containsPath url) :
    Text.startsWithName web.path url := by
  rw [Text.startsWithName_iff]
  rcases containsPath_iff.mp h with hroot | hsame | ⟨start, rest, hurl, hstart⟩
  · rw [hroot]
    exact ⟨"", url, String.empty_append.symm, Text.sameName_self ""⟩
  · exact ⟨url, "", String.append_empty.symm, hsame⟩
  · refine ⟨String.ofList start, String.ofList ('/' :: rest), ?_, ?_⟩
    · rw [← String.ofList_append, ← hurl, String.ofList_toList]
    · rwa [Text.sameName, String.toList_ofList]

end Web

/-! ### Paths of lists -/

namespace ListUse

variable {web : Web} {list : SiteList} {start rest : String}

theorem webRelativePath_of_not (h : Text.startsWithName web.path list.serverRelativeUrl = false) :
    webRelativePath web list = list.serverRelativeUrl := by
  rw [webRelativePath, h, if_neg Bool.false_ne_true]

theorem webRelativePath_append (hurl : list.serverRelativeUrl = start ++ rest)
    (hstart : Text.sameName start web.path) : webRelativePath web list = rest := by
  have hstarts : Text.startsWithName web.path list.serverRelativeUrl :=
    Text.startsWithName_iff.mpr ⟨start, rest, hurl, hstart⟩
  have hlength : web.path.length = start.toList.length := by
    rw [← String.length_toList, ← Chars.length_lower, ← Chars.sameName_iff.mp hstart,
      Chars.length_lower]
  rw [webRelativePath, hstarts, if_pos rfl, hurl, String.toList_append, hlength, List.drop_left,
    String.ofList_toList]

/-- The path of a list that lies in the web is what is left of its path on the server: all of it in
a web at the root of the server, and otherwise nothing or a path from a slash on. -/
theorem webRelativePath_of_containsPath (h : web.containsPath list.serverRelativeUrl) :
    web.IsRest list.serverRelativeUrl (webRelativePath web list) ∧
      (web.path = "" ∧ webRelativePath web list = list.serverRelativeUrl ∨
        webRelativePath web list = "" ∨ (webRelativePath web list).toList.head? = some '/') := by
  obtain ⟨start, rest, hurl, hstart⟩ :=
    Text.startsWithName_iff.mp (Web.startsWithName_of_containsPath h)
  rw [webRelativePath_append hurl hstart, hurl]
  rw [hurl, Web.containsPath_append_iff hstart] at h
  refine ⟨Web.isRest_append hstart, h.imp_left fun hroot => ⟨hroot, ?_⟩⟩
  rw [hroot, Text.sameName, Chars.sameName_iff] at hstart
  have hnil : start = "" := String.toList_eq_nil_iff.mp (List.map_eq_nil_iff.mp hstart)
  rw [hnil, String.empty_append]

/-- A list outside of the web whose path begins with that of the web is cut in the middle of a
name. -/
theorem webRelativePath_of_startsWithName
    (h : web.containsPath list.serverRelativeUrl = false)
    (hstarts : Text.startsWithName web.path list.serverRelativeUrl) :
    web.IsRest list.serverRelativeUrl (webRelativePath web list) ∧
      webRelativePath web list ≠ list.serverRelativeUrl ∧ webRelativePath web list ≠ "" ∧
        (webRelativePath web list).toList.head? ≠ some '/' := by
  obtain ⟨start, rest, hurl, hstart⟩ := Text.startsWithName_iff.mp hstarts
  rw [webRelativePath_append hurl hstart, hurl]
  rw [hurl, ← Bool.not_eq_true, Web.containsPath_append_iff hstart, not_or, not_or] at h
  obtain ⟨hroot, hrest, hslash⟩ := h
  refine ⟨Web.isRest_append hstart, fun heq => hroot ?_, hrest, hslash⟩
  have hnil : start = "" := String.append_eq_right_iff.mp heq.symm
  rw [hnil, Text.sameName_comm, Text.sameName, Chars.sameName_iff] at hstart
  exact String.toList_eq_nil_iff.mp (List.map_eq_nil_iff.mp hstart)

end ListUse

/-! ### The function that locates lists -/

/-- A call that asks for the path of a list in its web. -/
structure FunctionCall.LocatesList (call : FunctionCall) (id : Guid) : Prop where
  addOn : call.addOn = ""
  name : call.name = "ListAddWebRelativeUrl"
  single : call.inputs.length = 1
  list : (Library.arguments call).guid 0 = id

theorem Library.find?_listAddWebRelativeUrl :
    ∃ e, Library.general.find? "ListAddWebRelativeUrl" = some e ∧ e.arity = 1 ∧
      e.body = .ofRun fun ctx args => do
        return Catalog.listProperty "ListWebRelativeUrl" (ListUse.webRelativePath ctx.source.web)
          (← Run.list? ctx (args.guid 0)) :=
  ⟨_, rfl, rfl, rfl⟩

theorem FunctionCall.LocatesList.invoke_eq {call : FunctionCall} {id : Guid} {ctx : Context}
    {s t : RunState} {found : Option SiteList} (h : call.LocatesList id)
    (hlist : Run.list? ctx id s = (found, t)) :
    Library.general.invoke ctx call s = (.ok (Catalog.listProperty "ListWebRelativeUrl"
      (ListUse.webRelativePath ctx.source.web) found), t) := by
  rw [← h.list] at hlist
  exact Library.invoke_of_parameters Library.find?_listAddWebRelativeUrl h.addOn h.name h.single
    (Run.bind_of_eq (Run.bind_of_eq hlist))

/-- **Paths of lists.** Nothing is yielded for a list that is not found.  A list that lies in the
source web gets what is left of its path on the server without the path of the web, byte by byte.
The path of another list is kept if it does not begin with the path of the web, and only then;
otherwise it is cut in the middle of a name. -/
theorem located_lists {ctx : Context} {call : FunctionCall} {id : Guid} {s t : RunState}
    {found : Option SiteList} (hcall : call.LocatesList id)
    (hlist : Run.list? ctx id s = (found, t)) :
    let web := ctx.source.web
    let Yields properties := Library.general.invoke ctx call s = (.ok (.map properties), t)
    (found = none → Yields []) ∧
    ∀ list, found = some list → ∃ path, Yields [("ListWebRelativeUrl", path)] ∧
      let url := list.serverRelativeUrl
      (web.containsPath url → web.IsRest url path ∧
        (web.path = "" ∧ path = url ∨ path = "" ∨ path.toList.head? = some '/')) ∧
      (web.containsPath url = false → (path = url ↔ Text.startsWithName web.path url = false) ∧
        (Text.startsWithName web.path url →
          web.IsRest url path ∧ path ≠ "" ∧ path.toList.head? ≠ some '/')) := by
  intro web Yields
  have hyields := hcall.invoke_eq hlist
  refine ⟨?_, ?_⟩
  · rintro rfl
    exact hyields
  rintro list rfl
  refine ⟨ListUse.webRelativePath web list, hyields, ListUse.webRelativePath_of_containsPath,
    fun houtside => ⟨⟨fun hkept => ?_, ListUse.webRelativePath_of_not⟩, fun hstarts => ?_⟩⟩
  · rw [← Bool.not_eq_true]
    intro hstarts
    exact (ListUse.webRelativePath_of_startsWithName houtside hstarts).2.1 hkept
  · obtain ⟨hrest, -, hcut⟩ := ListUse.webRelativePath_of_startsWithName houtside hstarts
    exact ⟨hrest, hcut⟩

/-- A call that asks for the path of a list in its web. -/
def locatingList (id : Guid) : FunctionCall where
  addOn := ""
  name := "ListAddWebRelativeUrl"
  output := "ListWebRelativeUrl"
  inputs := [{ name := "ListId", type := .guid, value := id.text }]

/-- A list of tasks at a path. -/
def tasksAt (path : String) : SiteList where
  id := ⟨7⟩
  title := "Tasks"
  baseTemplate := 107
  serverRelativeUrl := path

/-- A run from a web with a list of tasks. -/
def tasksRun (path : String) : Context where
  source := Snapshot.source { web := ⟨"https://old.com/A%C3%A9", "/Aé/"⟩, lists := [tasksAt path] }

theorem locatesList_locatingList : (locatingList ⟨7⟩).LocatesList ⟨7⟩ :=
  ⟨rfl, rfl, rfl, by decide +kernel⟩

theorem invoke_locatingList (path : String) :
    (Library.general.invoke (tasksRun path) (locatingList ⟨7⟩) ((tasksRun path).start {})).1 =
      .ok (.map [("ListWebRelativeUrl",
        ListUse.webRelativePath (tasksRun path).source.web (tasksAt path))]) := by
  have hlist : Run.list? (tasksRun path) ⟨7⟩ ((tasksRun path).start {}) =
      (some (tasksAt path), _) := rfl
  exact congrArg Prod.fst (locatesList_locatingList.invoke_eq hlist)

/-- A list in the web, the path of which is spelled with a small letter. -/
theorem located_lists_of_tasks :
    let ctx := tasksRun "/aé/Lists/Tasks"
    let s := ctx.start {}
    (locatingList ⟨7⟩).LocatesList ⟨7⟩ ∧
      (Run.list? ctx ⟨7⟩ s).1 = some (tasksAt "/aé/Lists/Tasks") ∧
      ctx.source.web.containsPath "/aé/Lists/Tasks" ∧
      ctx.source.web.IsRest "/aé/Lists/Tasks" "/Lists/Tasks" ∧
      (Library.general.invoke ctx (locatingList ⟨7⟩) s).1 =
        .ok (.map [("ListWebRelativeUrl", "/Lists/Tasks")]) := by
  intro ctx s
  have hlist : Run.list? ctx ⟨7⟩ s = (some (tasksAt "/aé/Lists/Tasks"), _) := rfl
  have hinside : ctx.source.web.containsPath "/aé/Lists/Tasks" := by decide +kernel
  have hrelative : ListUse.webRelativePath ctx.source.web (tasksAt "/aé/Lists/Tasks") =
      "/Lists/Tasks" := by decide +kernel
  have hyields := invoke_locatingList "/aé/Lists/Tasks"
  obtain ⟨-, hfound⟩ := located_lists locatesList_locatingList hlist
  obtain ⟨path, hinvoke, hrest, -⟩ := hfound _ rfl
  have hpath : path = "/Lists/Tasks" := by
    rw [congrArg Prod.fst hinvoke, hrelative] at hyields
    simpa using hyields
  exact ⟨locatesList_locatingList, rfl, hinside, hpath ▸ (hrest hinside).1, hrelative ▸ hyields⟩

/-- The path of a list of another web is cut in the middle of a name. -/
theorem located_lists_of_other_web :
    let ctx := tasksRun "/aéb/Lists/Tasks"
    ctx.source.web.containsPath "/aéb/Lists/Tasks" = false ∧
      (Library.general.invoke ctx (locatingList ⟨7⟩) (ctx.start {})).1 =
        .ok (.map [("ListWebRelativeUrl", "b/Lists/Tasks")]) := by
  have hrelative : ListUse.webRelativePath (tasksRun "/aéb/Lists/Tasks").source.web
      (tasksAt "/aéb/Lists/Tasks") = "b/Lists/Tasks" := by decide +kernel
  exact ⟨by decide +kernel, hrelative ▸ invoke_locatingList "/aéb/Lists/Tasks"⟩

end PageMigration
