import PageMigration.Catalog.Library
import PageMigration.Proofs.Site.TrailingSlashes
import PageMigration.Site.Snapshot

/-!
# Runs from a web with slashes

What a run is told about the source web is its path, its host, where links are redirected, and
whether content moves to another web.  A run from a web with slashes at the end of its address
is told the same of all but the last: the test for another web compares the spelled addresses.
If the target is another web anyway, every function yields the same.

## Main definitions

* `Context.respelled` : a run whose source web is spelled in another way.
* `Context.SeenAlike` : what is seen of the source web is the same in the other spelling.
* `Context.slashed` : a run from a web with slashes.
* `Web.SamePlace` : webs of one address and path, slashes at the end and case left aside.

## Main results

* `Library.invoke_respelled` : functions do not see the spelling itself.
* `Context.slashed_withTarget` : what slashes at the end of the address do not change.
-/

namespace PageMigration

/-! ### Spellings of the source web -/

namespace Context

/-- A run whose source web is spelled in another way, with the redirection of links for it. -/
def respelled (ctx : Context) (web : Web) (links : UrlMapping) : Context :=
  { ctx with source := { ctx.source with web }, links }

/-- What is seen of the source web is the same in another spelling. -/
structure SeenAlike (ctx : Context) (web : Web) (links : UrlMapping) : Prop where
  path : web.path = ctx.source.web.path
  isCrossSite : (ctx.respelled web links).isCrossSite = ctx.isCrossSite
  hostUrl : (ctx.respelled web links).targetWeb.hostUrl = ctx.targetWeb.hostUrl
  links : ∀ text, links.apply text = ctx.links.apply text

end Context

section

variable {ctx : Context} {web : Web} {links : UrlMapping}

open Context

theorem Web.containsPath_of_path_eq {web web' : Web} (h : web.path = web'.path) (path : String) :
    web.containsPath path = web'.containsPath path := by
  rw [containsPath, containsPath, h]

theorem ContentQuery.location_of_path_eq {web web' : Web} (h : web.path = web'.path)
    (webUrl : String) (hasList : Bool) :
    location web webUrl hasList = location web' webUrl hasList := by
  rw [location, location, h]

theorem ListUse.webRelativePath_of_path_eq {web web' : Web} (h : web.path = web'.path) :
    webRelativePath web = webRelativePath web' := by
  funext list
  rw [webRelativePath, webRelativePath, h]

/-- A transfer sees the path of the source web and whether content moves to another web. -/
theorem Run.transfer_respelled (hpath : web.path = ctx.source.web.path)
    (hcross : (ctx.respelled web links).isCrossSite = ctx.isCrossSite) (link : String) :
    transfer (ctx.respelled web links) link = transfer ctx link := by
  have hinside := Web.containsPath_of_path_eq hpath
  unfold transfer
  simp only [hcross]
  simp only [respelled, hinside]
  rfl

namespace Context.SeenAlike

variable (h : ctx.SeenAlike web links)
include h

theorem mapLinks : (ctx.respelled web links).mapLinks = ctx.mapLinks := by
  funext text
  rw [Context.mapLinks, Context.mapLinks]
  simp only [respelled, h.links]

theorem transfer : Run.transfer (ctx.respelled web links) = Run.transfer ctx :=
  funext (Run.transfer_respelled h.path h.isCrossSite)

theorem linkedFile? : Run.linkedFile? (ctx.respelled web links) = Run.linkedFile? ctx := by
  funext link
  unfold Run.linkedFile?
  simp only [respelled, Web.containsPath_of_path_eq h.path]
  rfl

theorem linkedText :
    Catalog.linkedText (ctx.respelled web links) = Catalog.linkedText ctx := by
  funext link
  unfold Catalog.linkedText
  simp only [respelled, Web.containsPath_of_path_eq h.path]
  rfl

theorem imageAnchor :
    Catalog.imageAnchor (ctx.respelled web links) = Catalog.imageAnchor ctx := by
  funext link
  unfold Catalog.imageAnchor
  rw [h.transfer, h.mapLinks]
  rfl

theorem fileProperties (kind : String) :
    Catalog.fileProperties kind (ctx.respelled web links) = Catalog.fileProperties kind ctx := by
  funext link
  unfold Catalog.fileProperties
  rw [h.linkedFile?, h.transfer]

theorem documentProperties :
    Catalog.documentProperties (ctx.respelled web links) = Catalog.documentProperties ctx := by
  funext link
  unfold Catalog.documentProperties
  rw [h.linkedFile?]
  rfl

theorem mediaProperties :
    Catalog.mediaProperties (ctx.respelled web links) = Catalog.mediaProperties ctx := by
  funext link
  unfold Catalog.mediaProperties
  rw [h.fileProperties]

theorem channels (q : ContentQuery) :
    q.channels (ctx.respelled web links) = q.channels ctx := by
  have hfor (list : Option ContentQuery.QueriedList) :
      q.channelsFor (ctx.respelled web links) list = q.channelsFor ctx list := by
    unfold ContentQuery.channelsFor ContentQuery.queryJson
    simp only [respelled, ContentQuery.location_of_path_eq h.path]
  have hlist : q.queriedList (ctx.respelled web links) = q.queriedList ctx := by
    funext found
    rw [ContentQuery.queriedList, ContentQuery.queriedList, h.mapLinks]
  unfold ContentQuery.channels
  rw [hlist]
  simp only [hfor]
  rfl

theorem quickLinks :
    Run.quickLinks (ctx.respelled web links) = Run.quickLinks ctx := by
  have hlink : Run.quickLink (ctx.respelled web links) = Run.quickLink ctx := by
    funext link
    unfold Run.quickLink
    rw [h.mapLinks, h.transfer]
  funext markup base
  unfold Run.quickLinks
  rw [hlink]

theorem fieldImage : Run.fieldImage (ctx.respelled web links) = Run.fieldImage ctx := by
  funext field
  unfold Run.fieldImage
  rw [h.transfer]

theorem previewImage : Run.previewImage (ctx.respelled web links) = Run.previewImage ctx := by
  funext field
  unfold Run.previewImage
  rw [h.fieldImage, h.hostUrl]

theorem cleanText : (ctx.respelled web links).cleanText = ctx.cleanText := by
  funext html usePlaceholders
  rw [Context.cleanText, Context.cleanText, h.mapLinks]

theorem keptList : Catalog.keptList (ctx.respelled web links) = Catalog.keptList ctx := by
  funext id
  rw [Catalog.keptList, Catalog.keptList, h.isCrossSite]

end Context.SeenAlike

/-! ### Functions -/

/-- A function does the same in two runs. -/
def Body.SameIn (c d : Context) (body : Body) : Prop :=
  body c = body d

namespace Body

variable {c d : Context}

@[simp] theorem ofArguments_sameIn (f : Arguments → Output) : (ofArguments f).SameIn c d :=
  rfl

theorem ofContext_sameIn {f : Context → Arguments → Output} (h : f c = f d) :
    (ofContext f).SameIn c d := by
  funext args
  rw [ofContext, ofContext, h]

theorem ofRun_sameIn {f : Context → Arguments → Run Output} (h : f c = f d) :
    (ofRun f).SameIn c d := by
  funext args
  rw [ofRun, ofRun, h]

end Body

namespace Catalog

theorem constants_respelled :
    ∀ e ∈ constants, e.body.SameIn (ctx.respelled web links) ctx := by
  simp only [constants, List.mem_cons, forall_eq_or_imp, List.not_mem_nil, false_implies,
    implies_true, and_self, Body.ofArguments_sameIn]

theorem selectorEntries_respelled :
    ∀ e ∈ selectorEntries, e.body.SameIn (ctx.respelled web links) ctx := by
  simp only [selectorEntries, List.mem_cons, forall_eq_or_imp, List.not_mem_nil, false_implies,
    implies_true, and_true, Body.ofArguments_sameIn]
  exact Body.ofRun_sameIn rfl

variable (h : ctx.SeenAlike web links)
include h

theorem valueEntries_respelled :
    ∀ e ∈ valueEntries, e.body.SameIn (ctx.respelled web links) ctx := by
  simp only [valueEntries, List.mem_cons, forall_eq_or_imp, List.not_mem_nil, false_implies,
    implies_true, and_true, true_and, Body.ofArguments_sameIn]
  refine ⟨Body.ofContext_sameIn ?_, Body.ofContext_sameIn ?_⟩
  · simp only [h.cleanText]
  · simp only [h.keptList]

theorem lookupEntries_respelled :
    ∀ e ∈ lookupEntries, e.body.SameIn (ctx.respelled web links) ctx := by
  have hrelative : ListUse.webRelativePath web = ListUse.webRelativePath ctx.source.web :=
    ListUse.webRelativePath_of_path_eq h.path
  simp only [lookupEntries, List.mem_cons, forall_eq_or_imp, List.not_mem_nil, false_implies,
    implies_true, and_true]
  refine ⟨?_, ?_, ?_, ?_, ?_, ?_, ?_, ?_, ?_, ?_⟩
  · exact Body.ofRun_sameIn (by simp only [h.transfer])
  · exact Body.ofRun_sameIn (by simp only [h.linkedText])
  · exact Body.ofRun_sameIn (by simp only [h.fileProperties])
  · exact Body.ofRun_sameIn (by simp only [h.imageAnchor])
  · simp only [Body.SameIn, h.documentProperties]
  · simp only [Body.SameIn, h.mediaProperties]
  · exact Body.ofRun_sameIn rfl
  · refine Body.ofRun_sameIn ?_
    simp only [Context.respelled, hrelative]
    rfl
  · exact Body.ofRun_sameIn rfl
  · exact Body.ofRun_sameIn rfl

theorem partEntries_respelled :
    ∀ e ∈ partEntries, e.body.SameIn (ctx.respelled web links) ctx := by
  simp only [partEntries, List.mem_cons, forall_eq_or_imp, List.not_mem_nil, false_implies,
    implies_true, and_true, true_and, Body.ofArguments_sameIn]
  refine ⟨Body.ofRun_sameIn ?_, Body.ofRun_sameIn ?_⟩
  · simp only [h.channels]
  · simp only [h.quickLinks]

theorem fieldEntries_respelled :
    ∀ e ∈ fieldEntries, e.body.SameIn (ctx.respelled web links) ctx := by
  simp only [fieldEntries, List.mem_cons, forall_eq_or_imp, List.not_mem_nil, false_implies,
    implies_true, and_true, true_and, Body.ofArguments_sameIn]
  refine ⟨?_, ?_, ?_, ?_, ?_, ?_⟩
  · exact Body.ofRun_sameIn (by simp only [h.fieldImage])
  · exact Body.ofContext_sameIn (by simp only [PageField.imageAnchor, h.mapLinks])
  · exact Body.ofRun_sameIn (by simp only [h.previewImage])
  · exact Body.ofRun_sameIn rfl
  · exact Body.ofRun_sameIn rfl
  · exact Body.ofRun_sameIn rfl

end Catalog

namespace Library

variable (h : ctx.SeenAlike web links) (library : Library)
include h

theorem body_respelled {e : Entry} (he : e ∈ library.entries) :
    e.body.SameIn (ctx.respelled web links) ctx := by
  cases library with
  | general =>
      simp only [entries, List.mem_append] at he
      rcases he with (((he | he) | he) | he) | he
      · exact Catalog.constants_respelled e he
      · exact Catalog.valueEntries_respelled h e he
      · exact Catalog.lookupEntries_respelled h e he
      · exact Catalog.partEntries_respelled h e he
      · exact Catalog.selectorEntries_respelled e he
  | publishing =>
      rcases List.mem_append.mp he with he | he
      · exact Catalog.constants_respelled e he
      · exact Catalog.fieldEntries_respelled h e he

/-- A call does not see how the source web is spelled, if what is seen of the web is the same. -/
theorem invoke_respelled (call : FunctionCall) :
    library.invoke (ctx.respelled web links) call = library.invoke ctx call := by
  unfold invoke
  cases he : library.find? call.name with
  | none => rfl
  | some e =>
      have hbody : e.body (ctx.respelled web links) = e.body ctx :=
        body_respelled h library (List.mem_of_find?_eq_some he)
      simp only [apply, hbody]

end Library

end

/-! ### Webs of one place -/

theorem Chars.lower_trimEndWhere_slash (s : List Char) :
    lower (trimEndWhere (· == '/') s) = trimEndWhere (· == '/') (lower s) := by
  have hslash : (· == '/') ∘ Char.toLower = (· == '/') := by
    funext c
    rw [Bool.eq_iff_iff, Function.comp_apply, beq_iff_eq, beq_iff_eq]
    refine ⟨eq_slash_of_toLower, ?_⟩
    rintro rfl
    rfl
  simp only [trimEndWhere, lower, ← List.map_reverse, List.dropWhile_map, hslash]

theorem Text.sameName_trimEndOf_slash {a b : String} (h : sameName a b) :
    sameName (trimEndOf '/' a) (trimEndOf '/' b) := by
  rw [sameName, Chars.sameName_iff] at *
  rw [trimEndOf, trimEndOf, String.toList_ofList, String.toList_ofList,
    Chars.lower_trimEndWhere_slash, Chars.lower_trimEndWhere_slash, h]

/-- Webs of one address and path, but for slashes at the end and the case of ASCII letters. -/
def Web.SamePlace (web web' : Web) : Prop :=
  Text.sameName (Text.trimEndOf '/' web.url) (Text.trimEndOf '/' web'.url) ∧
    Text.sameName web.path web'.path

instance (web web' : Web) : Decidable (web.SamePlace web') :=
  inferInstanceAs (Decidable (_ ∧ _))

namespace Context

variable {ctx : Context} {target : Web}

/-- Content moves to another web if the target is at another place. -/
theorem isCrossSite_of_not_samePlace (htarget : ctx.target = some target)
    (h : ¬ target.SamePlace ctx.source.web) : ctx.isCrossSite := by
  by_contra hcross
  simp only [isCrossSite, htarget, Bool.or_eq_true, Bool.not_eq_true', not_or,
    Bool.not_eq_false] at hcross
  exact h ⟨Text.sameName_trimEndOf_slash hcross.2, Text.sameName_trimEndOf_slash hcross.1⟩

/-! ### Webs with slashes -/

/-- A run from a web with slashes at the ends of its address and its path. -/
def slashed (ctx : Context) (m n : Nat) : Context :=
  { ctx with source := { ctx.source with web := ctx.source.web.slashed m n } }

/-- Slashes do not make a web the same place as another one. -/
theorem isCrossSite_slashed (m n : Nat) (h : ¬ target.SamePlace ctx.source.web) :
    ((ctx.slashed m n).withTarget target).isCrossSite = (ctx.withTarget target).isCrossSite := by
  have hslashed : ¬ target.SamePlace (ctx.source.web.slashed m n) := by
    rwa [Web.SamePlace, Web.trimEndOf_url_slashed, Web.path_slashed]
  have hd : ((ctx.slashed m n).withTarget target).isCrossSite :=
    isCrossSite_of_not_samePlace rfl hslashed
  have hc : (ctx.withTarget target).isCrossSite := isCrossSite_of_not_samePlace rfl h
  rw [hd, hc]

/-- **Slashes at the end.** What lies in the source web, where the content of a query comes from,
and the paths of lists in the web are the same with slashes at the ends of the address and of the
path of the source web.  So is the host of an address that has one, and so are links that are
redirected to another address.  If the target is at another place, so are the test for another web,
the list identifiers that are kept, transfers, and with the links all calls of functions. -/
theorem slashed_withTarget (ctx : Context) (target : Web) (m n : Nat) :
    let web := ctx.source.web
    let c := ctx.withTarget target
    let d := (ctx.slashed m n).withTarget target
    let linksElsewhere := web.path = "" ∨
      web.NamesHost ∧ Text.trimEndOf '/' web.url ≠ Text.trimEndOf '/' target.url
    (∀ path, (web.slashed m n).containsPath path = web.containsPath path) ∧
    (∀ webUrl hasList, ContentQuery.location (web.slashed m n) webUrl hasList =
      ContentQuery.location web webUrl hasList) ∧
    (∀ list, ListUse.webRelativePath (web.slashed m n) list = ListUse.webRelativePath web list) ∧
    (web.NamesHost → (web.slashed m n).hostUrl = web.hostUrl) ∧
    (linksElsewhere → ∀ text, d.links.apply text = c.links.apply text) ∧
    (¬ target.SamePlace web →
      d.isCrossSite = c.isCrossSite ∧ (∀ id, Catalog.keptList d id = Catalog.keptList c id) ∧
      (∀ link, Run.transfer d link = Run.transfer c link) ∧
      (linksElsewhere → ∀ library call, Library.invoke library d call =
        Library.invoke library c call)) := by
  intro web c d linksElsewhere
  have hpath : (web.slashed m n).path = web.path := web.path_slashed m n
  have hlinks (h : linksElsewhere) (text : String) : d.links.apply text = c.links.apply text :=
    UrlMapping.apply_slashed m n h text
  refine ⟨web.containsPath_slashed m n, ContentQuery.location_of_path_eq hpath,
    congrFun (ListUse.webRelativePath_of_path_eq hpath), Web.hostUrl_slashed m n, hlinks, ?_⟩
  intro hother
  have hcross : d.isCrossSite = c.isCrossSite := isCrossSite_slashed m n hother
  refine ⟨hcross, fun id => ?_, fun link => ?_, fun h library call => ?_⟩
  · rw [Catalog.keptList, Catalog.keptList, hcross]
  · rw [show d = c.respelled (web.slashed m n) (.redirect (web.slashed m n) target) from rfl]
    refine Run.transfer_respelled ?_ ?_ link
    · exact hpath
    · exact hcross
  · have halike : c.SeenAlike (web.slashed m n) (.redirect (web.slashed m n) target) :=
      { path := hpath, isCrossSite := hcross, hostUrl := rfl, links := hlinks h }
    exact library.invoke_respelled halike call

/-- A web with slashes whose content moves to another server. -/
theorem slashed_withTarget_of_other_server :
    let site : Snapshot := { web := ⟨"https://old.com/a", "/a"⟩ }
    let ctx : Context := { source := site.source, servedFrom := some "/b" }
    let target : Web := ⟨"https://new.com/b", "/b"⟩
    let c := ctx.withTarget target
    let d := (ctx.slashed 1 2).withTarget target
    ctx.source.web.NamesHost ∧ ¬ target.SamePlace ctx.source.web ∧
      (ctx.source.web.slashed 1 2).hostUrl = ctx.source.web.hostUrl ∧
      d.links.apply "https://old.com/a/x" = c.links.apply "https://old.com/a/x" ∧
      d.isCrossSite = c.isCrossSite ∧
      ∀ library call, Library.invoke library d call = Library.invoke library c call := by
  intro site ctx target c d
  have hhost : ctx.source.web.NamesHost := by decide
  have hother : ¬ target.SamePlace ctx.source.web := by decide +kernel
  have haddress : Text.trimEndOf '/' ctx.source.web.url ≠ Text.trimEndOf '/' target.url := by decide
  obtain ⟨-, -, -, hhostUrl, hlinks, hrun⟩ := slashed_withTarget ctx target 1 2
  obtain ⟨hcross, -, -, hcalls⟩ := hrun hother
  exact ⟨hhost, hother, hhostUrl hhost, hlinks (Or.inr ⟨hhost, haddress⟩) _, hcross,
    hcalls (Or.inr ⟨hhost, haddress⟩)⟩

/-- A run within one web is taken for one to another web if the snapshot spells the address of the
web with a slash at its end: a list is not kept, a file is copied and a link is redirected.  The
host of an address without one is not the same behind slashes. -/
theorem slashed_withTarget_of_same_place :
    let file : FileInfo := { serverRelativeUrl := "/a/logo.png", listId := .nil, uniqueId := .nil }
    let web : Web := ⟨"https://old.com/a", "/a"⟩
    let site : Snapshot := { web, files := [⟨file, [1]⟩] }
    let ctx : Context := { source := site.source, servedFrom := some "/a/Assets" }
    let c := ctx.withTarget web
    let d := (ctx.slashed 1 0).withTarget web
    let id : Guid := ⟨1⟩
    c.isCrossSite = false ∧ d.isCrossSite = true ∧
      Catalog.keptList c id = id.text ∧ Catalog.keptList d id = "" ∧
      (Run.transfer c "/a/logo.png" (c.start {})).1 = "/a/logo.png" ∧
      (Run.transfer d "/a/logo.png" (d.start {})).1 = "/a/Assets/logo.png" ∧
      c.links.apply "/A/x" = "/A/x" ∧ d.links.apply "/A/x" = "/a/x" ∧
      (⟨"https://", "/a"⟩ : Web).hostUrl = "https:" ∧
      ((⟨"https://", "/a"⟩ : Web).slashed 1 0).hostUrl = "https://" := by
  decide +kernel

end Context

end PageMigration
