import PageMigration.Proofs.Catalog.LinkHosts
import PageMigration.Proofs.Catalog.TrailingSlashes
import PageMigration.Proofs.Run.LinksInPlace
import PageMigration.Proofs.Run.TransferOutcome

/-!
# Addresses of preview images

The preview image of a page is shown by its address, which is made from a path by putting a host in
front of it.  It is the host of the target for every path, so a copy gets the address that it is
served from, but a link that is kept gets the address of a file on the server of the target, where
the file is only if both webs have one host.  In a run that stays in place they do, up to case.

## Main definitions

* `Link.IsPath` : links that are paths on a server.

## Main results

* `Web.sameName_hostUrl` : addresses that differ in case have hosts that differ in case.
* `Run.previewImage_apply` : the address of an image that is a path.
* `previewed_images` : the addresses of copies and of kept links.
-/

namespace PageMigration

/-! ### Hosts in other letters -/

namespace Web

open Chars (lower)

theorem beq_toLower {c d : Char} (hd : d.isLower = false) (hfixed : d.toLower = d) :
    (c.toLower == d) = (c == d) := by
  rw [Bool.eq_iff_iff, beq_iff_eq, beq_iff_eq]
  exact ⟨fun h => Chars.eq_of_toLower h hd, fun h => h ▸ hfixed⟩

theorem bne_slash_toLower : ((· != '/') ∘ Char.toLower) = (· != '/') := by
  funext c
  simp only [Function.comp_apply, bne, beq_toLower (d := '/') rfl rfl]

theorem isPrefixOf_lower (s : List Char) :
    [':', '/', '/'].isPrefixOf (lower s) = [':', '/', '/'].isPrefixOf s := by
  have hstart (mark : Char) (marks s : List Char) (hlower : mark.isLower = false)
      (hfixed : mark.toLower = mark) (ih : ∀ s, marks.isPrefixOf (lower s) = marks.isPrefixOf s) :
      (mark :: marks).isPrefixOf (lower s) = (mark :: marks).isPrefixOf s := by
    cases s with
    | nil => rfl
    | cons c s =>
        rw [lower, List.map_cons, List.isPrefixOf, List.isPrefixOf, ← lower, ih,
          BEq.comm, beq_toLower hlower hfixed, BEq.comm]
  refine hstart _ _ _ rfl rfl fun s => hstart _ _ _ rfl rfl fun s =>
    hstart _ _ _ rfl rfl fun s => ?_
  rw [List.isPrefixOf, List.isPrefixOf]

theorem cutScheme?_lower (url : List Char) : cutScheme? (lower url) =
    (cutScheme? url).map fun (scheme, rest) => (lower scheme, lower rest) := by
  induction url with
  | nil => rfl
  | cons c url ih =>
      have hcons : lower (c :: url) = c.toLower :: lower url := List.map_cons
      rw [hcons, cutScheme?_cons, cutScheme?_cons, ← hcons, isPrefixOf_lower, ih]
      split_ifs
      · simp [lower, List.map_drop]
      · cases cutScheme? url <;> rfl

theorem hostOf_lower (url : List Char) : hostOf (lower url) = lower (hostOf url) := by
  have hslash (s : List Char) : (lower s).contains '/' = s.contains '/' := by
    rw [Bool.eq_iff_iff, List.contains_iff_mem, List.contains_iff_mem, lower, List.mem_map]
    refine ⟨?_, fun h => ⟨_, h, rfl⟩⟩
    rintro ⟨c, hc, heq⟩
    exact Chars.eq_slash_of_toLower heq ▸ hc
  have htake (s : List Char) : (lower s).takeWhile (· != '/') = lower (s.takeWhile (· != '/')) := by
    rw [lower, List.takeWhile_map, bne_slash_toLower]
    rfl
  rw [hostOf, hostOf, cutScheme?_lower]
  cases cutScheme? url with
  | none =>
      simp only [Option.map_none, hslash, htake]
      split_ifs <;> rfl
  | some parts =>
      simp only [Option.map_some, hslash, htake, ← Chars.lower_trimEndWhere_slash]
      split_ifs
      · rw [Chars.lower_append, Chars.lower_append]
        rfl
      · rfl

/-- The hosts of addresses that differ in case differ in case. -/
theorem sameName_hostUrl {web web' : Web} (h : Text.sameName web.url web'.url) :
    Text.sameName web.hostUrl web'.hostUrl := by
  rw [Text.sameName, Chars.sameName_iff] at *
  rw [hostUrl, hostUrl, String.toList_ofList, String.toList_ofList, ← hostOf_lower, ← hostOf_lower,
    h]

end Web

/-! ### Paths and addresses -/

/-- A link that is a path on a server. -/
def Link.IsPath (link : String) : Prop :=
  link.toList.head? = some '/'

instance (link : String) : Decidable (Link.IsPath link) :=
  inferInstanceAs (Decidable (_ = _))

/-- The address of a path on the server of a web.  What is no path is kept. -/
def Web.addressOf (web : Web) (link : String) : String :=
  if Link.IsPath link then web.hostUrl ++ link else link

theorem Web.addressOf_of_isPath {web : Web} {link : String} (h : Link.IsPath link) :
    web.addressOf link = web.hostUrl ++ link :=
  if_pos h

/-- What is served from a path has a path. -/
theorem AssetFolder.isPath_location {servedFrom : String} (h : Link.IsPath servedFrom)
    (name : String) : Link.IsPath (location servedFrom name) := by
  obtain ⟨k, hk⟩ := Chars.exists_eq_trimEndWhere_append '/' servedFrom.toList
  rw [Link.IsPath, hk] at h
  rw [Link.IsPath, location, Text.trimEndOf, String.toList_append, String.toList_append,
    String.toList_ofList]
  cases hstart : Chars.trimEndWhere (· == '/') servedFrom.toList with
  | nil => rfl
  | cons c start =>
      rw [hstart] at h
      exact h

/-! ### Preview images -/

section

variable {ctx : Context} {call : FunctionCall} {field source path : String} {s t : RunState}

theorem Run.previewImage_apply (hsource : PageField.imageSource? field = some source)
    (h : Run.transfer ctx source s = (path, t)) :
    Run.previewImage ctx field s = (ctx.targetWeb.addressOf path, t) := by
  rw [Run.previewImage, Run.fieldImage, hsource]
  exact Run.bind_of_eq h

theorem Library.find?_toPreviewImageUrl :
    ∃ e, Library.publishing.find? "ToPreviewImageUrl" = some e ∧ e.arity = 1 ∧
      e.body = .ofRun fun ctx args => return .text (← Run.previewImage ctx (args.text 0)) :=
  ⟨_, rfl, rfl, rfl⟩

theorem FunctionCall.IsOn.invoke_previewImage (hcall : call.IsOn "ToPreviewImageUrl" field)
    (hsource : PageField.imageSource? field = some source)
    (h : Run.transfer ctx source s = (path, t)) :
    Library.publishing.invoke ctx call s = (.ok (.text (ctx.targetWeb.addressOf path)), t) := by
  have hpreview := Run.previewImage_apply hsource h
  rw [← hcall.text] at hpreview
  exact Library.invoke_of_parameters Library.find?_toPreviewImageUrl hcall.addOn hcall.name
    hcall.single (Run.bind_of_eq (Run.bind_of_eq hpreview))

end

/-- **Preview images.** The preview image of a page gets the address that the target web gives to
the path of its copy.  A link that is kept, for whatever reason, gets the address of its path on the
server of the target as well; this is its address in the source web iff both webs have the same
host, as they do in a run that stays in place, up to case. -/
theorem previewed_images {ctx : Context} {call : FunctionCall} {field source : String}
    (hcall : call.IsOn "ToPreviewImageUrl" field)
    (hsource : PageField.imageSource? field = some source) (hpath : Link.IsPath (Text.trim source))
    (s : RunState) :
    let link := Text.trim source
    let t := (Run.transfer ctx source s).2
    let Yields (url : String) := Library.publishing.invoke ctx call s = (.ok (.text url), t)
    (Run.Keeps ctx source s ↔ ∀ copy, ¬ Run.LeadsToCopy ctx source s copy) ∧
    (∀ copy, Run.LeadsToCopy ctx source s copy → Yields (ctx.targetWeb.addressOf copy)) ∧
    (∀ servedFrom name, Link.IsPath servedFrom →
      let copy := AssetFolder.location servedFrom name
      ctx.targetWeb.addressOf copy = ctx.targetWeb.hostUrl ++ copy) ∧
    (Run.Keeps ctx source s → Yields (ctx.targetWeb.hostUrl ++ link) ∧
      (t.folder = s.folder ∨ Run.BreaksOff ctx source s t.folder) ∧ t.copies = s.copies ∧
      (Yields (ctx.source.web.hostUrl ++ link) ↔ ctx.targetWeb.hostUrl = ctx.source.web.hostUrl)) ∧
    (ctx.isCrossSite = false → Text.sameName ctx.targetWeb.hostUrl ctx.source.web.hostUrl) := by
  intro link t Yields
  have hyields (path : String) (h : (Run.transfer ctx source s).1 = path) :
      Yields (ctx.targetWeb.addressOf path) :=
    hcall.invoke_previewImage hsource (Prod.ext h rfl)
  refine ⟨Run.keeps_iff, fun copy h => hyields copy h.transfer_fst, ?_, fun hkeeps => ?_, ?_⟩
  · intro servedFrom name hserved
    exact Web.addressOf_of_isPath (AssetFolder.isPath_location hserved name)
  · obtain ⟨htransfer, hcopies, hfolder⟩ := hkeeps.transfer_eq
    have hkept : Yields (ctx.targetWeb.hostUrl ++ link) := by
      rw [← Web.addressOf_of_isPath hpath]
      exact hyields link htransfer
    refine ⟨hkept, hfolder, hcopies, fun h => ?_, fun h => h ▸ hkept⟩
    have heq := congrArg Prod.fst (hkept.symm.trans h)
    simpa using heq
  · exact fun h => Web.sameName_hostUrl (Context.sameName_targetWeb h).2

/-- A call for the address of a preview image. -/
def previewing (field : String) : FunctionCall where
  addOn := ""
  name := "ToPreviewImageUrl"
  output := "PreviewImage"
  inputs := [{ name := "PublishingRollupImage", value := field }]

/-- A run from one server to another, with one file in the source web. -/
def logoRun : Context where
  source := Snapshot.source
    { web := ⟨"https://old.com/a", "/a"⟩
      files := [⟨{ serverRelativeUrl := "/a/logo.png", listId := .nil, uniqueId := .nil }, [1]⟩] }
  target := some ⟨"https://new.com/b", "/b"⟩
  servedFrom := some "/b/Assets"

/-- An image that is copied. -/
theorem previewed_images_of_logo :
    let s := logoRun.start {}
    let field := " /a/logo.png "
    let source := "/a/logo.png"
    (previewing field).IsOn "ToPreviewImageUrl" field ∧
      PageField.imageSource? field = some source ∧ Link.IsPath (Text.trim source) ∧
      Run.LeadsToCopy logoRun source s "/b/Assets/logo.png" ∧
      (Library.publishing.invoke logoRun (previewing field) s).1 =
        .ok (.text "https://new.com/b/Assets/logo.png") := by
  intro s field source
  have hcall : (previewing field).IsOn "ToPreviewImageUrl" field := ⟨rfl, rfl, rfl, rfl⟩
  have hsource : PageField.imageSource? field = some source := by decide +kernel
  have hpath : Link.IsPath (Text.trim source) := by decide +kernel
  have hcopies : logoRun.Copies (Link.lookupPath source) "/b/Assets" :=
    ⟨by decide +kernel, by decide +kernel, by decide +kernel, rfl⟩
  have hfound : logoRun.source.content s.history (Link.lookupPath source) = .ok (some [1]) := by
    decide +kernel
  have hwritten : s.folder.write [1] (Link.fileName (Link.lookupPath source)) =
      .ok ({ files := [("logo.png", [1])] }, "logo.png") := by
    decide +kernel
  have hleads := Run.LeadsToCopy.written hcopies rfl hfound hwritten
  obtain ⟨-, hcopied, hserved, -⟩ := @previewed_images logoRun _ _ _ hcall hsource hpath s
  have haddress := hserved "/b/Assets" "logo.png" (by decide +kernel)
  refine ⟨hcall, hsource, hpath, hleads, (congrArg Prod.fst (hcopied _ hleads)).trans ?_⟩
  rw [haddress]
  decide +kernel

/-- The address of an image that is not found is one on the server of the target, where the image
is not. -/
theorem previewed_images_of_missing :
    let s := logoRun.start {}
    let source := "/a/missing.png"
    PageField.imageSource? source = some source ∧ Run.Keeps logoRun source s ∧
      logoRun.source.web.hostUrl ++ source = "https://old.com/a/missing.png" ∧
      (Library.publishing.invoke logoRun (previewing source) s).1 =
        .ok (.text "https://new.com/a/missing.png") := by
  intro s source
  exact ⟨by decide +kernel, .notFound (by decide +kernel) (by decide +kernel), by decide +kernel,
    by decide +kernel⟩

end PageMigration
