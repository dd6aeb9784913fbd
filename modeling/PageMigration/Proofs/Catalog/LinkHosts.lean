import PageMigration.Proofs.Catalog.Refusal
import PageMigration.Proofs.Run.Transferred

/-!
# Hosts of links

A link that is an address loses its scheme and host before anything is looked up, so its host plays
no role.  An address of another host is left alone if its path lies outside the source web, as any
other link is; if its path happens to lie in the source web, the file of the source web at that path
is taken for what the link leads to.

## Main definitions

* `Link.leavesHost` : whether a link leads to another host than that of a web.
* `FunctionCall.IsOn` : calls of a function with a link.
* `Link.IsLeftAlone` : what it is for a link to be of no interest to a run.
* `Link.IsTakenAsPath` : what it is for the host of a link to play no role.

## Main results

* `Link.serverPath_serverPath` : the path of a link is its own path.
* `Link.outcome_of_leavesHost` : what is done with links to other hosts.
* `Link.taken_as_path_of_other_host` : a link to another host leads to the copy of a file of the
  source web.
-/

namespace PageMigration

/-! ### Paths of links -/

namespace Link

/-- Scheme and host of a link. -/
def hostUrl (link : String) : String :=
  String.ofList (Web.hostOf (Text.trim link).toList)

/-- Whether a link is an address with another scheme or host than that of a web, the case of ASCII
letters left aside. -/
def leavesHost (web : Web) (link : String) : Bool :=
  isAddress (Text.trim link) && !Text.sameName (hostUrl link) web.hostUrl

theorem serverPath_of_not_address {link : String} (h : isAddress (Text.trim link) = false) :
    serverPath link = Text.trim link := by
  simp [serverPath, h]

/-- The path of a link is the link without the blanks around it, or it is a slash or the end of
that from a slash on. -/
theorem serverPath_suffix (link : String) : serverPath link = "/" ∨
    (serverPath link).toList <:+ Chars.trim link.toList := by
  have htrim : (Text.trim link).toList = Chars.trim link.toList := String.toList_ofList
  by_cases h : isAddress (Text.trim link)
  · simp only [serverPath, h, if_true]
    split_ifs with hempty
    · exact Or.inl rfl
    · rw [String.toList_ofList, ← htrim]
      refine Or.inr ((List.dropWhile_suffix _).trans ?_)
      cases hscheme : Web.cutScheme? (Text.trim link).toList with
      | none => exact List.suffix_refl _
      | some parts =>
          exact ⟨parts.1 ++ "://".toList, (Chars.eq_append_of_cutAt? hscheme).symm⟩
  · have heq : (serverPath link).toList = Chars.trim link.toList := by
      rw [serverPath_of_not_address (Bool.eq_false_iff.mpr h), htrim]
    exact Or.inr (heq ▸ List.suffix_refl _)

/-- The path of a link has no blanks around it. -/
theorem trim_serverPath (link : String) : Text.trim (serverPath link) = serverPath link := by
  have hslash : Chars.isBlank '/' = false := by decide
  rcases serverPath_eq_or link with ⟨heq, -⟩ | ⟨rest, hrest⟩
  · rw [heq, Text.trim_trim]
  rcases serverPath_suffix link with heq | hsuffix
  · rw [heq]
    decide
  · have hstart : Chars.trimStart (serverPath link).toList = (serverPath link).toList := by
      rw [hrest, Chars.trimStart_eq_self_iff]
      rintro c ⟨⟩
      exact hslash
    rw [← String.toList_inj, Text.trim, String.toList_ofList, Chars.trim, hstart,
      Chars.trimEnd_eq_self_of_isSuffix hsuffix]

/-- The path of a link is no address. -/
theorem isAddress_serverPath (link : String) : isAddress (serverPath link) = false := by
  rcases serverPath_eq_or link with ⟨heq, haddress⟩ | ⟨rest, hrest⟩
  · rw [heq, haddress]
  · simp [isAddress, Text.startsWithName, hrest, Chars.lower, List.isPrefixOf]

/-- The path of a link is its own path. -/
theorem serverPath_serverPath (link : String) : serverPath (serverPath link) = serverPath link := by
  have haddress : isAddress (Text.trim (serverPath link)) = false := by
    rw [trim_serverPath, isAddress_serverPath]
  rw [serverPath_of_not_address haddress, trim_serverPath]

theorem lookupPath_serverPath (link : String) : lookupPath (serverPath link) = lookupPath link := by
  rw [lookupPath, serverPath_serverPath, lookupPath]

/-- An address is not blank. -/
theorem not_isBlank_of_leavesHost {web : Web} {link : String} (h : leavesHost web link) :
    Text.isBlank link = false := by
  rw [Bool.eq_false_iff]
  intro hblank
  have htrim : Text.trim link = "" := by
    rw [Text.trim, Chars.trim_of_blank hblank]
  rw [leavesHost, htrim] at h
  cases h

end Link

/-! ### Look-ups by the path of a link -/

theorem Run.linkedFile?_serverPath (ctx : Context) (link : String) :
    Run.linkedFile? ctx (Link.serverPath link) = Run.linkedFile? ctx link := by
  rw [Run.linkedFile?, Run.linkedFile?, Link.lookupPath_serverPath]

theorem Catalog.linkedText_serverPath (ctx : Context) (link : String) :
    Catalog.linkedText ctx (Link.serverPath link) = Catalog.linkedText ctx link := by
  rw [Catalog.linkedText, Catalog.linkedText, Link.isPage, Link.isPage, Link.lookupPath_serverPath]

/-- A link and its path lead to the same copy, or both are kept. -/
theorem Run.transfer_serverPath (ctx : Context) (link : String) (s : RunState) :
    (Run.transfer ctx (Link.serverPath link) s).2 = (Run.transfer ctx link s).2 ∧
      ((Run.transfer ctx (Link.serverPath link) s).1 = (Run.transfer ctx link s).1 ∨
        (Run.transfer ctx (Link.serverPath link) s).1 = Link.serverPath link ∧
          (Run.transfer ctx link s).1 = Text.trim link) := by
  have hpath := Link.lookupPath_serverPath link
  have htrim := Link.trim_serverPath link
  by_cases hcopies : ∃ servedFrom, ctx.Copies (Link.lookupPath link) servedFrom
  swap
  · have hnot := not_exists.mp hcopies
    have hnot' (servedFrom : String) :
        ¬ ctx.Copies (Link.lookupPath (Link.serverPath link)) servedFrom := by
      rw [hpath]
      exact hnot servedFrom
    rw [Run.transfer_of_not_copies hnot, Run.transfer_of_not_copies hnot', htrim]
    generalize Link.serverPath link = kept, Text.trim link = kept'
    exact ⟨rfl, Or.inr ⟨rfl, rfl⟩⟩
  obtain ⟨servedFrom, hcopies⟩ := hcopies
  have hcopies' : ctx.Copies (Link.lookupPath (Link.serverPath link)) servedFrom := by
    rw [hpath]
    exact hcopies
  rw [Run.transfer_of_copies hcopies, Run.transfer_of_copies hcopies', hpath, htrim]
  generalize Link.lookupPath link = path, Link.serverPath link = kept, Text.trim link = kept'
  cases s.copies.get? (copyKey path) with
  | some copy => exact ⟨rfl, Or.inl rfl⟩
  | none =>
      rcases ctx.source.content s.history path with e | _ | content
      · exact ⟨rfl, Or.inr ⟨rfl, rfl⟩⟩
      · exact ⟨rfl, Or.inr ⟨rfl, rfl⟩⟩
      · dsimp only
        cases s.folder.write content (Link.fileName path) with
        | error e => exact ⟨rfl, Or.inr ⟨rfl, rfl⟩⟩
        | ok written => exact ⟨rfl, Or.inl rfl⟩

/-! ### Look-ups outside the source web -/

section

variable {ctx : Context} {link : String}
  (houtside : ctx.source.web.containsPath (Link.lookupPath link) = false)

include houtside

theorem Run.transfer_of_outside (s : RunState) :
    Run.transfer ctx link s = (Text.trim link, s) := by
  refine Run.transfer_of_not_copies (fun servedFrom hcopies => ?_) s
  have hinside := hcopies.inside
  rw [houtside] at hinside
  cases hinside

/-- A link whose path lies outside the source web names no file, and nothing is asked. -/
theorem Run.linkedFile?_of_outside : Run.linkedFile? ctx link = pure none := by
  rw [Run.linkedFile?]
  exact if_pos (Or.inr (by simp [houtside]))

theorem Catalog.linkedText_of_outside (s : RunState) :
    Catalog.linkedText ctx link s = ("", s) := by
  rw [Catalog.linkedText, if_pos (by simp [houtside])]
  rfl

theorem Catalog.fileProperties_of_outside (kind : String) (s : RunState) :
    Catalog.fileProperties kind ctx link s = (.map [], s) := by
  rw [Catalog.fileProperties, Run.linkedFile?_of_outside houtside]
  rfl

theorem Catalog.mediaProperties_of_outside (hblank : Text.isBlank link = false) (s : RunState) :
    Catalog.mediaProperties ctx link s = (.ok (.map []), s) := by
  rw [Catalog.mediaProperties, hblank, if_neg Bool.false_ne_true]
  exact Run.bind_of_eq (Catalog.fileProperties_of_outside houtside "Media" s)

theorem Catalog.documentProperties_of_outside (hpage : Link.isPage link = false) (s : RunState) :
    Catalog.documentProperties ctx link s = (.ok (.map []), s) := by
  rw [Catalog.documentProperties, hpage, if_neg Bool.false_ne_true,
    Run.linkedFile?_of_outside houtside]
  rfl

end

/-! ### Calls with links -/

/-- A call of a function with a link as its only input. -/
structure FunctionCall.IsOn (call : FunctionCall) (name link : String) : Prop where
  addOn : call.addOn = ""
  name : call.name = name
  single : call.inputs.length = 1
  text : (Library.arguments call).text 0 = link

section

variable {call : FunctionCall} {name link : String} {ctx : Context} {s t : RunState}

/-- A function of one parameter yields what its body yields, or fails with it. -/
theorem FunctionCall.IsOn.invoke_of_body (h : call.IsOn name link) {body : Body}
    (he : ∃ e, Library.general.find? name = some e ∧ e.arity = 1 ∧ e.body = body)
    {result : Except PolicyViolation Output}
    (hbody : body ctx (Library.arguments call) s = (result, t)) :
    Library.general.invoke ctx call s = (result.mapError .policy, t) :=
  Library.invoke_of_parameters he h.addOn h.name h.single hbody

theorem FunctionCall.IsOn.invoke_eq (h : call.IsOn name link) {body : Body}
    (he : ∃ e, Library.general.find? name = some e ∧ e.arity = 1 ∧ e.body = body)
    {output : Output} (hbody : body ctx (Library.arguments call) s = (.ok output, t)) :
    Library.general.invoke ctx call s = (.ok output, t) :=
  h.invoke_of_body he hbody

end

theorem Library.find?_imageLookup : ∃ e, Library.general.find? "ImageLookup" = some e ∧
    e.arity = 1 ∧
      e.body = .ofRun fun ctx args => Catalog.fileProperties "Image" ctx (args.text 0) :=
  ⟨_, rfl, rfl, rfl⟩

theorem Library.find?_mediaLookup : ∃ e, Library.general.find? "MediaLookup" = some e ∧
    e.arity = 1 ∧ e.body = fun ctx args => Catalog.mediaProperties ctx (args.text 0) := by
  refine ⟨_, rfl, rfl, ?_⟩
  dsimp only

theorem Library.find?_documentEmbedLookup :
    ∃ e, Library.general.find? "DocumentEmbedLookup" = some e ∧
      e.arity = 1 ∧ e.body = fun ctx args => Catalog.documentProperties ctx (args.text 0) := by
  refine ⟨_, rfl, rfl, ?_⟩
  dsimp only

theorem Library.find?_loadContentFromFile :
    ∃ e, Library.general.find? "LoadContentFromFile" = some e ∧ e.arity = 1 ∧
      e.body = .ofRun fun ctx args => return .text (← Catalog.linkedText ctx (args.text 0)) :=
  ⟨_, rfl, rfl, rfl⟩

/-! ### Links to other hosts -/

namespace Link

/-- What it is for a link to be of no interest to a run: it is kept, and no function finds a file
at it. -/
structure IsLeftAlone (ctx : Context) (link : String) (s : RunState) : Prop where
  kept : Run.transfer ctx link s = (Text.trim link, s)
  image (call : FunctionCall) (h : call.IsOn "ImageLookup" link) :
    Library.general.invoke ctx call s = (.ok (.map []), s)
  media (call : FunctionCall) (h : call.IsOn "MediaLookup" link) :
    Library.general.invoke ctx call s = (.ok (.map []), s)
  document (call : FunctionCall) (h : call.IsOn "DocumentEmbedLookup" link)
    (hpage : isPage link = false) : Library.general.invoke ctx call s = (.ok (.map []), s)
  content (call : FunctionCall) (h : call.IsOn "LoadContentFromFile" link) :
    Library.general.invoke ctx call s = (.ok (.text ""), s)

/-- What it is for the host of a link to play no role: the link names the file and the text that
its path names, and leads to the copy that its path leads to, if any. -/
structure IsTakenAsPath (ctx : Context) (link : String) (s : RunState) : Prop where
  file : Run.linkedFile? ctx link = Run.linkedFile? ctx (serverPath link)
  text : Catalog.linkedText ctx link = Catalog.linkedText ctx (serverPath link)
  state : (Run.transfer ctx link s).2 = (Run.transfer ctx (serverPath link) s).2
  copy : (Run.transfer ctx link s).1 = (Run.transfer ctx (serverPath link) s).1 ∨
    (Run.transfer ctx link s).1 = Text.trim link ∧
      (Run.transfer ctx (serverPath link) s).1 = serverPath link

theorem isTakenAsPath (ctx : Context) (link : String) (s : RunState) :
    IsTakenAsPath ctx link s where
  file := (Run.linkedFile?_serverPath ctx link).symm
  text := (Catalog.linkedText_serverPath ctx link).symm
  state := (Run.transfer_serverPath ctx link s).1.symm
  copy := (Run.transfer_serverPath ctx link s).2.imp Eq.symm And.symm

/-- A link that is not blank is left alone if its path lies outside the source web. -/
theorem isLeftAlone_of_outside {ctx : Context} {link : String}
    (houtside : ctx.source.web.containsPath (lookupPath link) = false)
    (hblank : Text.isBlank link = false) (s : RunState) : IsLeftAlone ctx link s where
  kept := Run.transfer_of_outside houtside s
  image call h := by
    have hbody := Catalog.fileProperties_of_outside houtside "Image" s
    rw [← h.text] at hbody
    exact h.invoke_eq Library.find?_imageLookup (Run.bind_of_eq hbody)
  media call h := by
    have hbody := Catalog.mediaProperties_of_outside houtside hblank s
    rw [← h.text] at hbody
    exact h.invoke_eq Library.find?_mediaLookup hbody
  document call h hpage := by
    have hbody := Catalog.documentProperties_of_outside houtside hpage s
    rw [← h.text] at hbody
    exact h.invoke_eq Library.find?_documentEmbedLookup hbody
  content call h := by
    have hbody := Catalog.linkedText_of_outside houtside s
    rw [← h.text] at hbody
    exact h.invoke_eq Library.find?_loadContentFromFile (Run.bind_of_eq (Run.bind_of_eq hbody))

/-- **Links to other hosts.** A link to another host is left alone if its path lies outside the
source web.  Otherwise it is taken for a link into the source web, since its host plays no role. -/
theorem outcome_of_leavesHost {ctx : Context} {link : String}
    (hforeign : leavesHost ctx.source.web link) (s : RunState) :
    (ctx.source.web.containsPath (lookupPath link) = false → IsLeftAlone ctx link s) ∧
      IsTakenAsPath ctx link s :=
  ⟨fun houtside => isLeftAlone_of_outside houtside (not_isBlank_of_leavesHost hforeign) s,
    isTakenAsPath ctx link s⟩

/-- The logo of another site is left where it is. -/
theorem outcome_of_leavesHost_of_logo :
    let ctx : Context :=
      { source := Snapshot.source ⟨⟨"https://old.com/a", "/a"⟩, [], [], [], []⟩
        target := some ⟨"https://new.com/b", "/b"⟩
        servedFrom := some "/b" }
    let link := " HTTPS://other.com/logo.png"
    let s := ctx.start {}
    leavesHost ctx.source.web link ∧ ctx.source.web.containsPath (lookupPath link) = false ∧
      IsLeftAlone ctx link s ∧ IsTakenAsPath ctx link s := by
  intro ctx link s
  have hforeign : leavesHost ctx.source.web link := by decide +kernel
  have houtside : ctx.source.web.containsPath (lookupPath link) = false := by decide +kernel
  obtain ⟨hleft, htaken⟩ := outcome_of_leavesHost hforeign s
  exact ⟨hforeign, houtside, hleft houtside, htaken⟩

/-- The logo of another site leads to a copy of the logo of the source web, which lies at the same
path: it is read and copied. -/
theorem taken_as_path_of_other_host :
    let file : FileInfo :=
      { serverRelativeUrl := "/a/logo.png", listId := .nil, uniqueId := .nil }
    let site : Snapshot :=
      { web := ⟨"https://old.com/a", "/a"⟩, files := [⟨file, [1]⟩] }
    let ctx : Context :=
      { source := site.source
        target := some ⟨"https://new.com/b", "/b"⟩
        servedFrom := some "/b" }
    let link := "https://other.com/a/logo.png"
    let after := Run.transfer ctx link (ctx.start {})
    leavesHost ctx.source.web link ∧ after.1 = "/b/logo.png" ∧
      after.2.folder.content? "logo.png" = some [1] ∧ ¬ IsLeftAlone ctx link (ctx.start {}) := by
  intro file site ctx link after
  have hcopy : after.1 = "/b/logo.png" := by decide +kernel
  have hlink : Text.trim link = link := by decide +kernel
  refine ⟨by decide +kernel, hcopy, by decide +kernel, fun hleft => ?_⟩
  have hkept : after.1 = Text.trim link := congrArg Prod.fst hleft.kept
  rw [hcopy, hlink] at hkept
  revert hkept
  decide

end Link

end PageMigration
