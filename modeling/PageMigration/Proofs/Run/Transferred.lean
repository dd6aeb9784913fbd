import Mathlib.Data.List.Induction
import PageMigration.Proofs.Run.CopyName
import PageMigration.Proofs.Run.TransferOutcome
import PageMigration.Site.Snapshot

/-!
# Transfers of links

Links are transferred one after the other.  A copy that is known was made by an earlier transfer
and is still in the folder, so a transfer never leads to a file that is not there.  It adds at most
one file, which is the copy, or the beginning of it if its write breaks off.

## Main definitions

* `Context.afterTransfers` : the state after links have been transferred one after the other.
* `Run.LeadsTo`, `Run.Remembers` : addresses of copies, and states that remember only these.

## Main results

* `Run.transfer_folder_eq_or` : a transfer leaves the folder as it is or adds one file to it.
* `Run.remembers_afterTransfers` : copies that are known are in the folder.
* `Run.transfer_all_or_part` : a transfer that does not lead to a copy changes nothing, unless the
  write of the copy breaks off.
-/

namespace PageMigration

/-! ### Files of the folder -/

namespace AssetFolder

variable {folder : AssetFolder} {name stored : String} {content : Bytes}

/-- The content of the file with a given name. -/
def content? (folder : AssetFolder) (name : String) : Option Bytes :=
  (folder.files.find? fun file => file.1 == name).map Prod.snd

theorem contains_iff_content? : folder.contains name ↔ (folder.content? name).isSome := by
  simp [contains, content?]

/-- A file under a free name leaves the others as they are. -/
theorem content?_append_singleton (hfree : folder.contains stored = false) :
    ({ folder with files := folder.files ++ [(stored, content)] } : AssetFolder).content? name =
      if stored = name then some content else folder.content? name := by
  by_cases h : stored = name
  · have hnone : folder.files.find? (fun file => file.1 == name) = none := by
      rw [← h, List.find?_eq_none]
      simpa [contains] using hfree
    simp [content?, List.find?_append, hnone, h]
  · simp [content?, List.find?_append, h]

/-- Files stay as they are where one is added under a free name. -/
theorem content?_of_free (hfree : folder.contains stored = false) {added : Bytes}
    (h : folder.content? name = some content) :
    ({ folder with files := folder.files ++ [(stored, added)] } : AssetFolder).content? name =
      some content := by
  rw [content?_append_singleton hfree, if_neg, h]
  rintro rfl
  rw [← Bool.not_eq_true, contains_iff_content?, h] at hfree
  exact hfree rfl

end AssetFolder

/-! ### Many transfers -/

/-- The state after links have been transferred one after the other. -/
def Context.afterTransfers (ctx : Context) (folder : AssetFolder) (links : List String) :
    RunState :=
  links.foldl (fun s link => (Run.transfer ctx link s).2) (ctx.start folder)

theorem Context.afterTransfers_append {ctx : Context} {folder : AssetFolder}
    (links : List String) (link : String) :
    ctx.afterTransfers folder (links ++ [link]) =
      (Run.transfer ctx link (ctx.afterTransfers folder links)).2 := by
  rw [afterTransfers, List.foldl_append]
  rfl

namespace Run

/-- An address leads to a file of the folder whose content the source gave for the path of a
link. -/
structure LeadsTo (ctx : Context) (folder : AssetFolder) (link address name : String)
    (content : Bytes) : Prop where
  served : ∃ servedFrom, ctx.servedFrom = some servedFrom ∧
    address = AssetFolder.location servedFrom name
  stored : folder.content? name = some content
  given : ∃ history, ctx.source.content history (Link.lookupPath link) = .ok (some content)

/-- Each address that is remembered leads to what the source gave for one of some links that have
the key. -/
def Remembers (ctx : Context) (links : List String) (s : RunState) : Prop :=
  ∀ key address, s.copies.get? key = some address →
    ∃ link ∈ links, copyKey (Link.lookupPath link) = key ∧
      ∃ name content, LeadsTo ctx s.folder link address name content

theorem remembers_start (ctx : Context) (folder : AssetFolder) :
    Remembers ctx [] (ctx.start folder) := by
  intro key address h
  simp [Context.start, ReadThrough.get?, ReadThrough.find?] at h

section

variable {ctx : Context} {links : List String} {link copy : String} {s : RunState}

/-- A transfer leaves the folder as it is or adds one file to it, which holds the content that the
source has, or a part of it if the write breaks off. -/
theorem transfer_folder_eq_or (ctx : Context) (link : String) (s : RunState) :
    let t := (transfer ctx link s).2
    t.folder = s.folder ∨ ∃ servedFrom name content stored,
      ctx.Copies (Link.lookupPath link) servedFrom ∧
      ctx.source.content s.history (Link.lookupPath link) = .ok (some content) ∧
      s.folder.FirstFree (Link.fileName (Link.lookupPath link)) name ∧
      stored <+: content ∧ (stored = content ∨ BreaksOff ctx link s t.folder) ∧
      t.folder = { s.folder with files := s.folder.files ++ [(name, stored)] } := by
  intro t
  rcases keeps_or_leadsToCopy ctx link s with hkeeps | ⟨copy, hleads⟩
  · obtain ⟨-, -, hsame | hpart⟩ := hkeeps.transfer_eq
    · exact Or.inl hsame
    obtain ⟨⟨servedFrom, hcopies⟩, -, content, hfound, name, hname, -, hafter⟩ := id hpart
    have hfirst := AssetFolder.firstFree_of_freeName hname
    have hprefix := s.folder.written_isPrefix name content
    exact Or.inr ⟨servedFrom, name, content, _, hcopies, hfound, hfirst, hprefix, Or.inr hpart,
      hafter⟩
  cases hleads with
  | known hcopies hknown =>
      have ht : t = s := congrArg Prod.snd (transfer_of_known hcopies hknown)
      exact Or.inl (by rw [ht])
  | @written servedFrom name content folder hcopies hnew hfound hwritten =>
      obtain ⟨hfirst, hafter⟩ := AssetFolder.firstFree_of_write hwritten
      refine Or.inr ⟨servedFrom, name, content, content, hcopies, hfound, hfirst,
        List.prefix_rfl, Or.inl rfl, ?_⟩
      have ht := congrArg Prod.snd (transfer_of_written hcopies hnew hfound hwritten)
      exact (congrArg RunState.folder ht).trans hafter

theorem limits_transfer (ctx : Context) (link : String) (s : RunState) :
    (transfer ctx link s).2.folder.limits = s.folder.limits := by
  rcases transfer_folder_eq_or ctx link s with hsame | ⟨_, _, _, _, -, -, -, -, -, hafter⟩
  · rw [hsame]
  · rw [hafter]

/-- Files that are in the folder keep their content. -/
theorem content?_transfer {name : String} {content : Bytes}
    (h : s.folder.content? name = some content) :
    (transfer ctx link s).2.folder.content? name = some content := by
  rcases transfer_folder_eq_or ctx link s with hsame | ⟨_, _, _, _, -, -, hfirst, -, -, hafter⟩
  · rw [hsame, h]
  · rw [hafter]
    exact AssetFolder.content?_of_free hfirst.free h

/-- What an address leads to is still there after a transfer. -/
theorem LeadsTo.transfer {link' address name : String} {content : Bytes}
    (h : LeadsTo ctx s.folder link' address name content) :
    LeadsTo ctx (transfer ctx link s).2.folder link' address name content :=
  ⟨h.served, content?_transfer h.stored, h.given⟩

/-- The address of a new copy leads to what the source gives for the link. -/
theorem leadsTo_location {servedFrom name : String} {content : Bytes} {folder : AssetFolder}
    (hcopies : ctx.Copies (Link.lookupPath link) servedFrom)
    (hfound : ctx.source.content s.history (Link.lookupPath link) = .ok (some content))
    (hwritten : s.folder.write content (Link.fileName (Link.lookupPath link)) =
      .ok (folder, name)) :
    LeadsTo ctx folder link (AssetFolder.location servedFrom name) name content := by
  obtain ⟨hfirst, rfl⟩ := AssetFolder.firstFree_of_write hwritten
  exact ⟨⟨servedFrom, hcopies.served, rfl⟩,
    by rw [AssetFolder.content?_append_singleton hfirst.free, if_pos rfl], ⟨_, hfound⟩⟩

/-- A copy holds what the source gave for a link with the same key, of this transfer or of one
before it. -/
theorem LeadsToCopy.leadsTo (h : LeadsToCopy ctx link s copy) (hs : Remembers ctx links s) :
    ∃ link' ∈ links ++ [link], copyKey (Link.lookupPath link') = copyKey (Link.lookupPath link) ∧
      ∃ name content, LeadsTo ctx (transfer ctx link s).2.folder link' copy name content := by
  cases h with
  | known hcopies hknown =>
      obtain ⟨link', hmem, hkey, name, content, hleads⟩ := hs _ _ hknown
      exact ⟨link', List.mem_append_left _ hmem, hkey, name, content, hleads.transfer⟩
  | @written servedFrom name content folder hcopies hnew hfound hwritten =>
      refine ⟨link, by simp, rfl, name, content, ?_⟩
      rw [transfer_of_written hcopies hnew hfound hwritten]
      exact leadsTo_location hcopies hfound hwritten

/-- What is known stays in the folder, and a new copy is known from then on. -/
theorem Remembers.transfer (hs : Remembers ctx links s) (link : String) :
    Remembers ctx (links ++ [link]) (transfer ctx link s).2 := by
  have hold {key address : String} (hknown : s.copies.get? key = some address) :
      ∃ link' ∈ links ++ [link], copyKey (Link.lookupPath link') = key ∧
        ∃ name content, LeadsTo ctx (Run.transfer ctx link s).2.folder link' address name
          content := by
    obtain ⟨link', hmem, hkey, name, content, hleads⟩ := hs key address hknown
    exact ⟨link', List.mem_append_left _ hmem, hkey, name, content, hleads.transfer⟩
  intro key address hknown
  rcases transfer_copies_eq_or ctx link s with hsame | ⟨copy, hleads, -, hinsert⟩
  · rw [hsame] at hknown
    exact hold hknown
  · rw [hinsert, ReadThrough.get?_insert] at hknown
    split_ifs at hknown with hnew
    · obtain rfl := Option.some.inj hknown
      obtain ⟨-, rfl⟩ := hnew
      exact hleads.leadsTo hs
    · exact hold hknown

end

/-- The limits of the folder stay as they are. -/
theorem limits_afterTransfers (ctx : Context) (folder : AssetFolder) (links : List String) :
    (ctx.afterTransfers folder links).folder.limits = folder.limits := by
  induction links using List.reverseRecOn with
  | nil => rfl
  | append_singleton links link ih => rw [Context.afterTransfers_append, limits_transfer, ih]

/-- **Copies that are known.** After any links have been transferred, each address that is
remembered leads to a file in the folder. -/
theorem remembers_afterTransfers (ctx : Context) (folder : AssetFolder) (links : List String) :
    Remembers ctx links (ctx.afterTransfers folder links) := by
  induction links using List.reverseRecOn with
  | nil => exact remembers_start ctx folder
  | append_singleton links link ih =>
      rw [Context.afterTransfers_append]
      exact ih.transfer link

/-- **All, nothing or a part.** A transfer leads to a file that is in the folder afterwards, or it
keeps the link.  A link that is kept leaves what is known of copies as it is, and the folder too,
unless the write of the copy breaks off; then what was written is left in the folder.  In a folder
without limits no write breaks off.  At most one file is added, and one only if the file is in the
source web, has content, has a listed extension that is not refused, and moves to another web.  The
name of that file never has a refused extension. -/
theorem transfer_all_or_part {ctx : Context} (hsettings : ctx.settings.HasUsualExtensions)
    (folder : AssetFolder) (earlier : List String) (link : String) :
    let s := ctx.afterTransfers folder earlier
    let result := (transfer ctx link s).1
    let t := (transfer ctx link s).2
    (result = Text.trim link ∧ t.copies = s.copies ∧
        (t.folder = s.folder ∨ BreaksOff ctx link s t.folder) ∨
      ∃ servedFrom name, ctx.servedFrom = some servedFrom ∧
        result = AssetFolder.location servedFrom name ∧ t.folder.contains name) ∧
    (∀ after, BreaksOff ctx link s after →
      folder.limits ≠ [] ∧ result = Text.trim link ∧ t.folder = after) ∧
    (t.folder = s.folder ∨
      ∃ name content stored,
        t.folder = { s.folder with files := s.folder.files ++ [(name, stored)] } ∧
        stored <+: content ∧ (stored = content ∨ BreaksOff ctx link s t.folder) ∧
        ctx.isCrossSite ∧ ctx.source.web.containsPath (Link.lookupPath link) ∧
        (∃ extension, extensionOf? (Link.lookupPath link) = some extension ∧
          listsExtension ctx.settings.blockedExtensions extension = false ∧
          (listsExtension ctx.settings.imageExtensions extension ∨
            listsExtension ctx.settings.documentExtensions extension)) ∧
        ctx.source.content s.history (Link.lookupPath link) = .ok (some content) ∧
        ∀ stem extension, Text.cutLast? '.' name = some (stem, extension) →
          listsExtension ctx.settings.blockedExtensions extension = false) := by
  intro s result t
  have hs : Remembers ctx earlier s := remembers_afterTransfers ctx folder earlier
  refine ⟨?_, fun after hpart => ?_, ?_⟩
  · rcases keeps_or_leadsToCopy ctx link s with hkeeps | ⟨copy, hleads⟩
    · exact Or.inl hkeeps.transfer_eq
    obtain ⟨link', -, -, name, content, ⟨servedFrom, hserved, hresult⟩, hstored, -⟩ :=
      hleads.leadsTo hs
    exact Or.inr ⟨servedFrom, name, hserved, hleads.transfer_fst.trans hresult,
      AssetFolder.contains_iff_content?.mpr (by rw [hstored]; rfl)⟩
  · obtain ⟨hkeeps, hafter⟩ := hpart.transfer_eq
    rw [← limits_afterTransfers ctx folder earlier]
    exact ⟨hpart.limits_ne, hkeeps.transfer_eq.1, hafter⟩
  · refine (transfer_folder_eq_or ctx link s).imp id ?_
    rintro ⟨servedFrom, name, content, stored, hcopies, hfound, hfirst, hprefix, hwhole, hafter⟩
    obtain ⟨number, -, rfl, -⟩ := hfirst.least
    exact ⟨_, content, stored, hafter, hprefix, hwhole, hcopies.crossSite, hcopies.inside,
      Settings.isCopied_classify_iff.mp hcopies.allowed, hfound, fun stem extension hcut =>
        Link.listsExtension_of_numberedName hsettings hcopies.allowed hcut⟩

/-- The link to a file with an escape in its name leads to the copy that is added. -/
theorem transfer_all_or_part_of_escaped_name :
    let file : FileInfo :=
      { serverRelativeUrl := "/a/A b.pdf", listId := .nil, uniqueId := .nil }
    let site : Snapshot :=
      { web := ⟨"https://old.com/a", "/a"⟩, files := [⟨file, [1]⟩] }
    let ctx : Context :=
      { source := site.source
        target := some ⟨"https://new.com/b", "/b"⟩
        servedFrom := some "/b/Assets/" }
    let result := (transfer ctx "/a/A%20b.pdf" (ctx.afterTransfers {} [])).1
    let t := (transfer ctx "/a/A%20b.pdf" (ctx.afterTransfers {} [])).2
    ctx.settings.HasUsualExtensions ∧
      (∃ servedFrom name, ctx.servedFrom = some servedFrom ∧
        result = AssetFolder.location servedFrom name ∧ t.folder.contains name) ∧
      ∃ name content, t.folder.files = [(name, content)] ∧
        site.source.content [] "/a/A%20b.pdf" = .ok (some content) ∧
        ∀ stem extension, Text.cutLast? '.' name = some (stem, extension) →
          listsExtension ctx.settings.blockedExtensions extension = false := by
  intro file site ctx result t
  have hsettings : ctx.settings.HasUsualExtensions := ⟨rfl, rfl, rfl⟩
  have hchanged : t.folder ≠ {} := by decide +kernel
  have hpath : Link.lookupPath "/a/A%20b.pdf" = "/a/A%20b.pdf" := by decide +kernel
  obtain ⟨hleads, hbreaks, hadds⟩ := transfer_all_or_part hsettings {} [] "/a/A%20b.pdf"
  have hwhole := fun hpart => (hbreaks t.folder hpart).1 rfl
  refine ⟨hsettings, hleads.resolve_left fun hkept => hkept.2.2.elim hchanged hwhole, ?_⟩
  obtain ⟨name, content, stored, hafter, -, hstored, -, -, -, hfound, hname⟩ :=
    hadds.resolve_left hchanged
  obtain rfl := hstored.resolve_right hwhole
  rw [hpath] at hfound
  exact ⟨name, stored, congrArg AssetFolder.files hafter, hfound, hname⟩

/-- The link to a file is kept where the write of its copy breaks off, and yet the folder has one
more file, with the beginning of the content. -/
theorem transfer_leaves_part_of_logo :
    let file : FileInfo :=
      { serverRelativeUrl := "/a/logo.png", listId := .nil, uniqueId := .nil }
    let site : Snapshot :=
      { web := ⟨"https://old.com/a", "/a"⟩, files := [⟨file, [1, 2]⟩] }
    let ctx : Context :=
      { source := site.source
        target := some ⟨"https://new.com/b", "/b"⟩
        servedFrom := some "/b" }
    let s := ctx.afterTransfers { limits := [("logo.png", 1)] } []
    let result := (transfer ctx "/a/logo.png" s).1
    let t := (transfer ctx "/a/logo.png" s).2
    ctx.settings.HasUsualExtensions ∧
      s.folder.files = [] ∧ t.folder.files = [("logo.png", [1])] ∧ result = "/a/logo.png" ∧
      ¬ (result = "/a/logo.png" ∧ t.folder = s.folder ∧ t.copies = s.copies ∨
        ∃ servedFrom name, ctx.servedFrom = some servedFrom ∧
          result = AssetFolder.location servedFrom name ∧ t.folder.contains name) := by
  intro file site ctx s result t
  have hfiles : t.folder.files = [("logo.png", [1])] := by decide +kernel
  have hresult : result = "/a/logo.png" := by decide +kernel
  refine ⟨⟨rfl, rfl, rfl⟩, rfl, hfiles, hresult, ?_⟩
  rintro (⟨-, hsame, -⟩ | ⟨servedFrom, name, hserved, hlocation, hname⟩)
  · rw [hsame] at hfiles
    cases hfiles
  · obtain rfl : "logo.png" = name := by simpa [AssetFolder.contains, hfiles] using hname
    obtain rfl := Option.some.inj hserved
    rw [hresult] at hlocation
    exact absurd hlocation (by decide +kernel)

end Run

end PageMigration
