import Mathlib.Data.List.Dedup
import Mathlib.Data.List.Perm.Subperm
import PageMigration.Proofs.Run.CopyContent

/-!
# Number of copies

Copies are remembered under keys, so links with one key lead to one copy, and no more files are
copied than there are keys.  The key of a path does not see the host, the query, the fragment or
the case of a link, but it keeps the escapes that the snapshot decodes.  A file of the snapshot is
therefore copied at most once if its links are spelled alike, and a second time for a link that
spells it with an escape.  Copies whose writes break off are not remembered, so files are counted
in folders without limits.

## Main definitions

* `Snapshot.SpelledAlike` : links whose paths to one file differ in the case of ASCII only.
* `Context.Returns` : a transfer in the course of a run leads to a copy.
* `Run.CopiedOnce` : a state in which there is one copy for each key.

## Main results

* `copyKey_eq_of_sameName` : the key of a path does not see the case of ASCII letters.
* `Run.copiedOnce_afterTransfers` : there is one copy for each key.
* `Run.transfers_copy_once` : how many files transfers copy, and where links to one file lead.
-/

namespace PageMigration

/-! ### Keys and letter case -/

namespace Chars

/-- Characters of ASCII can only lie in ranges that begin in ASCII. -/
theorem inRanges_filter_of_ascii (ranges : List (Nat × Nat)) {c : Char} (h : c.toNat < 128) :
    inRanges (ranges.filter fun range => range.1 < 128) c = inRanges ranges c := by
  rw [Bool.eq_iff_iff]
  simp only [inRanges, List.any_filter, List.any_eq_true, Bool.and_eq_true, decide_eq_true_eq]
  exact exists_congr fun range => and_congr_right fun _ =>
    ⟨fun hin => hin.2, fun hin => ⟨Nat.lt_of_le_of_lt hin.1 h, hin⟩⟩

/-- Ranges do not see the case of ASCII letters if those that begin in ASCII do not. -/
theorem inRanges_toLower {ranges : List (Nat × Nat)} (few : List (Nat × Nat))
    (hfew : (ranges.filter fun range => range.1 < 128) = few)
    (h : ∀ n < 128, inRanges few (Char.ofNat n).toLower = inRanges few (Char.ofNat n)) (c : Char) :
    inRanges ranges c.toLower = inRanges ranges c := by
  by_cases hc : c.toNat < 128
  swap
  · rw [toLower_of_not_ascii hc]
  rw [← inRanges_filter_of_ascii ranges hc,
    ← inRanges_filter_of_ascii ranges (Utf8.toNat_toLower hc).1, hfew]
  exact forall_ascii (p := fun c => inRanges few c.toLower = inRanges few c) h hc

theorem casedAhead_lower (s : List Char) : casedAhead (lower s) = casedAhead s := by
  have hignored : ∀ c, inRanges caseIgnorableRanges c.toLower = inRanges caseIgnorableRanges c :=
    inRanges_toLower [(0x27, 0x27), (0x2E, 0x2E), (0x3A, 0x3A), (0x5E, 0x5E), (0x60, 0x60)]
      (by decide +kernel) (by decide)
  have hcased : ∀ c, inRanges casedRanges c.toLower = inRanges casedRanges c :=
    inRanges_toLower [(0x41, 0x5A), (0x61, 0x7A)] (by decide +kernel) (by decide)
  have hpassed : inRanges caseIgnorableRanges ∘ Char.toLower = inRanges caseIgnorableRanges :=
    funext hignored
  rw [casedAhead, casedAhead, lower, List.dropWhile_map, hpassed]
  cases s.dropWhile (inRanges caseIgnorableRanges) with
  | nil => rfl
  | cons c rest => exact hcased c

theorem lowerChar_toLower (c : Char) : lowerChar c.toLower = lowerChar c := by
  by_cases h : c.toNat < 128
  · rw [lowerChar, lowerChar, if_pos h, if_pos (Utf8.toNat_toLower h).1, toLower_toLower]
  · rw [toLower_of_not_ascii h]

/-- The small form in full Unicode does not see the case of ASCII letters. -/
theorem lowercase_lower (s : List Char) : lowercase (lower s) = lowercase s := by
  suffices ∀ before, lowercaseFrom (lower before) (lower s) = lowercaseFrom before s from this []
  induction s with
  | nil => exact fun _ => rfl
  | cons c s ih =>
      intro before
      have hsigma : c.toLower = 'Σ' ↔ c = 'Σ' := by
        by_cases h : c.toNat < 128
        · exact forall_ascii (p := fun c => c.toLower = 'Σ' ↔ c = 'Σ') (by decide) h
        · rw [toLower_of_not_ascii h]
      have hrest : lowercaseFrom (c.toLower :: lower before) (lower s) =
          lowercaseFrom (c :: before) s := ih (c :: before)
      change lowercaseFrom (lower before) (c.toLower :: lower s) = lowercaseFrom before (c :: s)
      simp only [lowercaseFrom, hsigma, casedAhead_lower, lowerChar_toLower, hrest]

end Chars

/-- The key of a path does not see the case of ASCII letters. -/
theorem copyKey_eq_of_sameName {p q : String} (h : Text.sameName p q) : copyKey p = copyKey q := by
  rw [copyKey, copyKey, ← Chars.lowercase_lower p.toList, Chars.sameName_iff.mp h,
    Chars.lowercase_lower]

/-! ### Transfers that lead to copies -/

namespace Run

variable {ctx : Context} {link address : String} {s : RunState}

/-- The address of a copy is known under the key of the link afterwards. -/
theorem LeadsToCopy.get?_eq (h : LeadsToCopy ctx link s address) (hcache : s.copies.enabled) :
    (transfer ctx link s).2.copies.get? (copyKey (Link.lookupPath link)) = some address := by
  cases h with
  | known hcopies hknown => rwa [transfer_of_known hcopies hknown]
  | written hcopies hnew hfound hwritten =>
      rw [transfer_of_written hcopies hnew hfound hwritten, ReadThrough.get?_insert,
        if_pos ⟨hcache, rfl⟩]

theorem enabled_transfer (ctx : Context) (link : String) (s : RunState) :
    (transfer ctx link s).2.copies.enabled = s.copies.enabled := by
  rcases transfer_copies_eq_or ctx link s with hsame | ⟨copy, -, -, hinsert⟩
  · rw [hsame]
  · rw [hinsert, ReadThrough.enabled_insert]

/-- What is known of copies stays known. -/
theorem transfer_get?_eq {key : String} (hknown : s.copies.get? key = some address) :
    (transfer ctx link s).2.copies.get? key = some address := by
  rcases transfer_copies_eq_or ctx link s with hsame | ⟨copy, -, hnew, hinsert⟩
  · rw [hsame, hknown]
  · have hother : copyKey (Link.lookupPath link) ≠ key := by
      rintro rfl
      cases hnew.symm.trans hknown
    rw [hinsert, ReadThrough.get?_insert, if_neg fun h => hother h.2, hknown]

end Run

/-- A transfer in the course of a run leads to a copy, at a given address. -/
def Context.Returns (ctx : Context) (folder : AssetFolder) (links : List String)
    (link address : String) : Prop :=
  ∃ earlier later, links = earlier ++ link :: later ∧
    Run.LeadsToCopy ctx link (ctx.afterTransfers folder earlier) address

/-! ### One copy for each key -/

section

variable {ctx : Context} {folder : AssetFolder}

theorem Context.enabled_afterTransfers (ctx : Context) (folder : AssetFolder)
    (links : List String) :
    (ctx.afterTransfers folder links).copies.enabled = ctx.settings.cacheLookups := by
  induction links using List.reverseRecOn with
  | nil => rfl
  | append_singleton links link ih => rw [afterTransfers_append, Run.enabled_transfer, ih]

theorem Context.afterTransfers_get?_eq {links : List String} {key address : String}
    (hknown : (ctx.afterTransfers folder links).copies.get? key = some address)
    (later : List String) :
    (ctx.afterTransfers folder (links ++ later)).copies.get? key = some address := by
  induction later using List.reverseRecOn with
  | nil => rwa [List.append_nil]
  | append_singleton later link ih =>
      rw [← List.append_assoc, afterTransfers_append]
      exact Run.transfer_get?_eq ih

theorem Context.Returns.mem {links : List String} {link address : String}
    (h : ctx.Returns folder links link address) : link ∈ links := by
  obtain ⟨earlier, later, rfl, -⟩ := h
  simp

/-- The address of a copy that a transfer leads to is known at the end of the run. -/
theorem Context.Returns.get?_eq {links : List String} {link address : String}
    (h : ctx.Returns folder links link address) (hcache : ctx.settings.cacheLookups) :
    (ctx.afterTransfers folder links).copies.get? (copyKey (Link.lookupPath link)) =
      some address := by
  obtain ⟨earlier, later, rfl, hcopy⟩ := h
  rw [List.append_cons]
  refine Context.afterTransfers_get?_eq ?_ later
  rw [Context.afterTransfers_append]
  exact hcopy.get?_eq (by rwa [Context.enabled_afterTransfers])

/-- Links with one key lead to one copy. -/
theorem Context.Returns.unique {links : List String} {link link' address address' : String}
    (h : ctx.Returns folder links link address) (h' : ctx.Returns folder links link' address')
    (hcache : ctx.settings.cacheLookups)
    (hkey : copyKey (Link.lookupPath link) = copyKey (Link.lookupPath link')) :
    address = address' := by
  have hknown := h.get?_eq hcache
  rw [hkey, h'.get?_eq hcache] at hknown
  exact (Option.some.inj hknown).symm

end

namespace Run

/-- One copy has been added to a folder for each of some links, whose keys are all known and
differ from each other. -/
structure CopiedOnce (site : Snapshot) (folder : AssetFolder) (links copied : List String)
    (s : RunState) : Prop where
  added : ∃ added, s.folder.files = folder.files ++ added ∧ added.length = copied.length
  subset : copied ⊆ links
  stored : ∀ link ∈ copied, (site.file? (Link.lookupPath link)).isSome
  known : ∀ link ∈ copied, (s.copies.get? (copyKey (Link.lookupPath link))).isSome
  distinct : copied.Pairwise fun link link' =>
    copyKey (Link.lookupPath link) ≠ copyKey (Link.lookupPath link')

theorem CopiedOnce.transfer {site : Snapshot} {ctx : Context} (hsource : ctx.source = site.source)
    {folder : AssetFolder} {links copied : List String} {link : String} {s : RunState}
    (hcache : s.copies.enabled) (hlimits : s.folder.limits = [])
    (h : CopiedOnce site folder links copied s) :
    ∃ copied, CopiedOnce site folder (links ++ [link]) copied (transfer ctx link s).2 := by
  have hsubset : copied ⊆ links ++ [link] := fun _ hmem => List.mem_append_left _ (h.subset hmem)
  rcases keeps_or_leadsToCopy ctx link s with hkeeps | ⟨copy, hcopy⟩
  · exact ⟨copied, { h with
      added := by rw [hkeeps.folder_eq hlimits]; exact h.added
      subset := hsubset
      known := by rw [hkeeps.transfer_eq.2.1]; exact h.known }⟩
  cases hcopy with
  | known hcopies hknown =>
      rw [transfer_of_known hcopies hknown]
      exact ⟨copied, { h with subset := hsubset }⟩
  | @written servedFrom name content after hcopies hnew hfound hwritten =>
      obtain ⟨added, hadded, hlength⟩ := h.added
      obtain ⟨-, hafter⟩ := AssetFolder.firstFree_of_write hwritten
      have hstored : (site.file? (Link.lookupPath link)).isSome := by
        rw [hsource] at hfound
        have hcontent : (site.file? (Link.lookupPath link)).map StoredFile.content = some content :=
          Except.ok.inj hfound
        rw [← Option.isSome_map, hcontent]
        rfl
      have hother : ∀ link' ∈ copied,
          copyKey (Link.lookupPath link') ≠ copyKey (Link.lookupPath link) := by
        intro link' hmem heq
        have hknown := h.known link' hmem
        rw [heq, hnew] at hknown
        cases hknown
      rw [transfer_of_written hcopies hnew hfound hwritten]
      refine ⟨copied ++ [link], ⟨added ++ [(name, content)], ?_, by simp [hlength]⟩, ?_, ?_, ?_, ?_⟩
      · rw [hafter, ← List.append_assoc, ← hadded]
      · exact List.append_subset.mpr ⟨hsubset, List.subset_append_right _ _⟩
      · exact List.forall_mem_append.mpr ⟨h.stored, List.forall_mem_singleton.mpr hstored⟩
      · refine List.forall_mem_append.mpr ⟨fun link' hmem => ?_, List.forall_mem_singleton.mpr ?_⟩
        · rw [ReadThrough.get?_insert, if_neg fun hsame => hother link' hmem hsame.2.symm]
          exact h.known link' hmem
        · rw [ReadThrough.get?_insert, if_pos ⟨hcache, rfl⟩]
          rfl
      · refine List.pairwise_append.mpr ⟨h.distinct, List.pairwise_singleton _ _, ?_⟩
        intro link' hmem link'' hlast
        rw [List.mem_singleton.mp hlast]
        exact hother link' hmem

/-- **One copy for each key.** All that has been added to the folder after some transfers are
copies for links with different keys. -/
theorem copiedOnce_afterTransfers {site : Snapshot} {ctx : Context}
    (hsource : ctx.source = site.source) (hcache : ctx.settings.cacheLookups)
    {folder : AssetFolder} (hlimits : folder.limits = []) (links : List String) :
    ∃ copied, CopiedOnce site folder links copied (ctx.afterTransfers folder links) := by
  induction links using List.reverseRecOn with
  | nil =>
      exact ⟨[], ⟨[], (List.append_nil _).symm, rfl⟩, List.nil_subset _, by simp, by simp, .nil⟩
  | append_singleton links link ih =>
      obtain ⟨copied, h⟩ := ih
      rw [Context.afterTransfers_append]
      have hroom := (limits_afterTransfers ctx folder links).trans hlimits
      exact h.transfer hsource (by rwa [Context.enabled_afterTransfers]) hroom

/-- There are no more copies than names of the links that resolve, if links with one name have one
key. -/
theorem CopiedOnce.length_le {ν : Type} [DecidableEq ν] {site : Snapshot} {folder : AssetFolder}
    {links copied : List String} {s : RunState} (h : CopiedOnce site folder links copied s)
    (name? : String → Option ν)
    (hnamed : ∀ link, (site.file? (Link.lookupPath link)).isSome → (name? link).isSome)
    (hkey : ∀ link ∈ links, ∀ link' ∈ links, (site.file? (Link.lookupPath link)).isSome →
      name? link = name? link' → copyKey (Link.lookupPath link) = copyKey (Link.lookupPath link')) :
    copied.length ≤ (links.filterMap name?).dedup.length := by
  have hdistinct : (copied.map name?).Nodup := by
    refine List.pairwise_map.mpr (h.distinct.imp_of_mem fun {link link'} hmem hmem' hkeys heq => ?_)
    exact hkeys (hkey link (h.subset hmem) link' (h.subset hmem') (h.stored link hmem) heq)
  have hsubset : copied.map name? ⊆ (links.filterMap name?).dedup.map some := by
    intro name hname
    obtain ⟨link, hmem, rfl⟩ := List.mem_map.mp hname
    obtain ⟨name, heq⟩ := Option.isSome_iff_exists.mp (hnamed link (h.stored link hmem))
    rw [heq]
    refine List.mem_map_of_mem (List.mem_dedup.mpr ?_)
    exact List.mem_filterMap.mpr ⟨link, h.subset hmem, heq⟩
  simpa using (hdistinct.subperm hsubset).length_le

end Run

/-! ### Files and their spellings -/

theorem Snapshot.normalPath_of_file?_eq_some {site : Snapshot} {path : String} {file : StoredFile}
    (h : site.file? path = some file) :
    normalPath file.info.serverRelativeUrl = normalPath path := by
  simpa using List.find?_some h

/-- Links whose paths to one file of a snapshot differ in the case of ASCII letters only. -/
def Snapshot.SpelledAlike (site : Snapshot) (links : List String) : Prop :=
  ∀ link ∈ links, ∀ link' ∈ links, (site.file? (Link.lookupPath link)).isSome →
    site.file? (Link.lookupPath link) = site.file? (Link.lookupPath link') →
      Text.sameName (Link.lookupPath link) (Link.lookupPath link')

/-- Links in ASCII without escapes, and without blanks around their paths, are spelled alike. -/
theorem Snapshot.spelledAlike_of_plain {site : Snapshot} {links : List String}
    (hplain : ∀ link ∈ links,
      (Link.lookupPath link).toList.all fun c => c.toNat < 128 && c != '%')
    (htrim : ∀ link ∈ links, Text.trim (Link.lookupPath link) = Link.lookupPath link) :
    site.SpelledAlike links := by
  have hnormal : ∀ link ∈ links,
      normalPath (Link.lookupPath link) = Text.lower (Link.lookupPath link) := by
    intro link hmem
    have hchars := hplain link hmem
    simp only [List.all_eq_true, Bool.and_eq_true, decide_eq_true_eq, bne_iff_ne] at hchars
    rw [normalPath, htrim link hmem, Percent.decode_of_plain hchars]
  intro link hmem link' hmem' hstored heq
  obtain ⟨file, hfile⟩ := Option.isSome_iff_exists.mp hstored
  have hlink := normalPath_of_file?_eq_some hfile
  have hlink' := normalPath_of_file?_eq_some (heq.symm.trans hfile)
  rw [hnormal link hmem] at hlink
  rw [hnormal link' hmem'] at hlink'
  exact Chars.sameName_iff.mpr (String.ofList_injective (hlink.symm.trans hlink'))

/-- **Number of copies.** Each transfer from a snapshot into a folder without limits leads to a
copy, or keeps the link, the folder and what is known of copies.  Links with one key lead to one
copy, and the run adds no more files than the links that resolve have keys.  If the links to each
file are spelled alike, those to one file lead to one copy, and the run adds no more files than the
links name. -/
theorem Run.transfers_copy_once (ctx : Context) (site : Snapshot) (folder : AssetFolder)
    (links : List String) (hcache : ctx.settings.cacheLookups) (hlimits : folder.limits = []) :
    let ctx := { ctx with source := site.source }
    let file? (link : String) := site.file? (Link.lookupPath link)
    let key (link : String) := copyKey (Link.lookupPath link)
    let s := ctx.afterTransfers folder links
    (∀ earlier link later, links = earlier ++ link :: later →
      let s := ctx.afterTransfers folder earlier
      let result := (transfer ctx link s).1
      let t := (transfer ctx link s).2
      ctx.Returns folder links link result ∨
        result = Text.trim link ∧ t.folder = s.folder ∧ t.copies = s.copies) ∧
    (∀ link link' address address', ctx.Returns folder links link address →
      ctx.Returns folder links link' address' → key link = key link' → address = address') ∧
    ∃ added, s.folder.files = folder.files ++ added ∧
      added.length ≤
        (links.filterMap fun link => (file? link).map fun _ => key link).dedup.length ∧
      (site.SpelledAlike links →
        added.length ≤ (links.filterMap file?).dedup.length ∧
        ∀ link link' address address', ctx.Returns folder links link address →
          ctx.Returns folder links link' address' → (file? link).isSome →
            file? link = file? link' → address = address') := by
  intro ctx file? key s
  refine ⟨?_, ?_, ?_⟩
  · rintro earlier link later hlinks s result t
    rcases keeps_or_leadsToCopy ctx link s with hkeeps | ⟨address, hcopy⟩
    · obtain ⟨hresult, hcopies, -⟩ := hkeeps.transfer_eq
      have hroom := (limits_afterTransfers ctx folder earlier).trans hlimits
      exact Or.inr ⟨hresult, hkeeps.folder_eq hroom, hcopies⟩
    · refine Or.inl ⟨earlier, later, hlinks, ?_⟩
      rwa [show result = address from hcopy.transfer_fst]
  · intro link link' address address' h h' hkey
    exact h.unique h' hcache hkey
  have hsource : ctx.source = site.source := rfl
  obtain ⟨copied, hcopied⟩ := copiedOnce_afterTransfers hsource hcache hlimits links
  obtain ⟨added, hadded, hlength⟩ := hcopied.added
  refine ⟨added, hadded, ?_, fun hspelled => ⟨?_, ?_⟩⟩
  · rw [hlength]
    refine hcopied.length_le _ (fun link hstored => by simpa [file?] using hstored) ?_
    intro link _ link' _ hstored heq
    obtain ⟨file, hfile⟩ := Option.isSome_iff_exists.mp hstored
    rw [show file? link = some file from hfile, Option.map_some, eq_comm,
      Option.map_eq_some_iff] at heq
    obtain ⟨-, -, hkey⟩ := heq
    exact hkey.symm
  · rw [hlength]
    exact hcopied.length_le _ (fun link hstored => hstored) fun link hmem link' hmem' hstored heq =>
      copyKey_eq_of_sameName (hspelled link hmem link' hmem' hstored heq)
  · intro link link' address address' h h' hstored heq
    exact h.unique h' hcache
      (copyKey_eq_of_sameName (hspelled link h.mem link' h'.mem hstored heq))

/-- A file that is named by an address with a query, and in capitals with a fragment, is copied
once. -/
theorem Run.transfers_copy_once_of_logo :
    let file : FileInfo :=
      { serverRelativeUrl := "/a/Assets/logo.png", listId := .nil, uniqueId := .nil }
    let site : Snapshot :=
      { web := ⟨"https://old.com/a", "/a"⟩, files := [⟨file, [1]⟩] }
    let ctx : Context :=
      { source := site.source
        target := some ⟨"https://new.com/b", "/b"⟩
        servedFrom := some "/b" }
    let links := ["https://old.com/a/Assets/logo.png?web=1", "/a/ASSETS/Logo.PNG#top"]
    ctx.settings.cacheLookups ∧ site.SpelledAlike links ∧
      ∃ added, (ctx.afterTransfers {} links).folder.files = [] ++ added ∧ added.length ≤ 1 := by
  intro file site ctx links
  have hspelled : site.SpelledAlike links :=
    Snapshot.spelledAlike_of_plain (by decide +kernel) (by decide +kernel)
  obtain ⟨-, -, added, hadded, -, hcopies⟩ :=
    transfers_copy_once ctx site {} links rfl rfl
  refine ⟨rfl, hspelled, added, hadded, ?_⟩
  calc
    added.length ≤ (links.filterMap fun link => site.file? (Link.lookupPath link)).dedup.length :=
      (hcopies hspelled).1
    _ = 1 := by decide +kernel

/-- A file is copied a second time, under another name, for a link that spells it with an
escape. -/
theorem Run.transfers_copy_twice_of_escape :
    let file : FileInfo :=
      { serverRelativeUrl := "/a/my logo.png", listId := .nil, uniqueId := .nil }
    let site : Snapshot :=
      { web := ⟨"https://old.com/a", "/a"⟩, files := [⟨file, [1]⟩] }
    let ctx : Context :=
      { source := site.source
        target := some ⟨"https://new.com/b", "/b"⟩
        servedFrom := some "/b" }
    let s := ctx.afterTransfers {} ["/a/my%20logo.png"]
    let t := ctx.afterTransfers {} ["/a/my%20logo.png", "/a/my logo.png"]
    ctx.isCrossSite ∧ ctx.settings.cacheLookups ∧
      site.file? (Link.lookupPath "/a/my%20logo.png") = some ⟨file, [1]⟩ ∧
      site.file? (Link.lookupPath "/a/my logo.png") = some ⟨file, [1]⟩ ∧
      (transfer ctx "/a/my%20logo.png" (ctx.start {})).1 = "/b/my logo.png" ∧
      (transfer ctx "/a/my logo.png" s).1 = "/b/my logo-1.png" ∧
      t.folder.files = [("my logo.png", [1]), ("my logo-1.png", [1])] := by
  decide +kernel

end PageMigration
