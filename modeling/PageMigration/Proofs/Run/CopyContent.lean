import PageMigration.Proofs.Encoding.LetterCase
import PageMigration.Proofs.Run.Transferred

/-!
# Content of copies

A copy is found again under the path of its file in small letters of full Unicode, while a snapshot
compares paths in small letters of ASCII after their escapes are decoded.  Links in ASCII that have
the same key name the same file, so the copy that such a link leads to holds the content of its own
file.  Other letters may share a key and still name different files, and then the second link leads
to the copy of the first file.

## Main results

* `Snapshot.file?_eq_of_copyKey_eq` : paths in ASCII with the same key name the same file.
* `Run.transfer_content` : what is in the file that a transfer leads to.
-/

namespace PageMigration

/-! ### Letter case of paths -/

theorem Chars.isBlank_toLower (c : Char) : isBlank c.toLower = isBlank c := by
  by_cases h : c.toNat < 128
  · exact forall_ascii (p := fun c => isBlank c.toLower = isBlank c) (by decide) h
  · rw [toLower_of_not_ascii h]

theorem Chars.trim_lower (s : List Char) : trim (lower s) = lower (trim s) := by
  have hblank : isBlank ∘ Char.toLower = isBlank := funext isBlank_toLower
  simp [trim, trimEnd, trimStart, lower, List.dropWhile_map, hblank, ← List.map_reverse]

theorem Chars.lowercase_of_ascii {s : List Char} (h : ∀ c ∈ s, c.toNat < 128) :
    lowercase s = lower s := by
  suffices ∀ before, lowercaseFrom before s = lower s from this []
  induction s with
  | nil => exact fun _ => rfl
  | cons c s ih =>
      intro before
      rw [List.forall_mem_cons] at h
      have hsigma : c ≠ 'Σ' := fun hc => absurd h.1 (by rw [hc]; decide)
      rw [lowercaseFrom, if_neg hsigma, lowerChar, if_pos h.1, ih h.2]
      rfl

namespace Snapshot

/-- The case of a path in ASCII does not matter to the form in which it is compared. -/
theorem normalPath_lower {path : String} (h : ∀ c ∈ path.toList, c.toNat < 128) :
    normalPath (Text.lower path) = normalPath path := by
  have htrim : Text.trim (Text.lower path) = Text.lower (Text.trim path) := by
    simp [Text.trim, Text.lower, Chars.trim_lower]
  have hascii : ∀ c ∈ (Text.trim path).toList, c.toNat < 128 := by
    intro c hc
    rw [Text.trim, String.toList_ofList] at hc
    obtain ⟨b, -, hpath⟩ := Chars.exists_eq_append_trim path.toList
    exact h c (hpath ▸ List.mem_append_left b (List.mem_append_right _ hc))
  rw [normalPath, htrim, Percent.lower_decode hascii, normalPath]

/-- Paths in ASCII with the same key name the same file. -/
theorem file?_eq_of_copyKey_eq (site : Snapshot) {p q : String}
    (hp : ∀ c ∈ p.toList, c.toNat < 128) (hq : ∀ c ∈ q.toList, c.toNat < 128)
    (h : copyKey p = copyKey q) : site.file? p = site.file? q := by
  rw [copyKey, copyKey, Chars.lowercase_of_ascii hp, Chars.lowercase_of_ascii hq] at h
  have hnormal : normalPath p = normalPath q := by
    rw [← normalPath_lower hp, ← normalPath_lower hq, Text.lower, Text.lower, h]
  rw [file?, file?, hnormal]

end Snapshot

/-! ### Content -/

/-- **Content of copies.** A transfer from a snapshot keeps the link for one of the reasons to do
so, or leads to a file that holds the content of the file of a link with the same key, of this
transfer or of one before it.  If all these links are in ASCII, it holds the content of the file
that the link itself names. -/
theorem Run.transfer_content (ctx : Context) (site : Snapshot) (folder : AssetFolder)
    (earlier : List String) (link : String) :
    let ctx := { ctx with source := site.source }
    let s := ctx.afterTransfers folder earlier
    let result := (transfer ctx link s).1
    let t := (transfer ctx link s).2
    Keeps ctx link s ∧ result = Text.trim link ∨
      ∃ servedFrom name content, ctx.servedFrom = some servedFrom ∧
        result = AssetFolder.location servedFrom name ∧
        t.folder.content? name = some content ∧
        (∃ link' ∈ earlier ++ [link],
          copyKey (Link.lookupPath link') = copyKey (Link.lookupPath link) ∧
            (site.file? (Link.lookupPath link')).map StoredFile.content = some content) ∧
        ((∀ link' ∈ earlier ++ [link], ∀ c ∈ (Link.lookupPath link').toList, c.toNat < 128) →
          (site.file? (Link.lookupPath link)).map StoredFile.content = some content) := by
  intro ctx s result t
  have hs : Remembers ctx earlier s := remembers_afterTransfers ctx folder earlier
  rcases keeps_or_leadsToCopy ctx link s with hkeeps | ⟨copy, hcopy⟩
  · exact Or.inl ⟨hkeeps, hkeeps.transfer_eq.1⟩
  obtain ⟨link', hmem, hkey, name, content, hleads⟩ := hcopy.leadsTo hs
  obtain ⟨⟨servedFrom, hserved, haddress⟩, hstored, history, hgiven⟩ := hleads
  have hresult : result = AssetFolder.location servedFrom name :=
    hcopy.transfer_fst.trans haddress
  have hcontent : (site.file? (Link.lookupPath link')).map StoredFile.content = some content :=
    Except.ok.inj hgiven
  refine Or.inr ⟨servedFrom, name, content, hserved, hresult, hstored,
    ⟨link', hmem, hkey, hcontent⟩, fun hascii => ?_⟩
  rw [← site.file?_eq_of_copyKey_eq (hascii link' hmem) (hascii link (by simp)) hkey]
  exact hcontent

/-- A link with a letter outside of ASCII leads to the copy of another file, whose path differs in
the case of that letter. -/
theorem Run.transfer_leads_to_other_file :
    let file (path : String) : FileInfo :=
      { serverRelativeUrl := path, listId := .nil, uniqueId := .nil }
    let site : Snapshot :=
      { web := ⟨"https://old.com/a", "/a"⟩
        files := [⟨file "/a/É.png", [1]⟩, ⟨file "/a/é.png", [2]⟩] }
    let ctx : Context :=
      { source := site.source
        target := some ⟨"https://new.com/b", "/b"⟩
        servedFrom := some "/b" }
    let s := ctx.afterTransfers {} ["/a/É.png"]
    ctx.isCrossSite ∧ ctx.settings.cacheLookups ∧
      (site.file? (Link.lookupPath "/a/é.png")).map StoredFile.content = some [2] ∧
      (transfer ctx "/a/é.png" s).1 = "/b/É.png" ∧
      (transfer ctx "/a/é.png" s).2.folder.content? "É.png" = some [1] := by
  decide +kernel

end PageMigration
