import Mathlib.Data.List.Nodup
import Mathlib.Data.List.Perm.Subperm
import PageMigration.Number.Digits
import PageMigration.Run.AssetFolder

/-!
# Names that are free in a folder

A file is stored under the first of its numbered names that no file of the folder has.  Numbers
are put into a name at one place, so different numbers make different names, and among more names
than there are files in the folder one is free.  Hence the search for a free name comes to its
end, and what is stored never takes the place of another file, not even where a write breaks off.

## Main definitions

* `AssetFolder.FirstFree` : the name that a copy gets.
* `AssetFolder.BreaksOff` : what a write leaves that breaks off.
* `AssetFolder.copy`, `AssetFolder.copyAll` : a folder after one copy, and after many.
* `AssetFolder.Copies`, `AssetFolder.CopiesAll` : what one call does, and what many calls do.

## Main results

* `AssetFolder.numberedName_injective` : different numbers make different names.
* `AssetFolder.exists_freeNameFrom_eq` : the search ends at the least number that is free.
* `AssetFolder.freeName_cases` : what the search for a name comes to.
* `AssetFolder.copyAll_never_overwrites` : what calls leave alone, and what they add.
-/

namespace PageMigration.AssetFolder

/-! ### Names with numbers -/

/-- A number is put into a name at one place, after a hyphen. -/
theorem exists_numberedName_eq (name : String) : ∃ before after,
    name.toList = before ++ after ∧ ∀ number, number ≠ 0 →
      (numberedName name number).toList = before ++ '-' :: (Nat.toDigits 10 number ++ after) := by
  cases hcut : Chars.cutLast? '.' name.toList with
  | none =>
      refine ⟨name.toList, [], by simp, fun number hn => ?_⟩
      simp [numberedName, hn, Text.cutLast?, hcut]
  | some parts =>
      obtain ⟨stem, extension⟩ := parts
      obtain ⟨hname, -⟩ := Chars.cutLast?_eq_some_iff.mp hcut
      by_cases hs : stem = []
      · refine ⟨name.toList, [], by simp, fun number hn => ?_⟩
        simp [numberedName, hn, Text.cutLast?, hcut, hs]
      · refine ⟨stem, '.' :: extension, hname, fun number hn => ?_⟩
        simp [numberedName, hn, Text.cutLast?, hcut, hs]

@[simp] theorem numberedName_zero (name : String) : numberedName name 0 = name := rfl

/-- Different numbers make different names. -/
theorem numberedName_injective (name : String) : Function.Injective (numberedName name) := by
  obtain ⟨before, after, hname, hnumbered⟩ := exists_numberedName_eq name
  have hlonger (number : Nat) (hn : number ≠ 0) : numberedName name number ≠ name := fun h => by
    have hlength := congrArg (fun s : String => s.toList.length) h
    simp only [hnumbered number hn, hname, List.length_append, List.length_cons] at hlength
    omega
  intro i j h
  by_cases hi : i = 0 <;> by_cases hj : j = 0
  · rw [hi, hj]
  · exact absurd (by rw [← h, hi, numberedName_zero]) (hlonger j hj)
  · exact absurd (by rw [h, hj, numberedName_zero]) (hlonger i hi)
  · have hlists := congrArg String.toList h
    rw [hnumbered i hi, hnumbered j hj] at hlists
    have hdigits : Nat.toDigits 10 i = Nat.toDigits 10 j :=
      List.append_cancel_right (List.cons.inj (List.append_cancel_left hlists)).2
    exact Digits.toDigits_inj hdigits

/-- The characters of a name with a number are those of the name, digits and a hyphen. -/
theorem mem_numberedName {name : String} {number : Nat} {c : Char}
    (h : c ∈ (numberedName name number).toList) : c ∈ name.toList ∨ c = '-' ∨ c.isDigit := by
  by_cases hn : number = 0
  · rw [hn, numberedName_zero] at h
    exact Or.inl h
  · obtain ⟨before, after, hname, hnumbered⟩ := exists_numberedName_eq name
    rw [hnumbered number hn, List.mem_append, List.mem_cons, List.mem_append] at h
    rcases h with h | rfl | h | h
    · exact Or.inl (by simp [hname, h])
    · exact Or.inr (Or.inl rfl)
    · exact Or.inr (Or.inr (Nat.isDigit_of_mem_toDigits (by decide) (by decide) h))
    · exact Or.inl (by simp [hname, h])

/-- A name that leads to no other folder. -/
structure IsPlain (name : String) : Prop where
  noSlash : '/' ∉ name.toList
  noBackslash : '\\' ∉ name.toList
  notSelf : name ≠ "."
  notParent : name ≠ ".."

theorem isPlain_of_isInvalidName {name : String} (h : isInvalidName name = false) :
    IsPlain name := by
  simp only [isInvalidName, Bool.or_eq_false_iff, beq_eq_false_iff_ne] at h
  exact ⟨by simpa using h.1.1.1.2, by simpa using h.1.1.2, h.1.2, h.2⟩

/-- A number does not make a name lead to another folder. -/
theorem IsPlain.numberedName {name : String} (h : IsPlain name) (number : Nat) :
    IsPlain (numberedName name number) := by
  by_cases hn : number = 0
  · rwa [hn, numberedName_zero]
  · obtain ⟨before, after, -, hnumbered⟩ := exists_numberedName_eq name
    have hhyphen : '-' ∈ (AssetFolder.numberedName name number).toList := by
      rw [hnumbered number hn]
      simp
    refine ⟨fun hc => ?_, fun hc => ?_, fun he => ?_, fun he => ?_⟩
    · rcases mem_numberedName hc with hc | hc | hc
      · exact h.noSlash hc
      · exact absurd hc (by decide)
      · exact absurd hc (by decide)
    · rcases mem_numberedName hc with hc | hc | hc
      · exact h.noBackslash hc
      · exact absurd hc (by decide)
      · exact absurd hc (by decide)
    · rw [he] at hhyphen
      exact absurd hhyphen (by decide)
    · rw [he] at hhyphen
      exact absurd hhyphen (by decide)

/-! ### The search for a free name -/

section Search

variable {folder : AssetFolder} {name fileName : String}

theorem contains_iff : folder.contains name ↔ name ∈ folder.files.map Prod.fst := by
  simp [contains]

/-- A folder takes no more of the numbered names than it has files. -/
theorem le_length_of_taken {k : Nat} (h : ∀ j < k, folder.contains (numberedName name j)) :
    k ≤ folder.files.length := by
  have hnodup : ((List.range k).map (numberedName name)).Nodup :=
    List.nodup_range.map (numberedName_injective name)
  have hsubset : (List.range k).map (numberedName name) ⊆ folder.files.map Prod.fst := by
    intro taken ht
    obtain ⟨j, hj, rfl⟩ := List.mem_map.mp ht
    exact contains_iff.mp (h j (List.mem_range.mp hj))
  simpa using (hnodup.subperm hsubset).length_le

/-- **The search for a free name.** It comes to its end at the least number that makes the name
free, unless it meets a name before that cannot be stored. -/
theorem exists_freeNameFrom_eq (folder : AssetFolder) (name : String) (fuel number : Nat)
    (hfuel : folder.files.length < number + fuel)
    (htaken : ∀ j < number, folder.contains (numberedName name j)) :
    ∃ k, (∀ j < k, folder.contains (numberedName name j)) ∧
      (isStorable (numberedName name k) = false ∧
          folder.freeNameFrom name fuel number = .error .refused ∨
        folder.contains (numberedName name k) = false ∧
          folder.freeNameFrom name fuel number = .ok (numberedName name k)) := by
  induction fuel generalizing number with
  | zero =>
      have := le_length_of_taken htaken
      omega
  | succ fuel ih =>
      by_cases hs : isStorable (numberedName name number) = false
      · exact ⟨number, htaken, Or.inl ⟨hs, by simp [freeNameFrom, hs]⟩⟩
      rw [Bool.not_eq_false] at hs
      by_cases hc : folder.contains (numberedName name number) = false
      · exact ⟨number, htaken, Or.inr ⟨hc, by simp [freeNameFrom, hs, hc]⟩⟩
      rw [Bool.not_eq_false] at hc
      have hnext : ∀ j < number + 1, folder.contains (numberedName name j) := fun j hj =>
        (Nat.lt_succ_iff_lt_or_eq.mp hj).elim (htaken j) fun he => he ▸ hc
      obtain ⟨k, hk, hend⟩ := ih (number + 1) (by omega) hnext
      have hstep : folder.freeNameFrom name (fuel + 1) number =
          folder.freeNameFrom name fuel (number + 1) := by
        simp [freeNameFrom, hs, hc]
      exact ⟨k, hk, by rwa [hstep]⟩

/-- The first free of the names that the trimmed name of a file gives rise to.  It is found after
at most as many attempts as there are files. -/
structure FirstFree (folder : AssetFolder) (fileName name : String) : Prop where
  least : ∃ k ≤ folder.files.length, name = numberedName (Text.trim fileName) k ∧
    ∀ j < k, folder.contains (numberedName (Text.trim fileName) j)
  free : folder.contains name = false
  plain : IsPlain name

/-- A folder finds no name for a file: it takes no files, or it meets a name that cannot be stored
before one that is free. -/
def Refuses (folder : AssetFolder) (fileName : String) : Prop :=
  folder.blocked ∨ ∃ k ≤ folder.files.length,
    (∀ j < k, folder.contains (numberedName (Text.trim fileName) j)) ∧
      isStorable (numberedName (Text.trim fileName) k) = false

/-- A file gets no name, or the first one that is free. -/
theorem freeName_cases (folder : AssetFolder) (fileName : String) :
    isInvalidName (Text.trim fileName) ∧
        folder.freeName fileName = .error (.invalidFileName fileName) ∨
      folder.Refuses fileName ∧ folder.freeName fileName = .error .refused ∨
      ∃ name, folder.FirstFree fileName name ∧ folder.freeName fileName = .ok name := by
  by_cases hinvalid : isInvalidName (Text.trim fileName)
  · exact Or.inl ⟨hinvalid, by simp [freeName, hinvalid]⟩
  rw [Bool.not_eq_true] at hinvalid
  by_cases hblocked : folder.blocked
  · exact Or.inr (Or.inl ⟨Or.inl hblocked, by simp [freeName, hinvalid, hblocked]⟩)
  rw [Bool.not_eq_true] at hblocked
  have hsearch : folder.freeName fileName =
      folder.freeNameFrom (Text.trim fileName) (folder.files.length + 1) 0 := by
    simp [freeName, hinvalid, hblocked]
  rw [hsearch]
  obtain ⟨k, hk, hend⟩ := folder.exists_freeNameFrom_eq (Text.trim fileName)
    (folder.files.length + 1) 0 (by omega) fun j hj => absurd hj (Nat.not_lt_zero j)
  have hbound := le_length_of_taken hk
  have hplain := isPlain_of_isInvalidName hinvalid
  rcases hend with ⟨hs, hend⟩ | ⟨hfree, hend⟩
  · exact Or.inr (Or.inl ⟨Or.inr ⟨k, hbound, hk, hs⟩, hend⟩)
  · exact Or.inr (Or.inr ⟨_, ⟨⟨k, hbound, rfl, hk⟩, hfree, hplain.numberedName k⟩, hend⟩)

theorem firstFree_of_freeName (h : folder.freeName fileName = .ok name) :
    folder.FirstFree fileName name := by
  rcases folder.freeName_cases fileName with ⟨-, hend⟩ | ⟨-, hend⟩ | ⟨found, hfound, hend⟩
  · cases h.symm.trans hend
  · cases h.symm.trans hend
  · obtain rfl := Except.ok.inj (h.symm.trans hend)
    exact hfound

end Search

/-! ### Writes -/

section Writes

variable {folder after : AssetFolder} {name fileName : String} {content : Bytes}

/-- What is written is the beginning of the content. -/
theorem written_isPrefix (folder : AssetFolder) (name : String) (content : Bytes) :
    folder.written name content <+: content := by
  rw [written]
  cases folder.limits.lookup name with
  | none => exact List.prefix_rfl
  | some limit => exact List.take_prefix limit content

/-- Without limits all of the content is written. -/
theorem written_of_limits (h : folder.limits = []) (name : String) (content : Bytes) :
    folder.written name content = content := by
  rw [written, h, List.lookup_nil]

/-- The write of a file breaks off, and leaves under the name of the file what was written. -/
def BreaksOff (folder : AssetFolder) (fileName : String) (content : Bytes)
    (after : AssetFolder) : Prop :=
  ∃ name, folder.freeName fileName = .ok name ∧ folder.written name content ≠ content ∧
    after = { folder with files := folder.files ++ [(name, folder.written name content)] }

/-- A write that breaks off fails, and leaves what it has written. -/
theorem BreaksOff.write_eq (h : folder.BreaksOff fileName content after) :
    folder.write content fileName = .error .refused ∧
      folder.afterFailure content fileName = after := by
  obtain ⟨name, hname, hpart, rfl⟩ := h
  rw [write, afterFailure, hname]
  exact ⟨if_neg hpart, rfl⟩

/-- What is written is one more file, under the first free name. -/
theorem firstFree_of_write (h : folder.write content fileName = .ok (after, name)) :
    folder.FirstFree fileName name ∧
      after = { folder with files := folder.files ++ [(name, content)] } := by
  rw [write] at h
  cases hname : folder.freeName fileName with
  | error e => simp [hname] at h
  | ok stored =>
      simp only [hname] at h
      split_ifs at h
      cases h
      exact ⟨firstFree_of_freeName hname, rfl⟩

/-- A write that fails leaves the folder as it is, unless it breaks off. -/
theorem afterFailure_eq_or {e : AssetError} (h : folder.write content fileName = .error e) :
    folder.afterFailure content fileName = folder ∨
      folder.BreaksOff fileName content (folder.afterFailure content fileName) := by
  rw [write] at h
  rw [afterFailure]
  cases hname : folder.freeName fileName with
  | error e => exact Or.inl rfl
  | ok name =>
      simp only [hname] at h
      split_ifs at h with hwhole
      exact Or.inr ⟨name, hname, hwhole, rfl⟩

end Writes

/-! ### Calls -/

/-- The folder after some content has been copied into it, with the address of the copy. -/
def copy (servedFrom : String) (folder : AssetFolder) (fileName : String) (content : Bytes) :
    Except AssetError String × AssetFolder :=
  match folder.write content fileName with
  | .ok (after, stored) => (.ok (location servedFrom stored), after)
  | .error e => (.error e, folder.afterFailure content fileName)

/-- The folder after files have been copied into it one after the other, with what came of each
call. -/
def copyAll (servedFrom : String) (folder : AssetFolder) :
    List (String × Bytes) → List (Except AssetError String) × AssetFolder
  | [] => ([], folder)
  | (fileName, content) :: rest =>
      let next := folder.copy servedFrom fileName content
      let last := next.2.copyAll servedFrom rest
      (next.1 :: last.1, last.2)

/-- What one call does to a folder: it adds one file under the first free of the names that the
trimmed file name gives rise to; or it fails.  Then it leaves the folder as it is, unless the write
has broken off. -/
inductive Copies (servedFrom : String) (folder : AssetFolder) (fileName : String)
    (content : Bytes) : Except AssetError String → AssetFolder → Prop
  | stored {name : String} (h : folder.FirstFree fileName name)
      (whole : folder.written name content = content) :
      Copies servedFrom folder fileName content
        (.ok (Text.trimEndOf '/' servedFrom ++ "/" ++ name))
        { folder with files := folder.files ++ [(name, content)] }
  | invalid (h : isInvalidName (Text.trim fileName)) :
      Copies servedFrom folder fileName content (.error (.invalidFileName fileName)) folder
  | refused (h : folder.Refuses fileName) :
      Copies servedFrom folder fileName content (.error .refused) folder
  | brokenOff {name : String} (h : folder.FirstFree fileName name)
      (part : folder.written name content ≠ content) :
      Copies servedFrom folder fileName content (.error .refused)
        { folder with files := folder.files ++ [(name, folder.written name content)] }

/-- What calls do to a folder one after the other. -/
inductive CopiesAll (servedFrom : String) : AssetFolder → List (String × Bytes) →
    List (Except AssetError String) → AssetFolder → Prop
  | nil {folder} : CopiesAll servedFrom folder [] [] folder
  | cons {folder fileName content result next rest results last}
      (h : Copies servedFrom folder fileName content result next)
      (hrest : CopiesAll servedFrom next rest results last) :
      CopiesAll servedFrom folder ((fileName, content) :: rest) (result :: results) last

variable (servedFrom : String) (folder : AssetFolder)

/-- A call ends, and does what calls do. -/
theorem copies_copy (fileName : String) (content : Bytes) :
    Copies servedFrom folder fileName content (folder.copy servedFrom fileName content).1
      (folder.copy servedFrom fileName content).2 := by
  rw [copy, write, afterFailure]
  rcases folder.freeName_cases fileName with ⟨h, hname⟩ | ⟨h, hname⟩ | ⟨name, h, hname⟩
  · rw [hname]
    exact .invalid h
  · rw [hname]
    exact .refused h
  simp only [hname]
  by_cases hwhole : folder.written name content = content
  · rw [if_pos hwhole]
    exact .stored h hwhole
  · rw [if_neg hwhole]
    exact .brokenOff h hwhole

theorem copiesAll_copyAll (writes : List (String × Bytes)) :
    CopiesAll servedFrom folder writes (folder.copyAll servedFrom writes).1
      (folder.copyAll servedFrom writes).2 := by
  induction writes generalizing folder with
  | nil => exact .nil
  | cons file rest ih =>
      obtain ⟨fileName, content⟩ := file
      have hstep := copies_copy servedFrom folder fileName content
      rw [copyAll]
      exact .cons hstep (ih _)

variable {servedFrom folder}

theorem contains_append_singleton {name stored : String} {content : Bytes} :
    ({ folder with files := folder.files ++ [(stored, content)] } : AssetFolder).contains name =
      (folder.contains name || stored == name) := by
  simp [contains]

/-- A file under a free name, and files under other names that are free after it. -/
theorem fresh_cons {name : String} {stored : Bytes} {added : List (String × Bytes)}
    (hfree : folder.contains name = false) (hplain : IsPlain name)
    (hnodup : (added.map Prod.fst).Nodup)
    (hadded : ∀ file ∈ added, ({ folder with
      files := folder.files ++ [(name, stored)] } : AssetFolder).contains file.1 = false ∧
        IsPlain file.1) :
    (((name, stored) :: added).map Prod.fst).Nodup ∧
      ∀ file ∈ (name, stored) :: added, folder.contains file.1 = false ∧ IsPlain file.1 := by
  simp only [contains_append_singleton, Bool.or_eq_false_iff] at hadded
  refine ⟨List.nodup_cons.mpr ⟨fun hmem => ?_, hnodup⟩, List.forall_mem_cons.mpr
    ⟨⟨hfree, hplain⟩, fun file hfile => ⟨(hadded file hfile).1.1, (hadded file hfile).2⟩⟩⟩
  obtain ⟨file, hfile, he⟩ := List.mem_map.mp hmem
  simpa [he] using (hadded file hfile).1.2

/-- Calls add files under different names, none of which was taken before.  Those of the calls that
succeed are among them, in order. -/
theorem CopiesAll.exists_added {writes : List (String × Bytes)}
    {results : List (Except AssetError String)} {last : AssetFolder}
    (h : CopiesAll servedFrom folder writes results last) :
    ∃ added : List (String × Bytes), last.files = folder.files ++ added ∧
      (results.filterMap Except.toOption).Sublist
        (added.map fun file => Text.trimEndOf '/' servedFrom ++ "/" ++ file.1) ∧
      (added.map Prod.fst).Nodup ∧
      ∀ file ∈ added, folder.contains file.1 = false ∧ IsPlain file.1 := by
  induction h with
  | nil => exact ⟨[], by simp⟩
  | @cons folder fileName content result next rest results last h hrest ih =>
      obtain ⟨added, hlast, hresults, hnodup, hadded⟩ := ih
      cases h with
      | @stored name h whole =>
          exact ⟨(name, content) :: added, by simpa using hlast, hresults.cons_cons _,
            fresh_cons h.free h.plain hnodup hadded⟩
      | invalid _ => exact ⟨added, hlast, hresults, hnodup, hadded⟩
      | refused _ => exact ⟨added, hlast, hresults, hnodup, hadded⟩
      | @brokenOff name h part =>
          exact ⟨(name, folder.written name content) :: added, by simpa using hlast,
            hresults.cons _, fresh_cons h.free h.plain hnodup hadded⟩

/-- **Copies never overwrite.** Every call in a row of calls ends and adds one file under the
least numbered name that is free, or fails.  A call that fails leaves the folder as it is, unless
its write has broken off in a file of its own.  All files that were in the folder stay there with
their content.  The added files have names that lead to no other folder, and the addresses of the
copies differ from each other. -/
theorem copyAll_never_overwrites (servedFrom : String) (folder : AssetFolder)
    (writes : List (String × Bytes)) :
    let (results, last) := folder.copyAll servedFrom writes
    CopiesAll servedFrom folder writes results last ∧
      folder.files <+: last.files ∧
      (∀ file ∈ last.files.drop folder.files.length, IsPlain file.1) ∧
      (results.filterMap Except.toOption).Nodup := by
  have hall := copiesAll_copyAll servedFrom folder writes
  obtain ⟨added, hlast, hresults, hnodup, hadded⟩ := hall.exists_added
  refine ⟨hall, ⟨added, hlast.symm⟩, fun file hfile => ?_, hresults.nodup ?_⟩
  · rw [hlast, List.drop_left] at hfile
    exact (hadded file hfile).2
  · have hinj : Function.Injective fun name : String =>
        Text.trimEndOf '/' servedFrom ++ "/" ++ name := fun a b h => by
      have hlists := congrArg String.toList h
      simp only [String.toList_append] at hlists
      exact String.toList_inj.mp (List.append_cancel_left hlists)
    have hmap := hnodup.map hinj
    rwa [List.map_map] at hmap

end PageMigration.AssetFolder
