import Mathlib.Data.List.TakeWhile
import PageMigration.Proofs.Encoding.PlainEnd
import PageMigration.Proofs.Run.FreeName
import PageMigration.Run.Transfer

/-!
# Names of copies

Whether a file may be copied is told by the extension in the path of its link, as it is written.
The name of the copy has its escapes decoded, its blanks trimmed and perhaps a number put into it.
An extension that may be copied is made of letters and digits, and these stay as they are on the
way, so the name of a copy never has a refused extension.

## Main definitions

* `Settings.HasUsualExtensions` : settings that leave the lists of extensions as they are.

## Main results

* `Link.lookupPath_lookupPath` : the path of a link is its own path.
* `exists_of_extensionOf?` : the extension in the name at the end of a path.
* `Link.listsExtension_of_numberedName` : no name of a copy has a refused extension.
-/

namespace PageMigration

/-! ### Paths of links -/

namespace Link

/-- An address begins like one as soon as it is long enough. -/
theorem isAddress_of_isPrefix {p q : String} (h : p.toList <+: q.toList) (hp : isAddress p) :
    isAddress q := by
  have hlower : Chars.lower p.toList <+: Chars.lower q.toList := h.map _
  simp only [isAddress, Text.startsWithName, Bool.or_eq_true, List.isPrefixOf_iff_prefix] at hp ⊢
  exact hp.imp (·.trans hlower) (·.trans hlower)

/-- What is left of an address from its first slash on begins with a slash. -/
theorem exists_pathFrom_eq (s : List Char) :
    ∃ rest, (if (s.dropWhile (· != '/')).isEmpty then "/"
      else String.ofList (s.dropWhile (· != '/'))).toList = '/' :: rest := by
  cases hpath : s.dropWhile (· != '/') with
  | nil => exact ⟨[], by simp⟩
  | cons c rest =>
      have hc := List.head?_dropWhile_not (· != '/') s
      rw [hpath] at hc
      obtain rfl : c = '/' := by simpa using hc
      exact ⟨rest, by simp⟩

/-- The path of a link is the link without the blanks around it, or it begins with a slash. -/
theorem serverPath_eq_or (link : String) :
    serverPath link = Text.trim link ∧ isAddress (Text.trim link) = false ∨
      ∃ rest, (serverPath link).toList = '/' :: rest := by
  by_cases h : isAddress (Text.trim link)
  · refine Or.inr ?_
    simp only [serverPath, h, if_true]
    exact exists_pathFrom_eq _
  · exact Or.inl ⟨by simp [serverPath, h], Bool.eq_false_iff.mpr h⟩

theorem withoutQuery_isPrefix (path : String) : (withoutQuery path).toList <+: path.toList := by
  rw [withoutQuery, String.toList_ofList]
  exact List.takeWhile_prefix _

@[simp] theorem withoutQuery_withoutQuery (path : String) :
    withoutQuery (withoutQuery path) = withoutQuery path := by
  simp [withoutQuery, List.takeWhile_idem]

/-- A path under which a link is looked up does not begin with a blank, and is no address. -/
theorem lookupPath_start (link : String) :
    Chars.trimStart (lookupPath link).toList = (lookupPath link).toList ∧
      isAddress (lookupPath link) = false := by
  have hprefix := withoutQuery_isPrefix (serverPath link)
  rcases serverPath_eq_or link with ⟨heq, haddress⟩ | ⟨rest, hrest⟩
  · rw [heq] at hprefix
    refine ⟨Chars.trimStart_eq_self_of_isPrefix (t := link.toList) ?_, ?_⟩
    · rw [lookupPath, heq]
      simpa [Text.trim] using hprefix
    · rw [Bool.eq_false_iff]
      intro h
      rw [lookupPath, heq] at h
      rw [isAddress_of_isPrefix hprefix h] at haddress
      cases haddress
  · have hslash : (lookupPath link).toList =
        '/' :: rest.takeWhile fun c => c != '?' && c != '#' := by
      simp [lookupPath, withoutQuery, hrest]
    refine ⟨?_, ?_⟩
    · rw [hslash, Chars.trimStart_eq_self_iff]
      simp
      decide
    · simp [isAddress, Text.startsWithName, hslash, Chars.lower, List.isPrefixOf]

/-- The path of a link is its own path, if it ends in a text without blanks after a dot. -/
theorem lookupPath_lookupPath {link : String} {before plain : List Char}
    (h : (lookupPath link).toList = before ++ '.' :: plain)
    (hplain : ∀ c ∈ plain, Chars.isBlank c = false) :
    lookupPath (lookupPath link) = lookupPath link := by
  obtain ⟨hstart, haddress⟩ := lookupPath_start link
  have hdot : Chars.isBlank '.' = false := by decide
  have htrim : Text.trim (lookupPath link) = lookupPath link := by
    rw [← String.toList_inj, Text.trim, String.toList_ofList, Chars.trim, hstart, h,
      Chars.trimEnd_append_cons _ _ hdot, Chars.trimEnd_eq_self hplain]
  have hserver : serverPath (lookupPath link) = lookupPath link := by
    simp [serverPath, htrim, haddress]
  rw [lookupPath, hserver, lookupPath, withoutQuery_withoutQuery]

end Link

/-! ### Extensions -/

theorem toList_lastSegment (path : String) : (lastSegment path).toList =
    match Chars.cutLast? '/' path.toList with
    | some (_, file) => file
    | none => path.toList := by
  rw [lastSegment, Text.cutLast?]
  cases Chars.cutLast? '/' path.toList with
  | none => rfl
  | some parts => simp

theorem exists_append_lastSegment (path : String) :
    ∃ before, path.toList = before ++ (lastSegment path).toList := by
  rw [toList_lastSegment]
  cases hcut : Chars.cutLast? '/' path.toList with
  | none => exact ⟨[], rfl⟩
  | some parts =>
      obtain ⟨folder, file⟩ := parts
      obtain ⟨hpath, -⟩ := Chars.cutLast?_eq_some_iff.mp hcut
      exact ⟨folder ++ ['/'], by simp [hpath]⟩

theorem extensionOf?_eq (path : String) : extensionOf? path =
    match Chars.cutLast? '.' (lastSegment (withoutQuery path)).toList with
    | some (stem, extension) =>
        if stem.isEmpty || extension.isEmpty then none
        else some (String.ofList (Chars.lower extension))
    | none => none := by
  rw [toList_lastSegment, withoutQuery, String.toList_ofList]
  rfl

/-- The extension of a path is that of its last segment, in small letters. -/
theorem exists_of_extensionOf? {path extension : String} (h : extensionOf? path = some extension) :
    ∃ stem plain, (lastSegment (withoutQuery path)).toList = stem ++ '.' :: plain ∧ '.' ∉ plain ∧
      extension = String.ofList (Chars.lower plain) := by
  rw [extensionOf?_eq] at h
  cases hcut : Chars.cutLast? '.' (lastSegment (withoutQuery path)).toList with
  | none => simp [hcut] at h
  | some parts =>
      simp only [hcut, Option.ite_none_left_eq_some, Option.some.injEq] at h
      obtain ⟨hparts, hdot⟩ := Chars.cutLast?_eq_some_iff.mp hcut
      exact ⟨parts.1, parts.2, hparts, hdot, h.2.symm⟩

/-- Query and fragment have no part in the extension of a path. -/
@[simp] theorem extensionOf?_withoutQuery (path : String) :
    extensionOf? (withoutQuery path) = extensionOf? path := by
  rw [extensionOf?_eq, Link.withoutQuery_withoutQuery, ← extensionOf?_eq]

/-- What stands before a slash is not in the last segment. -/
theorem lastSegment_append_cons {path : String} {before rest : List Char}
    (h : path.toList = before ++ '/' :: rest) :
    lastSegment path = lastSegment (String.ofList ('/' :: rest)) := by
  obtain ⟨folder, file, hrest, hfile⟩ :
      ∃ folder file, '/' :: rest = folder ++ '/' :: file ∧ '/' ∉ file := by
    cases hcut : Chars.cutLast? '/' ('/' :: rest) with
    | none => exact absurd List.mem_cons_self (Chars.cutLast?_eq_none_iff.mp hcut)
    | some parts => exact ⟨parts.1, parts.2, Chars.cutLast?_eq_some_iff.mp hcut⟩
  rw [← String.toList_inj, toList_lastSegment, toList_lastSegment, h, String.toList_ofList, hrest,
    ← List.append_assoc, Chars.cutLast?_append _ hfile, Chars.cutLast?_append _ hfile]

/-- Two paths have one extension if they agree from some slash on. -/
theorem extensionOf?_eq_of_append {p q : String} {before rest : List Char}
    (hp : (withoutQuery p).toList = before ++ '/' :: rest)
    (hq : (withoutQuery q).toList = '/' :: rest) : extensionOf? p = extensionOf? q := by
  have hsegment : lastSegment (withoutQuery p) = lastSegment (withoutQuery q) := by
    rw [lastSegment_append_cons hp, ← hq, String.ofList_toList]
  rw [extensionOf?_eq, hsegment, ← extensionOf?_eq]

/-- Settings that leave the lists of extensions as they are. -/
structure Settings.HasUsualExtensions (s : Settings) : Prop where
  image : s.imageExtensions = ({} : Settings).imageExtensions
  document : s.documentExtensions = ({} : Settings).documentExtensions
  blocked : s.blockedExtensions = ({} : Settings).blockedExtensions

/-- A file may be copied if its extension is listed and not refused. -/
theorem Settings.isCopied_classify_iff {s : Settings} {path : String} :
    (s.classify path).isCopied ↔ ∃ extension, extensionOf? path = some extension ∧
      listsExtension s.blockedExtensions extension = false ∧
      (listsExtension s.imageExtensions extension ∨
        listsExtension s.documentExtensions extension) := by
  cases h : extensionOf? path with
  | none => simp [classify, h, AssetClass.isCopied]
  | some extension =>
      simp only [classify, h, Option.some.injEq, exists_eq_left']
      split_ifs <;> simp_all [AssetClass.isCopied]

@[simp] theorem listsExtension_lower (entries : List String) (s : List Char) :
    listsExtension entries (String.ofList (Chars.lower s)) =
      listsExtension entries (String.ofList s) := by
  simp [listsExtension, Text.sameName, Chars.sameName]

/-- A character of a listed extension is, in small letters, one of an entry of the list. -/
theorem exists_of_listsExtension {entries : List String} {extension : String}
    (h : listsExtension entries extension) {c : Char} (hc : c ∈ extension.toList) :
    ∃ e ∈ entries, c.toLower ∈ Chars.lower (Text.trimStartOf '.' e).toList := by
  obtain ⟨e, he, hsame⟩ := List.any_eq_true.mp h
  rw [Text.sameName, Chars.sameName_iff] at hsame
  exact ⟨e, he, hsame ▸ List.mem_map_of_mem hc⟩

theorem isAlphanum_of_toLower {c : Char} (h : c.toLower.isAlphanum) : c.isAlphanum := by
  by_cases hc : c.toNat < 128
  · exact Chars.forall_ascii (p := fun c => c.toLower.isAlphanum → c.isAlphanum) (by decide) hc h
  · rwa [Chars.toLower_of_not_ascii hc] at h

/-- Letters and digits are characters that no decoding and no trimming changes. -/
theorem plain_of_isAlphanum {c : Char} (h : c.isAlphanum) :
    c.toNat < 128 ∧ c ≠ '%' ∧ Chars.isBlank c = false :=
  have hascii := Chars.ascii_of_isAlphanum h
  ⟨hascii, Chars.forall_ascii (p := fun c => c.isAlphanum → c ≠ '%' ∧ Chars.isBlank c = false)
    (by decide) hascii h⟩

namespace Settings.HasUsualExtensions

variable {s : Settings}

/-- The extensions that may be copied are made of letters and digits. -/
theorem isAlphanum (hs : s.HasUsualExtensions) {extension : String}
    (h : listsExtension s.imageExtensions extension ∨
      listsExtension s.documentExtensions extension) :
    ∀ c ∈ extension.toList, c.isAlphanum := by
  have hentries : ∀ e ∈ ({} : Settings).imageExtensions ++ ({} : Settings).documentExtensions,
      (Chars.lower (Text.trimStartOf '.' e).toList).all Char.isAlphanum := by decide
  intro c hc
  rw [hs.image, hs.document] at h
  rcases h with h | h
  · obtain ⟨e, he, hmem⟩ := exists_of_listsExtension h hc
    exact isAlphanum_of_toLower
      (List.all_eq_true.mp (hentries e (List.mem_append_left _ he)) _ hmem)
  · obtain ⟨e, he, hmem⟩ := exists_of_listsExtension h hc
    exact isAlphanum_of_toLower
      (List.all_eq_true.mp (hentries e (List.mem_append_right _ he)) _ hmem)

/-- No refused extension has a hyphen. -/
theorem listsExtension_of_hyphen (hs : s.HasUsualExtensions) {extension : String}
    (h : '-' ∈ extension.toList) : listsExtension s.blockedExtensions extension = false := by
  have hentries : ∀ e ∈ ({} : Settings).blockedExtensions,
      '-' ∉ Chars.lower (Text.trimStartOf '.' e).toList := by decide
  rw [Bool.eq_false_iff, hs.blocked]
  intro hlisted
  obtain ⟨e, he, hmem⟩ := exists_of_listsExtension hlisted h
  exact hentries e he hmem

end Settings.HasUsualExtensions

/-! ### Names of copies -/

/-- A number leaves the extension of a name alone, or puts a hyphen into it. -/
theorem AssetFolder.exists_cutLast?_numberedName {name : String} {stem plain : List Char}
    (hname : name.toList = stem ++ '.' :: plain) (hdot : '.' ∉ plain) (number : Nat) :
    ∃ before extension, Text.cutLast? '.' (numberedName name number) = some (before, extension) ∧
      (extension = String.ofList plain ∨ '-' ∈ extension.toList) := by
  have hcut := Text.cutLast?_of_toList_eq hname hdot
  by_cases hn : number = 0
  · exact ⟨_, _, by rw [hn, numberedName_zero, hcut], Or.inl rfl⟩
  have hdigits : '.' ∉ Nat.toDigits 10 number := fun h =>
    absurd (Nat.isDigit_of_mem_toDigits (by decide) (by decide) h) (by decide)
  by_cases hs : stem = []
  · have hnumbered : (numberedName name number).toList =
        [] ++ '.' :: (plain ++ '-' :: Nat.toDigits 10 number) := by
      simp [numberedName, hn, hcut, hs, hname]
    exact ⟨_, _, Text.cutLast?_of_toList_eq hnumbered (by simp [hdot, hdigits]),
      Or.inr (by simp)⟩
  · have hnumbered : (numberedName name number).toList =
        (stem ++ '-' :: Nat.toDigits 10 number) ++ '.' :: plain := by
      simp [numberedName, hn, hcut, hs]
    exact ⟨_, _, Text.cutLast?_of_toList_eq hnumbered hdot, Or.inl rfl⟩

/-- The name of the file at the path of a link ends like the path. -/
theorem Link.exists_trim_fileName_eq {link : String} {stem plain : List Char}
    (hsegment : (lastSegment (lookupPath link)).toList = stem ++ '.' :: plain)
    (hplain : ∀ c ∈ plain, c.isAlphanum) :
    ∃ before, (Text.trim (fileName (lookupPath link))).toList = before ++ '.' :: plain := by
  have hblank : ∀ c ∈ plain, Chars.isBlank c = false := fun c hc =>
    (plain_of_isAlphanum (hplain c hc)).2.2
  obtain ⟨folder, hpath⟩ := exists_append_lastSegment (lookupPath link)
  rw [hsegment, ← List.append_assoc] at hpath
  have hascii : ∀ c ∈ plain, c.toNat < 128 ∧ c ≠ '%' := fun c hc =>
    have h := plain_of_isAlphanum (hplain c hc)
    ⟨h.1, h.2.1⟩
  obtain ⟨before, hdecoded⟩ := Percent.exists_toList_decode_eq stem hascii
  rw [← hsegment, String.ofList_toList] at hdecoded
  refine ⟨Chars.trimStart before, ?_⟩
  rw [fileName, lookupPath_lookupPath hpath hblank, Text.trim, String.toList_ofList, hdecoded,
    Chars.trim_append_cons _ _ (by decide), Chars.trimEnd_eq_self hblank]

/-- **No name of a copy has a refused extension.** This holds of every number that the name may be
given, and whatever escapes the link has. -/
theorem Link.listsExtension_of_numberedName {s : Settings} (hs : s.HasUsualExtensions)
    {link : String} (hcopied : (s.classify (lookupPath link)).isCopied) {number : Nat}
    {stem extension : String}
    (hcut : Text.cutLast? '.'
      (AssetFolder.numberedName (Text.trim (fileName (lookupPath link))) number) =
        some (stem, extension)) :
    listsExtension s.blockedExtensions extension = false := by
  obtain ⟨written, hext, hblocked, hlisted⟩ := Settings.isCopied_classify_iff.mp hcopied
  obtain ⟨before, plain, hsegment, hdot, rfl⟩ := exists_of_extensionOf? hext
  rw [listsExtension_lower] at hblocked hlisted
  rw [listsExtension_lower] at hlisted
  have hplain : ∀ c ∈ plain, c.isAlphanum := by
    have h := hs.isAlphanum hlisted
    rwa [String.toList_ofList] at h
  rw [lookupPath, withoutQuery_withoutQuery, ← lookupPath] at hsegment
  obtain ⟨before', hname⟩ := exists_trim_fileName_eq hsegment hplain
  obtain ⟨stem', extension', hcut', hend⟩ :=
    AssetFolder.exists_cutLast?_numberedName hname hdot number
  rw [hcut] at hcut'
  obtain ⟨rfl, rfl⟩ : stem = stem' ∧ extension = extension' := by simpa using hcut'
  rcases hend with rfl | hhyphen
  · exact hblocked
  · exact hs.listsExtension_of_hyphen hhyphen

end PageMigration
