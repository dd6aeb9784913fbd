import PageMigration.Proofs.Site.RedirectedLinks
import PageMigration.Proofs.Site.TrailingSlashes
import PageMigration.Run.Context
import PageMigration.Site.Snapshot

/-!
# Links of runs that stay in place

A run stays in place if its target has the address and the path of the source web, the case of
ASCII letters left aside.  Links are let alone only where the two addresses agree letter by letter,
so a run that stays in place may respell the links into its web.  If the address of the web is its
host followed by its path, links change in the case of letters at most.

## Main definitions

* `Web.IsRegular` : webs whose address is their host followed by their path.

## Main results

* `Web.isRegular_ofUrl` : the web at an address is one.
* `UrlMapping.apply_of_spells` : what becomes of the address of a web.
* `UrlMapping.spells_apply` : links that are respelled.
* `Context.links_in_place` : the links that a run in place keeps.
-/

namespace PageMigration

/-! ### Texts in other letters -/

theorem Chars.fold_toLower (c : Char) : fold c.toLower = fold c := by
  by_cases h : c.toNat < 128
  · exact forall_ascii (p := fun c => fold c.toLower = fold c) (by decide +kernel) h
  · rw [toLower_of_not_ascii h]

namespace SiteLink

theorem spells_iff {a b : List Char} : Spells a b ↔ a.map Chars.fold = b.map Chars.fold := by
  simp only [Spells, Chars.sameLetter, beq_iff_eq]
  rw [← List.forall₂_eq_eq_eq, List.forall₂_map_left_iff, List.forall₂_map_right_iff]

/-- Texts that differ in the case of ASCII letters are spellings of each other. -/
theorem spells_of_sameName {a b : List Char} (h : Chars.sameName a b) : Spells a b := by
  have hlower (s : List Char) : (Chars.lower s).map Chars.fold = s.map Chars.fold := by
    rw [Chars.lower, List.map_map]
    exact List.map_congr_left fun c _ => Chars.fold_toLower c
  rw [spells_iff, ← hlower a, ← hlower b, Chars.sameName_iff.mp h]

end SiteLink

open SiteLink

/-! ### Webs -/

/-- A web whose address is its host followed by its path, without slashes at the end. -/
structure Web.IsRegular (web : Web) : Prop where
  url_eq : web.url = web.hostUrl ++ web.path
  serverRelativeUrl_eq : web.serverRelativeUrl = web.path

/-- The web at an address is regular. -/
theorem Web.isRegular_ofUrl (url : String) : (ofUrl url).IsRegular := by
  set u := Chars.trimEndWhere (· == '/') url.toList with hu
  have hend : u.getLast? ≠ some '/' := Chars.getLast?_trimEndWhere_ne _
  have hsuffix {a b : List Char} (h : u = a ++ b) : Chars.trimEndWhere (· == '/') b = b := by
    refine Chars.trimEndWhere_of_getLast?_ne fun hlast => hend ?_
    rw [h, List.getLast?_append, hlast]
    rfl
  have hparts : hostOf u ++ pathOf u = u := by
    cases hcut : cutScheme? u with
    | none =>
        rw [hostOf_of_cutScheme?_eq_none hcut, pathOf, hcut,
          hsuffix (List.takeWhile_append_dropWhile (p := (· != '/'))).symm]
        exact List.takeWhile_append_dropWhile
    | some parts =>
        obtain ⟨scheme, rest⟩ := parts
        have happend : u = scheme ++ "://".toList ++ rest.takeWhile (· != '/') ++
            rest.dropWhile (· != '/') := by
          rw [List.append_assoc, List.takeWhile_append_dropWhile]
          exact Chars.eq_append_of_cutAt? hcut
        rw [hostOf_of_cutScheme? hcut (.inr hend), pathOf, hcut]
        exact (congrArg _ (hsuffix happend)).trans happend.symm
  have hpath : (ofUrl url).path = String.ofList (pathOf u) := by
    rw [path, Text.trimEndOf, ofUrl, String.toList_ofList, ← hu]
    exact congrArg String.ofList (hsuffix hparts.symm)
  refine ⟨?_, hpath.symm⟩
  rw [hpath, hostUrl, ofUrl, String.toList_ofList, ← hu, ← String.ofList_append, hparts]

/-! ### Links that are respelled -/

theorem SiteLink.redirectFrom_nil (host path targetPath targetUrl : List Char) :
    redirectFrom host path targetPath targetUrl [] = [] := by
  unfold redirectFrom
  rfl

namespace UrlMapping

variable {source target : Web}

theorem apply_of_kept (h : source.path = "" ∨ source.url = target.url) (text : String) :
    (redirect source target).apply text = text := by
  rw [← String.toList_eq_nil_iff, ← List.isEmpty_iff] at h
  simp only [apply, if_pos h]

/-- Every spelling of the address of a web becomes the address of the target. -/
theorem apply_of_spells (hpath : source.path ≠ "") (hurl : source.url ≠ target.url)
    {text : String} (h : Spells (address source true) text.toList) :
    (redirect source target).apply text = target.url := by
  have hkeep : ¬ (source.path.toList.isEmpty ∨ source.url = target.url) := by
    rw [List.isEmpty_iff, String.toList_eq_nil_iff]
    exact not_or.mpr ⟨hpath, hurl⟩
  have hlink : pathThenEnd? (address source true) text.toList = some ([], []) := by
    rw [pathThenEnd?_address]
    exact ⟨text.toList, [], (List.append_nil _).symm, ⟨h, by simp⟩, rfl⟩
  have hfind : find? source.hostUrl.toList source.path.toList text.toList =
      some (true, [], []) := by
    rw [find?_eq_or, hlink]
    rfl
  rw [apply]
  simp only [if_neg hkeep, hfind, redirectFrom_nil, List.append_nil]
  exact String.ofList_toList

section

variable (hlinks : ∀ withHost, Spells (address source withHost)
  (if withHost then target.url.toList else target.serverRelativeUrl.toList))

include hlinks

/-- The link at the start of a text, with what takes its place. -/
theorem map_fold_of_find? {withHost : Bool} {s tail rest : List Char}
    (h : find? source.hostUrl.toList source.path.toList s = some (withHost, tail, rest)) :
    s.map Chars.fold = (if withHost then target.url.toList
      else target.serverRelativeUrl.toList).map Chars.fold ++ (tail ++ rest).map Chars.fold := by
  obtain ⟨spelling, after, rfl, hlink, rfl, rfl, -⟩ := find?_eq_some h
  rw [List.take_append_drop, ← spells_iff.mp (hlinks withHost), spells_iff.mp hlink.spelled,
    List.map_append]

theorem map_fold_redirectFrom (s : List Char) :
    (redirectFrom source.hostUrl.toList source.path.toList target.serverRelativeUrl.toList
      target.url.toList s).map Chars.fold = s.map Chars.fold := by
  fun_induction redirectFrom source.hostUrl.toList source.path.toList
    target.serverRelativeUrl.toList target.url.toList s with
  | case1 => rfl
  | case2 c s hopens withHost tail rest hfind ih =>
      rw [List.map_cons, List.map_cons, map_fold_of_find? hlinks hfind, List.map_append,
        List.map_append, List.map_append, ih]
  | case3 c s hopens hfind ih => rw [List.map_cons, List.map_cons, ih]
  | case4 c s hopens ih => rw [List.map_cons, List.map_cons, ih]

/-- If what takes the place of a link is a spelling of it, a text is respelled at most. -/
theorem spells_apply (text : String) :
    Spells text.toList ((redirect source target).apply text).toList := by
  rw [spells_iff]
  by_cases hkeep : source.path = "" ∨ source.url = target.url
  · rw [apply_of_kept hkeep]
  rw [← String.toList_eq_nil_iff, ← List.isEmpty_iff] at hkeep
  simp only [apply, if_neg hkeep, String.toList_ofList]
  cases hfind : find? source.hostUrl.toList source.path.toList text.toList with
  | none => exact (map_fold_redirectFrom hlinks _).symm
  | some found =>
      obtain ⟨withHost, tail, rest⟩ := found
      simp only [List.map_append, map_fold_redirectFrom hlinks]
      rw [map_fold_of_find? hlinks hfind, List.map_append]

end

end UrlMapping

/-! ### Runs in place -/

namespace Context

variable {ctx : Context} {target : Web}

/-- The target of a run in place has the address and the path of the source web. -/
theorem sameName_targetWeb (h : ctx.isCrossSite = false) :
    Text.sameName ctx.targetWeb.serverRelativeUrl ctx.source.web.serverRelativeUrl ∧
      Text.sameName ctx.targetWeb.url ctx.source.web.url := by
  rw [isCrossSite] at h
  rw [targetWeb]
  cases htarget : ctx.target with
  | none => exact ⟨Text.sameName_self _, Text.sameName_self _⟩
  | some target => simpa [htarget] using h

/-- **Links in place.** A run that stays in its web keeps every text iff the web is at the root of
the server or its address is spelled as that of the target.  If the web is regular, all texts stay
the same but for the case of letters. -/
theorem links_in_place (h : (ctx.withTarget target).isCrossSite = false) :
    let source := ctx.source.web
    let links := (ctx.withTarget target).links
    ((∀ text, links.apply text = text) ↔ source.path = "" ∨ source.url = target.url) ∧
      (source.IsRegular → ∀ text, Spells text.toList (links.apply text).toList) := by
  intro source links
  obtain ⟨hpath, hurl⟩ : Text.sameName target.serverRelativeUrl source.serverRelativeUrl ∧
      Text.sameName target.url source.url := by
    simpa only [targetWeb, withTarget, Option.getD_some] using sameName_targetWeb h
  have hurl : Spells target.url.toList source.url.toList := spells_of_sameName hurl
  refine ⟨⟨fun hkept => ?_, UrlMapping.apply_of_kept⟩, fun hregular => ?_⟩
  · by_contra hother
    obtain ⟨hroot, hspelled⟩ := not_or.mp hother
    -- The host followed by the path becomes the target's address, and so does the source's address.
    have haddress : target.url = String.ofList (address source true) := by
      rw [← hkept (String.ofList (address source true))]
      refine (UrlMapping.apply_of_spells hroot hspelled ?_).symm
      rw [String.toList_ofList, spells_iff]
    have hsource : target.url = source.url := by
      rw [← hkept source.url]
      refine (UrlMapping.apply_of_spells hroot hspelled ?_).symm
      rwa [haddress, String.toList_ofList] at hurl
    exact hspelled hsource.symm
  · refine UrlMapping.spells_apply fun withHost => ?_
    rw [spells_iff] at hurl ⊢
    cases withHost with
    | true => simp only [address, source, if_true, hurl, hregular.url_eq, String.toList_append]
    | false =>
        have hpath := spells_iff.mp (spells_of_sameName hpath)
        simp only [address, source, Bool.false_eq_true, if_false, hpath,
          hregular.serverRelativeUrl_eq, List.nil_append]

/-- A run to the address of its web in capitals changes the letters of links. -/
theorem links_in_place_of_capitals :
    let site : Snapshot := Snapshot.ofUrl "https://old.com/a"
    let ctx : Context := { source := site.source }
    let target := Web.ofUrl "https://old.com/A/"
    let links := (ctx.withTarget target).links
    (ctx.withTarget target).isCrossSite = false ∧ ctx.source.web.IsRegular ∧
      ¬ (∀ text, links.apply text = text) ∧
      Spells "/a/x".toList (links.apply "/a/x").toList := by
  intro site ctx target links
  have hplace : (ctx.withTarget target).isCrossSite = false := by decide +kernel
  have hregular : ctx.source.web.IsRegular := Web.isRegular_ofUrl _
  have hother : ¬ (ctx.source.web.path = "" ∨ ctx.source.web.url = target.url) := by
    decide +kernel
  obtain ⟨hkeeps, hspells⟩ := links_in_place hplace
  exact ⟨hplace, hregular, fun hkept => hother (hkeeps.mp hkept), hspells hregular _⟩

/-- A run whose target is the source web in another spelling stays in place, and still redirects a
link. -/
theorem links_in_place_redirected :
    let ctx : Context := { source := Snapshot.source { web := ⟨"https://old.com/a", "/a"⟩ } }
    let c := ctx.withTarget ⟨"https://old.com/A", "/A"⟩
    c.isCrossSite = false ∧ c.links.apply "/a/x" = "/A/x" := by
  decide +kernel

end Context

end PageMigration
