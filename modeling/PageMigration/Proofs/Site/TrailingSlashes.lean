import Mathlib.Data.List.Induction
import Mathlib.Data.List.TakeWhile
import PageMigration.Site.UrlMapping

/-!
# Slashes at the end of the addresses of webs

A snapshot may spell the address and the path of a web with slashes at their ends.  The path is
used without them.  The host is the same as long as there is one: an address that is nothing but
a scheme gets a host from the slashes.  Links are redirected in the same way unless the address
of the source is that of the target up to the slashes.

## Main definitions

* `Web.slashed` : a web with slashes at the ends of its address and its path.
* `Web.NamesHost` : addresses that go on behind their scheme.

## Main results

* `Web.path_slashed` : the path of a web does not see the slashes.
* `Web.hostUrl_slashed` : nor does the host of an address that has one.
* `UrlMapping.apply_slashed` : nor do links that are redirected to another address.
-/

namespace PageMigration

/-! ### Characters at the end of a text -/

namespace Chars

section

variable {c : Char}

theorem trimEndWhere_concat_self (s : List Char) :
    trimEndWhere (· == c) (s ++ [c]) = trimEndWhere (· == c) s := by
  simp [trimEndWhere]

theorem trimEndWhere_append_replicate (s : List Char) (k : Nat) :
    trimEndWhere (· == c) (s ++ List.replicate k c) = trimEndWhere (· == c) s := by
  induction k with
  | zero => rw [List.replicate_zero, List.append_nil]
  | succ k ih =>
      rw [List.replicate_succ', ← List.append_assoc, trimEndWhere_concat_self, ih]

theorem getLast?_trimEndWhere_ne (s : List Char) :
    (trimEndWhere (· == c) s).getLast? ≠ some c := by
  intro h
  rw [trimEndWhere, List.getLast?_reverse] at h
  have := List.head?_dropWhile_not (· == c) s.reverse
  rw [h] at this
  simp at this

theorem trimEndWhere_of_getLast?_ne {s : List Char} (h : s.getLast? ≠ some c) :
    trimEndWhere (· == c) s = s := by
  cases s using List.reverseRecOn with
  | nil => rfl
  | append_singleton s d =>
      have hd : d ≠ c := by simpa using h
      simp [trimEndWhere, hd]

/-- A text is what is left without some character at its end, and copies of that character. -/
theorem exists_eq_trimEndWhere_append (c : Char) (s : List Char) :
    ∃ k, s = trimEndWhere (· == c) s ++ List.replicate k c := by
  induction s using List.reverseRecOn with
  | nil => exact ⟨0, rfl⟩
  | append_singleton s d ih =>
      by_cases hd : d = c
      · obtain ⟨k, hk⟩ := ih
        refine ⟨k + 1, ?_⟩
        rw [hd, trimEndWhere_concat_self, List.replicate_succ', ← List.append_assoc, ← hk]
      · exact ⟨0, by simp [trimEndWhere, hd]⟩

theorem takeWhile_append_replicate (s : List Char) (k : Nat) :
    (s ++ List.replicate k c).takeWhile (· != c) = s.takeWhile (· != c) := by
  induction s with
  | nil => cases k <;> simp [List.replicate_succ]
  | cons d s ih => by_cases hd : d = c <;> simp [hd, ih]

theorem takeWhile_of_notMem {s : List Char} (h : c ∉ s) : s.takeWhile (· != c) = s :=
  List.takeWhile_eq_self_iff.mpr fun _ hd => bne_iff_ne.mpr fun heq => h (heq ▸ hd)

end

end Chars

/-! ### Addresses -/

namespace Web

theorem cutScheme?_cons (c : Char) (s : List Char) :
    cutScheme? (c :: s) =
      if [':', '/', '/'].isPrefixOf (c :: s) then some ([], (c :: s).drop 3)
      else (cutScheme? s).map fun (scheme, rest) => (c :: scheme, rest) := by
  have hmark : "://".toList = [':', '/', '/'] := by decide
  rw [cutScheme?, cutScheme?, hmark, Chars.cutAt?]
  cases hstrip : Chars.stripStart? [':', '/', '/'] (c :: s) with
  | some rest =>
      rw [Chars.stripStart?_eq_some_iff.mp hstrip]
      rfl
  | none =>
      rw [if_neg]
      intro hbegins
      obtain ⟨rest, hrest⟩ := List.isPrefixOf_iff_prefix.mp hbegins
      rw [Chars.stripStart?_eq_some_iff.mpr hrest.symm] at hstrip
      cases hstrip

theorem cutScheme?_replicate (k : Nat) : cutScheme? (List.replicate k '/') = none := by
  induction k with
  | zero => rfl
  | succ k ih => simp [List.replicate_succ, cutScheme?_cons, ih]

/-- Slashes behind an address make no mark between a scheme and a host. -/
theorem cutScheme?_append_slashes {url : List Char} (hcolon : url.getLast? ≠ some ':')
    (hslash : url.getLast? ≠ some '/') (k : Nat) :
    cutScheme? (url ++ List.replicate k '/') =
      (cutScheme? url).map fun (scheme, rest) => (scheme, rest ++ List.replicate k '/') := by
  induction url with
  | nil =>
      rw [List.nil_append, cutScheme?_replicate]
      rfl
  | cons c url ih =>
      match url with
      | [] =>
          have hc : ':' ≠ c := by simpa [eq_comm] using hcolon
          simp [cutScheme?_cons, cutScheme?_replicate, hc, show cutScheme? [] = none from rfl]
      | [d] =>
          have hd : '/' ≠ d := by simpa [eq_comm] using hslash
          have ih := ih (by simpa using hcolon) (by simpa using hslash)
          rw [List.cons_append, cutScheme?_cons, ih, cutScheme?_cons c]
          simp [hd, Function.comp_def]
      | d :: e :: url =>
          have ih := ih (by simpa using hcolon) (by simpa using hslash)
          rw [List.cons_append, cutScheme?_cons, ih, cutScheme?_cons c]
          have hbegins : [':', '/', '/'].isPrefixOf (c :: (d :: e :: url ++ List.replicate k '/')) =
              [':', '/', '/'].isPrefixOf (c :: d :: e :: url) := by
            simp [List.isPrefixOf]
          rw [hbegins]
          split_ifs
          · rfl
          · simp [Function.comp_def]

/-- The host of an address ends at the first slash behind the scheme. -/
theorem hostOf_of_cutScheme? {url scheme rest : List Char}
    (hcut : cutScheme? url = some (scheme, rest)) (h : '/' ∈ rest ∨ url.getLast? ≠ some '/') :
    hostOf url = scheme ++ "://".toList ++ rest.takeWhile (· != '/') := by
  rw [hostOf, hcut]
  by_cases hslash : '/' ∈ rest
  · simp [hslash]
  · have hlast := h.resolve_left hslash
    rw [Chars.takeWhile_of_notMem hslash, ← Chars.eq_append_of_cutAt? hcut]
    simp [hslash, Chars.trimEndWhere_of_getLast?_ne hlast]

theorem hostOf_of_cutScheme?_eq_none {url : List Char} (hcut : cutScheme? url = none) :
    hostOf url = url.takeWhile (· != '/') := by
  rw [hostOf, hcut]
  by_cases hslash : '/' ∈ url
  · simp [hslash]
  · simp [hslash, Chars.takeWhile_of_notMem hslash]

/-- The host of an address does not see slashes behind it. -/
theorem hostOf_append_slashes {url : List Char} (hcolon : url.getLast? ≠ some ':')
    (hslash : url.getLast? ≠ some '/') (k : Nat) :
    hostOf (url ++ List.replicate k '/') = hostOf url := by
  have happend := cutScheme?_append_slashes hcolon hslash k
  cases hcut : cutScheme? url with
  | none =>
      rw [hcut] at happend
      rw [hostOf_of_cutScheme?_eq_none happend, hostOf_of_cutScheme?_eq_none hcut,
        Chars.takeWhile_append_replicate]
  | some parts =>
      obtain ⟨scheme, rest⟩ := parts
      rw [hcut] at happend
      have hend : '/' ∈ rest ++ List.replicate k '/' ∨
          (url ++ List.replicate k '/').getLast? ≠ some '/' := by
        cases k with
        | zero => exact Or.inr (by rwa [List.replicate_zero, List.append_nil])
        | succ k => exact Or.inl (by simp)
      rw [hostOf_of_cutScheme? happend hend, hostOf_of_cutScheme? hcut (Or.inr hslash),
        Chars.takeWhile_append_replicate]

/-! ### Webs with slashes -/

/-- A web with slashes at the ends of its address and, unless it is at the root of the server, of
its path. -/
def slashed (web : Web) (m n : Nat) : Web where
  url := web.url ++ String.ofList (List.replicate m '/')
  serverRelativeUrl :=
    if web.path = "" then web.serverRelativeUrl
    else web.serverRelativeUrl ++ String.ofList (List.replicate n '/')

/-- An address that goes on behind its scheme: without the slashes at its end, it does not end in a
colon. -/
def NamesHost (web : Web) : Prop :=
  (Text.trimEndOf '/' web.url).toList.getLast? ≠ some ':'

instance (web : Web) : Decidable web.NamesHost :=
  inferInstanceAs (Decidable (_ ≠ _))

end Web

theorem Text.trimEndOf_append_slashes (s : String) (k : Nat) :
    trimEndOf '/' (s ++ String.ofList (List.replicate k '/')) = trimEndOf '/' s := by
  rw [trimEndOf, String.toList_append, String.toList_ofList, Chars.trimEndWhere_append_replicate,
    trimEndOf]

namespace Web

variable (web : Web) (m n : Nat)

@[simp] theorem path_slashed : (web.slashed m n).path = web.path := by
  rw [path, slashed]
  split_ifs
  · rfl
  · exact Text.trimEndOf_append_slashes web.serverRelativeUrl n

@[simp] theorem trimEndOf_url_slashed :
    Text.trimEndOf '/' (web.slashed m n).url = Text.trimEndOf '/' web.url :=
  Text.trimEndOf_append_slashes web.url m

@[simp] theorem containsPath_slashed (path : String) :
    (web.slashed m n).containsPath path = web.containsPath path := by
  rw [containsPath, path_slashed, containsPath]

variable {web} in
/-- The host of a web does not see slashes behind the address. -/
theorem hostUrl_slashed (h : web.NamesHost) : (web.slashed m n).hostUrl = web.hostUrl := by
  rw [NamesHost, Text.trimEndOf, String.toList_ofList] at h
  obtain ⟨k, hk⟩ := Chars.exists_eq_trimEndWhere_append '/' web.url.toList
  have hhost (l : Nat) : hostOf (Chars.trimEndWhere (· == '/') web.url.toList ++
      List.replicate l '/') = hostOf (Chars.trimEndWhere (· == '/') web.url.toList) :=
    hostOf_append_slashes h (Chars.getLast?_trimEndWhere_ne _) l
  rw [hostUrl, hostUrl, slashed, String.toList_append, String.toList_ofList, hk, List.append_assoc,
    List.replicate_append_replicate, hhost, hhost]

end Web

/-! ### Redirected links -/

/-- Links out of a web with slashes are redirected alike, if the web is at the root of the server,
or has a host and is not at the address of the target. -/
theorem UrlMapping.apply_slashed {source target : Web} (m n : Nat)
    (h : source.path = "" ∨ source.NamesHost ∧
      Text.trimEndOf '/' source.url ≠ Text.trimEndOf '/' target.url) (text : String) :
    (redirect (source.slashed m n) target).apply text = (redirect source target).apply text := by
  rcases h with hroot | ⟨hhost, hother⟩
  · simp [apply, hroot]
  · have hslashed : (source.slashed m n).url ≠ target.url := fun heq =>
      hother (by rw [← source.trimEndOf_url_slashed m n, heq])
    have hsource : source.url ≠ target.url := fun heq => hother (by rw [heq])
    simp only [apply, Web.path_slashed, Web.hostUrl_slashed m n hhost, hslashed, hsource]

end PageMigration
