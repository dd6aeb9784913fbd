import PageMigration.Chars.Fold
import PageMigration.Site.Web

/-!
# Redirected links

When pages move from one web to another, links into the source web are redirected to the target
web.  A link stands at the start of the text or after an opening mark, names the host of the
source or not, continues with the path of the source, and ends there, at a closing mark or at the
end of the text.  Letters are compared by simple case folding.  A web at the root of a server is
left alone, since every path would lead into it.

## Main definitions

* `UrlMapping` : how links in texts are changed.
* `SiteLink.find?` : the link at the start of a text.
* `UrlMapping.apply` : a text with its links redirected.
-/

namespace PageMigration

/-- How links in texts are changed. -/
inductive UrlMapping where
  | identity
  /-- Links into one web are redirected to another. -/
  | redirect (source target : Web)
  deriving DecidableEq, Repr

namespace SiteLink

/-- A character after which a link may start. -/
def opens (c : Char) : Bool :=
  Chars.isBlank c || c == '"' || c == '\'' || c == '(' || c == '=' || c == '>'

/-- A character at which a link may end. -/
def closes (c : Char) : Bool :=
  Chars.isBlank c || c == '/' || c == '"' || c == '\'' || c == '?' || c == '#' || c == '<' ||
    c == ')'

/-- What follows a given text, compared by simple case folding. -/
def stripFolded? : List Char → List Char → Option (List Char)
  | [], s => some s
  | _ :: _, [] => none
  | a :: pattern, c :: s => if Chars.sameLetter a c then stripFolded? pattern s else none

/-- The path of a site at the start of a text, with the closing mark if there is one, and what
follows. -/
def pathThenEnd? (path s : List Char) : Option (List Char × List Char) :=
  match stripFolded? path s with
  | some [] => some ([], [])
  | some (c :: rest) => if closes c then some ([c], rest) else none
  | none => none

/-- The link at the start of a text: whether it names the host, its closing mark, and what
follows. -/
def find? (host path s : List Char) : Option (Bool × List Char × List Char) :=
  (((stripFolded? host s).bind (pathThenEnd? path)).map fun r => (true, r)).or
    ((pathThenEnd? path s).map fun r => (false, r))

theorem length_stripFolded?_le {pattern s r : List Char} (h : stripFolded? pattern s = some r) :
    r.length + pattern.length = s.length := by
  fun_induction stripFolded? pattern s with
  | case1 s => simp_all
  | case2 => simp at h
  | case3 a p c s _ ih =>
      have := ih h
      simp only [List.length_cons]
      omega
  | case4 => simp at h

theorem length_pathThenEnd?_le {path s a r : List Char}
    (h : pathThenEnd? path s = some (a, r)) : r.length + path.length ≤ s.length := by
  simp only [pathThenEnd?] at h
  split at h
  · rename_i hs
    have := length_stripFolded?_le hs
    simp_all
  · rename_i c rest hs
    have := length_stripFolded?_le hs
    split at h
    · simp_all
      omega
    · simp at h
  · simp at h

/-- What follows a link is shorter than the text by the path of the site at least. -/
theorem length_find?_le {host path s a r : List Char} {b : Bool}
    (h : find? host path s = some (b, a, r)) : r.length + path.length ≤ s.length := by
  simp only [find?, Option.or_eq_some_iff, Option.map_eq_some_iff, Prod.mk.injEq] at h
  rcases h with ⟨x, hx, _, rfl⟩ | ⟨_, x, hx, _, rfl⟩
  · obtain ⟨t, ht, hp⟩ := Option.bind_eq_some_iff.1 hx
    have := length_pathThenEnd?_le hp
    have := length_stripFolded?_le ht
    omega
  · exact length_pathThenEnd?_le hx

/-- A text after its start, with the links in it redirected: the path and the address of the
target replace the path alone and the path with its host. -/
def redirectFrom (host path targetPath targetUrl : List Char) (s : List Char) : List Char :=
  match s with
  | [] => []
  | c :: s =>
      if opens c then
        match _h : find? host path s with
        | some (withHost, tail, rest) =>
            c :: ((if withHost then targetUrl else targetPath) ++
              (tail ++ redirectFrom host path targetPath targetUrl rest))
        | none => c :: redirectFrom host path targetPath targetUrl s
      else c :: redirectFrom host path targetPath targetUrl s
termination_by s.length
decreasing_by
  all_goals simp_wf
  have := length_find?_le _h
  omega

end SiteLink

open SiteLink in
/-- A text with its links redirected. -/
def UrlMapping.apply (mapping : UrlMapping) (text : String) : String :=
  match mapping with
  | .identity => text
  | .redirect source target =>
      let path := source.path.toList
      if path.isEmpty ∨ source.url = target.url then text
      else
        let host := source.hostUrl.toList
        let targetPath := target.serverRelativeUrl.toList
        let targetUrl := target.url.toList
        String.ofList <|
          match find? host path text.toList with
          | some (withHost, tail, rest) =>
              (if withHost then targetUrl else targetPath) ++
                (tail ++ redirectFrom host path targetPath targetUrl rest)
          | none => redirectFrom host path targetPath targetUrl text.toList

end PageMigration
