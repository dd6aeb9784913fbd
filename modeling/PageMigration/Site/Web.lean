import PageMigration.Text

/-!
# Webs

A web is a site with its own address.  Its files are addressed by paths on the server; a path lies
in the web if it is the path of the web or continues it with a slash.

## Main definitions

* `Web` : a web, by its address and its path on the server.
* `Web.ofUrl` : the web at an address.
* `Web.hostUrl` : scheme and host of the address.
* `Web.containsPath` : whether a path lies in the web.

## Main results

* `Web.containsPath_iff` : which paths lie in a web.
-/

namespace PageMigration

/-- A web, by its address and its path on the server. -/
structure Web where
  url : String
  serverRelativeUrl : String
  deriving DecidableEq, Repr

namespace Web

/-- The two sides of the mark between a scheme and a host. -/
def cutScheme? (url : List Char) : Option (List Char × List Char) :=
  Chars.cutAt? "://".toList url

/-- The path in an address: what begins with the first slash after the host, without slashes at
the end. -/
def pathOf (url : List Char) : List Char :=
  let afterScheme := match cutScheme? url with
    | some (_, rest) => rest
    | none => url
  Chars.trimEndWhere (· == '/') (afterScheme.dropWhile (· != '/'))

/-- The web at an address, slashes at the end of which are left off. -/
def ofUrl (url : String) : Web :=
  let url := Chars.trimEndWhere (· == '/') url.toList
  ⟨String.ofList url, String.ofList (pathOf url)⟩

/-- Scheme and host of an address. -/
def hostOf (url : List Char) : List Char :=
  match cutScheme? url with
  | some (scheme, rest) =>
      if rest.contains '/' then scheme ++ "://".toList ++ rest.takeWhile (· != '/')
      else Chars.trimEndWhere (· == '/') url
  | none =>
      if url.contains '/' then url.takeWhile (· != '/')
      else url

/-- Scheme and host of the address of a web. -/
def hostUrl (web : Web) : String :=
  String.ofList (hostOf web.url.toList)

/-- The path of a web without slashes at its end. -/
def path (web : Web) : String :=
  Text.trimEndOf '/' web.serverRelativeUrl

/-- Whether a path on the server lies in a web, the case of ASCII letters left aside.  Every path
lies in a web at the root of the server. -/
def containsPath (web : Web) (serverRelativePath : String) : Bool :=
  let web := Chars.lower web.path.toList
  let path := Chars.lower serverRelativePath.toList
  web.isEmpty || path == web || (web ++ ['/']).isPrefixOf path

/-- A path lies in a web if it is the path of the web or continues it with a slash, in any case of
ASCII letters, or if the web is at the root. -/
theorem containsPath_iff {web : Web} {path : String} :
    web.containsPath path ↔ web.path = "" ∨ Text.sameName path web.path ∨
      ∃ start rest, path.toList = start ++ '/' :: rest ∧ Chars.sameName start web.path.toList := by
  have hroot : Chars.lower web.path.toList = [] ↔ web.path = "" := by
    rw [Chars.lower, List.map_eq_nil_iff, String.toList_eq_nil_iff]
  have hbelow (w p : List Char) : Chars.lower w ++ ['/'] <+: Chars.lower p ↔
      ∃ start rest, p = start ++ '/' :: rest ∧ Chars.sameName start w := by
    constructor
    · rintro ⟨rest, hrest⟩
      rw [List.append_assoc, eq_comm, Chars.lower, List.map_eq_append_iff] at hrest
      obtain ⟨start, tail, rfl, hstart, htail⟩ := hrest
      obtain ⟨c, rest, rfl, hc, -⟩ := List.map_eq_cons_iff.mp htail
      rw [Chars.eq_slash_of_toLower hc]
      exact ⟨start, rest, rfl, Chars.sameName_iff.mpr hstart⟩
    · rintro ⟨start, rest, rfl, hstart⟩
      rw [← Chars.sameName_iff.mp hstart]
      exact ⟨Chars.lower rest, by simp [Chars.lower]⟩
  simp only [containsPath, Bool.or_eq_true, List.isEmpty_iff, beq_iff_eq,
    List.isPrefixOf_iff_prefix, hroot, hbelow, Text.sameName, Chars.sameName_iff, or_assoc]

end Web

end PageMigration
