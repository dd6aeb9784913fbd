import PageMigration.Proofs.Catalog.LinkHosts

/-!
# Links to pages

A selector tells links to pages from links to other files, and the functions that look files up
refuse pages or pass them over.  The selector goes by the extension at the end of a link, the others
by that of its path.  They agree on every link that names a path, and then query and fragment of the
link play no role.  An address with a query right behind its host names no path.  For it, the first
slash in the query is taken for the end of the host.

## Main definitions

* `Link.namesPath` : whether a link names a path.
* `PageCalls` : calls of the three functions with one link.
* `PageCalls.SelectsPage`, `PageCalls.RefusesPage` : what two of them make of the link.

## Main results

* `Link.isAddress_iff` : what an address is made of.
* `Link.extensionOf?_lookupPath` : a link that names a path has the extension of that path.
* `PageCalls.agree_on_pages` : the three functions agree on the links that name paths.
* `PageCalls.disagree_on_query_of_host` : they do not agree on other links.
-/

namespace PageMigration

namespace Link

/-! ### Addresses -/

/-- An address begins with a scheme of the web, in any case, and the mark behind it. -/
theorem isAddress_iff {link : String} : isAddress link ↔
    ∃ scheme rest, link.toList = scheme ++ "://".toList ++ rest ∧
      (Chars.lower scheme = "http".toList ∨ Chars.lower scheme = "https".toList) := by
  have hbegins (name : List Char) :
      Chars.lower (name ++ "://".toList) <+: Chars.lower link.toList ↔
        ∃ scheme rest, link.toList = scheme ++ "://".toList ++ rest ∧
          Chars.lower scheme = Chars.lower name := by
    constructor
    · rintro ⟨rest, hrest⟩
      obtain ⟨start, rest, hlink, hstart, -⟩ := List.map_eq_append_iff.mp hrest.symm
      rw [Chars.lower_append] at hstart
      obtain ⟨scheme, mark, rfl, hscheme, hmark⟩ := List.map_eq_append_iff.mp hstart
      obtain rfl : mark = "://".toList := Chars.eq_of_lower hmark (by simp)
      exact ⟨scheme, rest, hlink, hscheme⟩
    · rintro ⟨scheme, rest, hlink, hscheme⟩
      exact ⟨Chars.lower rest, by simp only [hlink, Chars.lower_append, hscheme]⟩
  have hhttp : "http://".toList = "http".toList ++ "://".toList := by decide
  have hhttps : "https://".toList = "https".toList ++ "://".toList := by decide
  simp only [isAddress, Text.startsWithName, Bool.or_eq_true, List.isPrefixOf_iff_prefix, hhttp,
    hhttps, hbegins, ← exists_or, ← and_or_left]
  rfl

/-- The scheme of an address holds none of the marks that part an address. -/
theorem notMem_scheme {scheme : List Char} {c : Char}
    (h : Chars.lower scheme = "http".toList ∨ Chars.lower scheme = "https".toList)
    (hc : c.toLower ∉ "https".toList) : c ∉ scheme := by
  intro hm
  have hlower : c.toLower ∈ Chars.lower scheme := List.mem_map_of_mem hm
  rcases h with h | h
  · rw [h] at hlower
    exact hc (List.mem_append_left ['s'] hlower)
  · exact hc (h ▸ hlower)

/-- Whether a link names a path.  An address names one if there is a slash behind its host, before
its query and fragment.  Any other link is a path. -/
def namesPath (link : String) : Bool :=
  let link := withoutQuery (Text.trim link)
  !isAddress link || (Web.cutScheme? link.toList).any fun (_, rest) => rest.contains '/'

/-! ### Extensions of links -/

theorem toList_withoutQuery_of_address {link : String} {scheme rest : List Char}
    (hlink : link.toList = scheme ++ "://".toList ++ rest)
    (hscheme : Chars.lower scheme = "http".toList ∨ Chars.lower scheme = "https".toList) :
    (withoutQuery link).toList =
      scheme ++ "://".toList ++ rest.takeWhile fun c => c != '?' && c != '#' := by
  have hquery : '?' ∉ scheme := notMem_scheme hscheme (by decide)
  have hfragment : '#' ∉ scheme := notMem_scheme hscheme (by decide)
  rw [withoutQuery, String.toList_ofList, hlink]
  refine List.takeWhile_append_of_pos fun c hc => ?_
  rw [Bool.and_eq_true, bne_iff_ne, bne_iff_ne]
  rcases List.mem_append.mp hc with hc | hc
  · exact ⟨fun heq => hquery (heq ▸ hc), fun heq => hfragment (heq ▸ hc)⟩
  · have hmark : "://".toList.all (fun c => c != '?' && c != '#') := by decide
    simpa using List.all_eq_true.mp hmark c hc

theorem isAddress_withoutQuery (link : String) :
    isAddress (withoutQuery link) = isAddress link := by
  rw [Bool.eq_iff_iff]
  refine ⟨isAddress_of_isPrefix (withoutQuery_isPrefix link), fun h => ?_⟩
  obtain ⟨scheme, rest, hlink, hscheme⟩ := isAddress_iff.mp h
  exact isAddress_iff.mpr ⟨scheme, _, toList_withoutQuery_of_address hlink hscheme, hscheme⟩

/-- The path of an address is what its end behind the host begins with. -/
theorem exists_lookupPath_eq {link : String} (haddress : isAddress (Text.trim link))
    (h : namesPath link) : ∃ host path,
      (withoutQuery (Text.trim link)).toList = host ++ '/' :: path ∧
        (lookupPath link).toList = '/' :: path := by
  obtain ⟨scheme, rest, hlink, hscheme⟩ := isAddress_iff.mp haddress
  have hwithout := toList_withoutQuery_of_address hlink hscheme
  have hmark : "://".toList = ':' :: "//".toList := by decide
  have hcut (rest : List Char) :
      Web.cutScheme? (scheme ++ "://".toList ++ rest) = some (scheme, rest) := by
    rw [Web.cutScheme?, hmark]
    exact Chars.cutAt?_append rest (notMem_scheme hscheme (by decide))
  have hslash : '/' ∈ rest.takeWhile fun c => c != '?' && c != '#' := by
    simpa only [namesPath, isAddress_withoutQuery, haddress, Bool.not_true, Bool.false_or, hwithout,
      hcut, Option.any_some, List.contains_iff_mem] using h
  obtain ⟨host, path, hrest, hhost⟩ := List.eq_append_cons_of_mem hslash
  refine ⟨scheme ++ "://".toList ++ host, path, ?_, ?_⟩
  · rw [hwithout, hrest, List.append_assoc (scheme ++ _)]
  obtain ⟨tail, hsides⟩ : ∃ tail, rest = host ++ '/' :: tail := by
    refine ⟨path ++ rest.dropWhile fun c => c != '?' && c != '#', ?_⟩
    rw [← List.cons_append, ← List.append_assoc, ← hrest, List.takeWhile_append_dropWhile]
  have hpath : ('/' :: tail).takeWhile (fun c => c != '?' && c != '#') = '/' :: path := by
    have hmem (c : Char) (hc : c ∈ host) : (c != '?' && c != '#') = true :=
      List.mem_takeWhile_imp (p := fun c => c != '?' && c != '#') (l := rest)
        (hrest ▸ List.mem_append_left _ hc)
    rwa [hsides, List.takeWhile_append_of_pos hmem, List.append_cancel_left_eq] at hrest
  have hserver : serverPath link = String.ofList ('/' :: tail) := by
    have hmem (c : Char) (hc : c ∈ host) : (c != '/') = true :=
      bne_iff_ne.mpr fun heq => hhost (heq ▸ hc)
    have hdrop : rest.dropWhile (· != '/') = '/' :: tail := by
      rw [hsides, List.dropWhile_append_of_pos hmem]
      rfl
    simp only [serverPath, haddress, if_true, hlink, hcut, hdrop]
    rfl
  rw [lookupPath, hserver, withoutQuery, String.toList_ofList, String.toList_ofList, hpath]

/-- A link that names a path has the extension of that path. -/
theorem extensionOf?_lookupPath {link : String} (h : namesPath link) :
    extensionOf? (lookupPath link) = extensionOf? (Text.trim link) := by
  by_cases haddress : isAddress (Text.trim link)
  · obtain ⟨host, path, hlink, hpath⟩ := exists_lookupPath_eq haddress h
    have hserver : (withoutQuery (lookupPath link)).toList = '/' :: path := by
      rw [lookupPath, withoutQuery_withoutQuery, ← lookupPath, hpath]
    exact (extensionOf?_eq_of_append hlink hserver).symm
  · rw [lookupPath, extensionOf?_withoutQuery,
      serverPath_of_not_address (Bool.eq_false_iff.mpr haddress)]

end Link

/-! ### What the functions make of a link -/

theorem Library.find?_contentEmbedSelectorContentLink :
    ∃ e, Library.general.find? "ContentEmbedSelectorContentLink" = some e ∧ e.arity = 1 ∧
      e.body = .ofArguments fun args => .text (Catalog.contentVariant (Text.trim (args.text 0))) :=
  ⟨_, rfl, rfl, rfl⟩

theorem Catalog.contentVariant_eq_iff {link : String} :
    contentVariant link = "ASPXLink" ↔ extensionOf? link = some "aspx" := by
  rw [contentVariant]
  split
  · next hempty =>
      rw [String.isEmpty_iff.mp hempty]
      decide
  split <;> simp [*]

/-- Calls, with one link, of the functions that tell pages from other files. -/
structure PageCalls (link : String) where
  selector : FunctionCall
  lookup : FunctionCall
  content : FunctionCall
  selector_isOn : selector.IsOn "ContentEmbedSelectorContentLink" link
  lookup_isOn : lookup.IsOn "DocumentEmbedLookup" link
  content_isOn : content.IsOn "LoadContentFromFile" link

namespace PageCalls

/-- Calls that give the link as a string. -/
def ofLink (link : String) : PageCalls link where
  selector := ⟨"", "ContentEmbedSelectorContentLink", selectorOutput, [{ name := "", value := link }]⟩
  lookup := ⟨"", "DocumentEmbedLookup", selectorOutput, [{ name := "", value := link }]⟩
  content := ⟨"", "LoadContentFromFile", selectorOutput, [{ name := "", value := link }]⟩
  selector_isOn := ⟨rfl, rfl, rfl, rfl⟩
  lookup_isOn := ⟨rfl, rfl, rfl, rfl⟩
  content_isOn := ⟨rfl, rfl, rfl, rfl⟩

section

variable {link : String} (calls : PageCalls link) (ctx : Context) (s : RunState)

/-- The selector picks the variant for links to pages. -/
def SelectsPage : Prop :=
  (Library.general.invoke ctx calls.selector s).1 = .ok (.text "ASPXLink")

/-- The look-up of the document refuses the link as one to a page. -/
def RefusesPage : Prop :=
  (Library.general.invoke ctx calls.lookup s).1 = .error (.policy (.pageNotAvailable link))

theorem selectsPage_iff :
    calls.SelectsPage ctx s ↔ extensionOf? (Text.trim link) = some "aspx" := by
  have hinvoke : Library.general.invoke ctx calls.selector s =
      (.ok (.text (Catalog.contentVariant
        (Text.trim ((Library.arguments calls.selector).text 0)))), s) :=
    calls.selector_isOn.invoke_eq Library.find?_contentEmbedSelectorContentLink rfl
  rw [SelectsPage, hinvoke, calls.selector_isOn.text, ← Catalog.contentVariant_eq_iff]
  simp

theorem refusesPage_iff : calls.RefusesPage ctx s ↔ Link.isPage link := by
  rcases hbody : Catalog.documentProperties ctx link s with ⟨result, t⟩
  have hinvoke : Library.general.invoke ctx calls.lookup s = (result.mapError .policy, t) := by
    rw [← calls.lookup_isOn.text] at hbody
    exact calls.lookup_isOn.invoke_of_body Library.find?_documentEmbedLookup hbody
  rw [RefusesPage, hinvoke]
  constructor
  · intro hrefused
    obtain rfl : result = .error (.pageNotAvailable link) := by
      cases result with
      | ok output => cases hrefused
      | error violation =>
          cases hrefused
          rfl
    rw [Link.isPage, (Catalog.documentProperties_eq_error hbody).2.1]
    rfl
  · intro hpage
    rw [Catalog.documentProperties, if_pos hpage] at hbody
    cases hbody
    rfl

/-- The text of a page is not loaded, and nothing is asked for it. -/
theorem content_of_isPage (h : Link.isPage link) :
    Library.general.invoke ctx calls.content s = (.ok (.text ""), s) := by
  have htext : Catalog.linkedText ctx link s = ("", s) := by
    rw [Catalog.linkedText, if_pos (by simp [h])]
    rfl
  rw [← calls.content_isOn.text] at htext
  exact calls.content_isOn.invoke_eq Library.find?_loadContentFromFile
    (Run.bind_of_eq (Run.bind_of_eq htext))

theorem selectsPage_iff_refusesPage (h : Link.namesPath link) :
    calls.SelectsPage ctx s ↔ calls.RefusesPage ctx s := by
  rw [selectsPage_iff, refusesPage_iff, Link.isPage, beq_iff_eq, Link.extensionOf?_lookupPath h]

/-- **Links to pages.** Where a page is refused, its text is not loaded either.  On a link that
names a path, the selector and the look-up agree.  Query and fragment of a link play no role for
the selector, nor for the look-up if the link names a path. -/
theorem agree_on_pages :
    (calls.RefusesPage ctx s →
      Library.general.invoke ctx calls.content s = (.ok (.text ""), s)) ∧
    (Link.namesPath link → (calls.SelectsPage ctx s ↔ calls.RefusesPage ctx s)) ∧
    ∀ {other : String} (others : PageCalls other) (ctx' : Context) (s' : RunState),
      withoutQuery (Text.trim other) = withoutQuery (Text.trim link) →
        (others.SelectsPage ctx' s' ↔ calls.SelectsPage ctx s) ∧
        (Link.namesPath link → (others.RefusesPage ctx' s' ↔ calls.RefusesPage ctx s)) := by
  refine ⟨fun hrefused => ?_, calls.selectsPage_iff_refusesPage ctx s, ?_⟩
  · exact calls.content_of_isPage ctx s ((calls.refusesPage_iff ctx s).mp hrefused)
  intro other others ctx' s' hsame
  have hselects : others.SelectsPage ctx' s' ↔ calls.SelectsPage ctx s := by
    rw [selectsPage_iff, selectsPage_iff, ← extensionOf?_withoutQuery, hsame,
      extensionOf?_withoutQuery]
  refine ⟨hselects, fun hpath => ?_⟩
  have hpath' : Link.namesPath other := by
    rwa [Link.namesPath, hsame, ← Link.namesPath]
  rw [← selectsPage_iff_refusesPage _ _ _ hpath', hselects,
    ← selectsPage_iff_refusesPage _ _ _ hpath]

/-- A link with a query, and the same link with a fragment. -/
theorem agree_on_pages_of_start_page :
    let calls := PageCalls.ofLink "https://contoso.com/a/Start.ASPX?from=/b"
    let others := PageCalls.ofLink " https://contoso.com/a/Start.ASPX#top"
    let ctx : Context := { source := (Snapshot.ofUrl "https://contoso.com/a").source }
    let s := ctx.start {}
    Link.namesPath "https://contoso.com/a/Start.ASPX?from=/b" ∧
      calls.RefusesPage ctx s ∧ calls.SelectsPage ctx s ∧
      Library.general.invoke ctx calls.content s = (.ok (.text ""), s) ∧
      others.SelectsPage ctx s ∧ others.RefusesPage ctx s := by
  intro calls others ctx s
  obtain ⟨hcontent, hagree, hquery⟩ := calls.agree_on_pages ctx s
  have hpath : Link.namesPath "https://contoso.com/a/Start.ASPX?from=/b" := by decide +kernel
  have hrefused : calls.RefusesPage ctx s := by
    rw [refusesPage_iff]
    decide +kernel
  have hselected : calls.SelectsPage ctx s := (hagree hpath).mpr hrefused
  have hsame : withoutQuery (Text.trim " https://contoso.com/a/Start.ASPX#top") =
      withoutQuery (Text.trim "https://contoso.com/a/Start.ASPX?from=/b") := by decide +kernel
  obtain ⟨hselects, hrefuses⟩ := hquery others ctx s hsame
  exact ⟨hpath, hrefused, hselected, hcontent hrefused, hselects.mpr hselected,
    (hrefuses hpath).mpr hrefused⟩

/-- A page is found in the query of an address with nothing between host and query, and without
the query there is none.  The selector finds none in either, but takes the end of a host for an
extension. -/
theorem disagree_on_query_of_host :
    let withQuery := PageCalls.ofLink "https://contoso.sharepoint.com?from=/sites/b/start.aspx"
    let withoutQuery := PageCalls.ofLink "https://contoso.sharepoint.com"
    let host := PageCalls.ofLink "https://contoso.aspx"
    let ctx : Context := { source := (Snapshot.ofUrl "https://contoso.com/a").source }
    let s := ctx.start {}
    (withQuery.RefusesPage ctx s ∧ ¬ withQuery.SelectsPage ctx s) ∧
      (¬ withoutQuery.RefusesPage ctx s ∧ ¬ withoutQuery.SelectsPage ctx s) ∧
      (¬ host.RefusesPage ctx s ∧ host.SelectsPage ctx s) := by
  simp only [refusesPage_iff, selectsPage_iff]
  decide +kernel

end

end PageCalls

end PageMigration
