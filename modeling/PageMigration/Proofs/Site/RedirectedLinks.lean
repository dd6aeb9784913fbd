import Mathlib.Data.List.Forall2
import PageMigration.Site.UrlMapping

/-!
# Pieces of redirected texts

A text consists of characters and of links into the source web.  Once redirected it has the same
characters, and in the place of each link the address or the path of the target web.  The mark at
which a link ends is passed over with the link.  It opens no other link, so of two links with one
mark between them the second is left as it is.

## Main definitions

* `SiteLink.Occurs` : a link at a place in a text.
* `SiteLink.Piece`, `SiteLink.Piece.At` : pieces of a text, and what stands before and after them.
* `SiteLink.Place`, `SiteLink.Scan` : how a text is read from a place on.
* `SiteLink.Division` : what it is to redirect every link that no earlier link is in the way of.

## Main results

* `SiteLink.find?_eq_some`, `SiteLink.find?_eq_none` : the link at the start of a text.
* `SiteLink.Scan.redirectFrom` : a text is redirected as it is read.
* `SiteLink.Scan.division` : what is read is a division.
* `UrlMapping.apply_redirect` : a redirected text piece by piece.
* `UrlMapping.apply_redirect_of_shared_mark` : the second of two links is left as it is.
-/

namespace PageMigration

namespace SiteLink

/-! ### Links at the start of a text -/

/-- Spellings of a text that differ from it in the case of letters. -/
def Spells (pattern spelling : List Char) : Prop :=
  List.Forall₂ (fun a c => Chars.sameLetter a c) pattern spelling

/-- The path of a web, after its host or alone. -/
def address (web : Web) (withHost : Bool) : List Char :=
  (if withHost then web.hostUrl.toList else []) ++ web.path.toList

/-- A link into a web, and what follows it. -/
structure Leads (web : Web) (withHost : Bool) (spelling after : List Char) : Prop where
  spelled : Spells (address web withHost) spelling
  closed : ∀ c ∈ after.head?, closes c

/-- No link into a web stands at the start of a text. -/
def NoLink (web : Web) (s : List Char) : Prop :=
  ∀ withHost spelling after, s = spelling ++ after → ¬ Leads web withHost spelling after

theorem stripFolded?_eq_some_iff {pattern s rest : List Char} :
    stripFolded? pattern s = some rest ↔
      ∃ spelling, s = spelling ++ rest ∧ Spells pattern spelling := by
  fun_induction stripFolded? pattern s with
  | case1 s => simp [Spells]
  | case2 a pattern =>
      simp only [reduceCtorEq, false_iff, not_exists, not_and]
      intro spelling hs hspells
      obtain ⟨rfl, -⟩ := List.append_eq_nil_iff.mp hs.symm
      cases hspells
  | case3 a pattern c s hsame ih =>
      rw [ih]
      constructor
      · rintro ⟨spelling, rfl, hspells⟩
        exact ⟨c :: spelling, rfl, .cons hsame hspells⟩
      · rintro ⟨_, hs, hspells⟩
        obtain _ | @⟨_, c', _, spelling, -, htail⟩ := hspells
        obtain ⟨rfl, rfl⟩ := List.cons.inj hs
        exact ⟨spelling, rfl, htail⟩
  | case4 a pattern c s hsame =>
      simp only [reduceCtorEq, false_iff, not_exists, not_and]
      intro spelling hs hspells
      obtain _ | @⟨_, c', _, spelling, hhead, -⟩ := hspells
      obtain ⟨rfl, -⟩ := List.cons.inj hs
      exact hsame hhead

theorem pathThenEnd?_eq_some_iff {path s : List Char} {r : List Char × List Char} :
    pathThenEnd? path s = some r ↔ ∃ spelling after, s = spelling ++ after ∧
      Spells path spelling ∧ (∀ c ∈ after.head?, closes c) ∧
        r = (after.take 1, after.drop 1) := by
  constructor
  · intro h
    rw [pathThenEnd?] at h
    split at h
    case h_1 hstrip =>
      obtain ⟨spelling, hs, hspells⟩ := stripFolded?_eq_some_iff.mp hstrip
      cases h
      exact ⟨spelling, [], hs, hspells, by simp, rfl⟩
    case h_2 c rest hstrip =>
      obtain ⟨spelling, hs, hspells⟩ := stripFolded?_eq_some_iff.mp hstrip
      split at h
      · rename_i hcloses
        cases h
        exact ⟨spelling, c :: rest, hs, hspells, by simpa using hcloses, rfl⟩
      · cases h
    case h_3 => cases h
  · rintro ⟨spelling, after, rfl, hspells, hclosed, rfl⟩
    have hstrip : stripFolded? path (spelling ++ after) = some after :=
      stripFolded?_eq_some_iff.mpr ⟨spelling, rfl, hspells⟩
    rw [pathThenEnd?, hstrip]
    cases after with
    | nil => rfl
    | cons c rest => exact if_pos (hclosed c rfl)

theorem stripFolded?_append (host path s : List Char) :
    stripFolded? (host ++ path) s = (stripFolded? host s).bind (stripFolded? path) := by
  fun_induction stripFolded? host s with
  | case1 s => rfl
  | case2 => rfl
  | case3 a host c s hsame ih => simpa [stripFolded?, hsame] using ih
  | case4 a host c s hsame => simp [stripFolded?, hsame]

theorem bind_pathThenEnd? (host path s : List Char) :
    (stripFolded? host s).bind (pathThenEnd? path) = pathThenEnd? (host ++ path) s := by
  rw [pathThenEnd?, stripFolded?_append]
  cases stripFolded? host s with
  | none => rfl
  | some rest => rfl

section

variable {web : Web} {s : List Char}

/-- The links at the start of a text. -/
theorem pathThenEnd?_address {withHost : Bool} {r : List Char × List Char} :
    pathThenEnd? (address web withHost) s = some r ↔ ∃ spelling after, s = spelling ++ after ∧
      Leads web withHost spelling after ∧ r = (after.take 1, after.drop 1) := by
  rw [pathThenEnd?_eq_some_iff]
  constructor
  · rintro ⟨spelling, after, hs, hspells, hclosed, hr⟩
    exact ⟨spelling, after, hs, ⟨hspells, hclosed⟩, hr⟩
  · rintro ⟨spelling, after, hs, ⟨hspells, hclosed⟩, hr⟩
    exact ⟨spelling, after, hs, hspells, hclosed, hr⟩

theorem find?_eq_or : find? web.hostUrl.toList web.path.toList s =
    ((pathThenEnd? (address web true) s).map fun r => (true, r)).or
      ((pathThenEnd? (address web false) s).map fun r => (false, r)) := by
  rw [find?, bind_pathThenEnd?]
  rfl

/-- The link that is found at the start of a text is one with its host, if there is such a link. -/
theorem find?_eq_some {withHost : Bool} {tail rest : List Char}
    (h : find? web.hostUrl.toList web.path.toList s = some (withHost, tail, rest)) :
    ∃ spelling after, s = spelling ++ after ∧ Leads web withHost spelling after ∧
      tail = after.take 1 ∧ rest = after.drop 1 ∧
        ∀ spelling' after', s = spelling' ++ after' → Leads web true spelling' after' →
          withHost := by
  rw [find?_eq_or, Option.or_eq_some_iff] at h
  simp only [Option.map_eq_some_iff, Option.map_eq_none_iff] at h
  rcases h with ⟨r, hr, heq⟩ | ⟨hnone, r, hr, heq⟩
  · cases heq
    obtain ⟨spelling, after, hs, hlink, heq⟩ := pathThenEnd?_address.mp hr
    cases heq
    exact ⟨spelling, after, hs, hlink, rfl, rfl, fun _ _ _ _ => rfl⟩
  · cases heq
    obtain ⟨spelling, after, hs, hlink, heq⟩ := pathThenEnd?_address.mp hr
    cases heq
    refine ⟨spelling, after, hs, hlink, rfl, rfl, fun spelling' after' hs' hlink' => ?_⟩
    rw [pathThenEnd?_address.mpr ⟨spelling', after', hs', hlink', rfl⟩] at hnone
    cases hnone

theorem find?_eq_none (h : find? web.hostUrl.toList web.path.toList s = none) : NoLink web s := by
  rintro withHost spelling after hs hlink
  rw [find?_eq_or, Option.or_eq_none_iff] at h
  simp only [Option.map_eq_none_iff] at h
  have hsome := pathThenEnd?_address.mpr ⟨spelling, after, hs, hlink, rfl⟩
  cases withHost with
  | true => rw [h.1] at hsome; cases hsome
  | false => rw [h.2] at hsome; cases hsome

end

/-! ### Pieces of a text -/

/-- A piece of a text: a character, or a link in its spelling. -/
inductive Piece where
  | char (c : Char)
  | link (withHost : Bool) (spelling : List Char)
  deriving DecidableEq, Repr

namespace Piece

/-- What a piece is in the text. -/
def text : Piece → List Char
  | char c => [c]
  | link _ spelling => spelling

/-- What a piece is in the redirected text. -/
def redirected (target : Web) : Piece → List Char
  | char c => [c]
  | link true _ => target.url.toList
  | link false _ => target.serverRelativeUrl.toList

/-- A piece among others, between the texts of the pieces before and after it. -/
inductive At : List Piece → List Char → Piece → List Char → Prop
  | head (p : Piece) (pieces : List Piece) : At (p :: pieces) [] p (pieces.flatMap text)
  | tail {pieces : List Piece} {before after : List Char} {q : Piece} (p : Piece)
      (h : At pieces before q after) : At (p :: pieces) (p.text ++ before) q after

end Piece

/-- A link into a web at a place in a text: at the start of the text or after an opening mark, and
at the end of the text or before a closing mark. -/
structure Occurs (web : Web) (withHost : Bool) (before spelling after : List Char) : Prop
    extends Leads web withHost spelling after where
  opened : ∀ c ∈ before.getLast?, opens c

/-- The link at a place is redirected, or a link that is redirected is in its way: it covers that
place, or it ends at the mark in front of that place. -/
inductive Settled (pieces : List Piece) (before : List Char) (withHost : Bool) : Prop
  | redirected {withHost' : Bool} {spelling after : List Char}
      (hat : Piece.At pieces before (.link withHost' spelling) after)
      (hhost : withHost → withHost')
  | blocked {before' spelling after : List Char} {withHost' : Bool}
      (hat : Piece.At pieces before' (.link withHost' spelling) after)
      (hstart : before'.length < before.length)
      (hfinish : before.length ≤ before'.length + spelling.length + 1)

theorem Settled.cons {pieces : List Piece} {before : List Char} {withHost : Bool} (p : Piece)
    (h : Settled pieces before withHost) : Settled (p :: pieces) (p.text ++ before) withHost := by
  cases h with
  | redirected hat hhost => exact .redirected (hat.tail p) hhost
  | blocked hat hstart hfinish =>
      refine .blocked (hat.tail p) ?_ ?_
      · simpa using hstart
      · rw [List.length_append, List.length_append]
        omega

/-- What it is to redirect the links in a text from left to right: every link among the pieces is
one, no two of them overlap or share a mark, and every other link has one of them in its way. -/
structure Division (web : Web) (s : List Char) (pieces : List Piece) : Prop where
  text_eq : pieces.flatMap Piece.text = s
  exact {before spelling after : List Char} {withHost : Bool}
    (h : Piece.At pieces before (.link withHost spelling) after) :
    Occurs web withHost before spelling after
  apart {before before' spelling spelling' after after' : List Char} {withHost withHost' : Bool}
    (h : Piece.At pieces before (.link withHost spelling) after)
    (h' : Piece.At pieces before' (.link withHost' spelling') after')
    (hlt : before.length < before'.length) : before.length + spelling.length + 2 ≤ before'.length
  complete {before spelling after : List Char} {withHost : Bool}
    (hs : s = before ++ (spelling ++ after)) (h : Occurs web withHost before spelling after) :
    Settled pieces before withHost

/-! ### Reading a text -/

/-- What may come next where a text is read. -/
inductive Place where
  /-- A link may start. -/
  | atOpening
  /-- No link may start. -/
  | inside
  /-- A link has ended, and its closing mark comes next. -/
  | atClosing
  deriving DecidableEq, Repr

namespace Place

/-- The place after a character.  A closing mark does not open a link. -/
def next : Place → Char → Place
  | atClosing, _ => inside
  | atOpening, c | inside, c => if opens c then atOpening else inside

/-- How many characters come before the next link at least. -/
def gap : Place → Nat
  | atOpening => 0
  | inside => 1
  | atClosing => 2

theorem eq_atOpening_of_gap {place : Place} (h : place.gap ≤ 0) : place = .atOpening := by
  cases place with
  | atOpening => rfl
  | inside => cases h
  | atClosing => cases h

theorem opens_of_next {place : Place} {c : Char} (h : place.next c = .atOpening) : opens c := by
  cases place with
  | atClosing => cases h
  | atOpening | inside =>
      by_contra hc
      simp [next, hc] at h

theorem gap_le_next (place : Place) (c : Char) : place.gap ≤ (place.next c).gap + 1 := by
  cases place <;> simp [next, gap]

theorem gap_next_le {place : Place} {c : Char} {n : Nat} (h : place.gap ≤ n + 1)
    (hopens : n = 0 → opens c) : (place.next c).gap ≤ n := by
  cases place with
  | atClosing => exact Nat.le_of_succ_le_succ h
  | atOpening | inside =>
      rw [next]
      split_ifs with hc
      · exact Nat.zero_le n
      · exact Nat.one_le_iff_ne_zero.mpr fun hn => hc (hopens hn)

end Place

/-- The pieces of a text that is read from a place on. -/
inductive Scan (web : Web) : Place → List Char → List Piece → Prop
  | nil {place : Place} (hnone : place = .atOpening → NoLink web []) : Scan web place [] []
  | char {place : Place} {c : Char} {s : List Char} {pieces : List Piece}
      (hnone : place = .atOpening → NoLink web (c :: s)) (h : Scan web (place.next c) s pieces) :
      Scan web place (c :: s) (.char c :: pieces)
  | link {withHost : Bool} {spelling after : List Char} {pieces : List Piece}
      (hlink : Leads web withHost spelling after)
      (hhost : ∀ spelling' after', spelling ++ after = spelling' ++ after' →
        Leads web true spelling' after' → withHost)
      (h : Scan web .atClosing after pieces) :
      Scan web .atOpening (spelling ++ after) (.link withHost spelling :: pieces)

namespace Scan

variable {web : Web} {place : Place} {s : List Char} {pieces : List Piece}

theorem text_eq (h : Scan web place s pieces) : pieces.flatMap Piece.text = s := by
  induction h with
  | nil => rfl
  | char _ _ ih => rw [List.flatMap_cons, ih]; rfl
  | link _ _ _ ih => rw [List.flatMap_cons, ih]; rfl

/-- A place from which a text is read is as far from the next link as it says. -/
theorem gap_le (h : Scan web place s pieces) {before spelling after : List Char} {withHost : Bool}
    (hat : Piece.At pieces before (.link withHost spelling) after) :
    place.gap ≤ before.length := by
  induction h generalizing before with
  | nil => cases hat
  | @char place c s pieces _ _ ih =>
      obtain _ | ⟨_, hat⟩ := hat
      have hnext := ih hat
      have hstep := place.gap_le_next c
      simp only [Piece.text, List.length_append, List.length_singleton]
      omega
  | link => exact Nat.zero_le _

/-- A link that is read stands at a place where a link may start, so what is before it ends with an
opening mark. -/
theorem exact (h : Scan web place s pieces) {before spelling after : List Char}
    {withHost : Bool} (hat : Piece.At pieces before (.link withHost spelling) after)
    (start : List Char) (hstart : place = .atOpening → ∀ c ∈ start.getLast?, opens c) :
    Occurs web withHost (start ++ before) spelling after := by
  induction h generalizing start before with
  | nil => cases hat
  | @char place c s pieces _ _ ih =>
      obtain _ | ⟨_, hat⟩ := hat
      rw [Piece.text, ← List.append_assoc]
      refine ih hat _ fun hopening => ?_
      simpa using Place.opens_of_next hopening
  | link hlink _ hscan ih =>
      obtain _ | ⟨_, hat⟩ := hat
      · rw [hscan.text_eq, List.append_nil]
        exact ⟨hlink, hstart rfl⟩
      · rw [Piece.text, ← List.append_assoc]
        exact ih hat _ nofun

/-- After a link that is read, two characters come before the next: a closing mark and another
mark, which opens. -/
theorem apart (h : Scan web place s pieces)
    {before before' spelling spelling' after after' : List Char} {withHost withHost' : Bool}
    (hat : Piece.At pieces before (.link withHost spelling) after)
    (hat' : Piece.At pieces before' (.link withHost' spelling') after')
    (hlt : before.length < before'.length) :
    before.length + spelling.length + 2 ≤ before'.length := by
  induction h generalizing before before' with
  | nil => cases hat
  | char _ _ ih =>
      obtain _ | ⟨_, hat⟩ := hat
      obtain _ | ⟨_, hat'⟩ := hat'
      have hrest := ih hat hat' (by simpa using hlt)
      rw [List.length_append, List.length_append]
      omega
  | link _ _ hscan ih =>
      obtain _ | ⟨_, hat'⟩ := hat'
      · cases hlt
      have hgap := hscan.gap_le hat'
      obtain _ | ⟨_, hat⟩ := hat
      · simp only [Piece.text, Place.gap, List.length_append, List.length_nil] at hgap ⊢
        omega
      · have hrest := ih hat hat' (by simpa using hlt)
        rw [List.length_append, List.length_append]
        omega

/-- Every link is met as the text is read, unless a link is in its way. -/
theorem complete (h : Scan web place s pieces) {before spelling after : List Char}
    {withHost : Bool} (hs : s = before ++ (spelling ++ after))
    (hoccurs : Occurs web withHost before spelling after) (hgap : place.gap ≤ before.length) :
    Settled pieces before withHost := by
  induction h generalizing before with
  | @nil place hnone =>
      obtain ⟨rfl, hrest⟩ := List.append_eq_nil_iff.mp hs.symm
      have hopening := Place.eq_atOpening_of_gap hgap
      exact absurd hoccurs.toLeads (hnone hopening _ _ _ hrest.symm)
  | @char place c s pieces hnone _ ih =>
      cases before with
      | nil =>
          have hopening := Place.eq_atOpening_of_gap hgap
          exact absurd hoccurs.toLeads (hnone hopening _ _ _ hs)
      | cons c' before =>
          obtain ⟨rfl, htail⟩ := List.cons.inj hs
          have hopened := hoccurs.opened
          have hoccurs' : Occurs web withHost before spelling after := by
            refine ⟨hoccurs.toLeads, fun d hd => hopened d ?_⟩
            rw [List.getLast?_cons, hd]
            rfl
          refine (ih htail hoccurs' (Place.gap_next_le hgap fun hzero => ?_)).cons (.char c)
          obtain rfl := List.length_eq_zero_iff.mp hzero
          exact hopened c rfl
  | @link withHost' spelling' after' pieces _ hhost _ ih =>
      rcases Nat.eq_zero_or_pos before.length with hzero | hpos
      · obtain rfl := List.length_eq_zero_iff.mp hzero
        refine .redirected (.head _ _) fun hw => hhost spelling after hs ?_
        rw [← hw]
        exact hoccurs.toLeads
      -- This link is in the way of whatever starts in it or right after its closing mark.
      by_cases hend : before.length ≤ spelling'.length + 1
      · exact .blocked (.head _ _) hpos (by simpa using hend)
      · obtain ⟨rest, rfl⟩ : spelling' <+: before := by
          refine List.prefix_of_prefix_length_le (List.prefix_append spelling' after') ?_ (by omega)
          rw [hs]
          exact List.prefix_append _ _
        have htail : after' = rest ++ (spelling ++ after) := by simpa using hs
        have hlength : 2 ≤ rest.length := by
          rw [List.length_append] at hend
          omega
        refine (ih htail ⟨hoccurs.toLeads, fun d hd => hoccurs.opened d ?_⟩ hlength).cons _
        rw [List.getLast?_append, hd]
        rfl

/-- What is read from the start of a text is a division of it. -/
theorem division (h : Scan web .atOpening s pieces) : Division web s pieces where
  text_eq := h.text_eq
  exact hat := h.exact hat [] nofun
  apart hat hat' hlt := h.apart hat hat' hlt
  complete hs hoccurs := h.complete hs hoccurs (Nat.zero_le _)

theorem ofNoLink (h : Scan web .inside s pieces) (hnone : NoLink web s) :
    Scan web .atOpening s pieces := by
  cases h with
  | nil => exact .nil fun _ => hnone
  | char _ hscan => exact .char (fun _ => hnone) hscan

/-- The closing mark after a link is read with it. -/
theorem ofTail {after : List Char} {rest : List Piece}
    (h : Scan web .inside (after.drop 1) rest) :
    Scan web .atClosing after ((after.take 1).map .char ++ rest) := by
  cases after with
  | nil =>
      cases h
      exact .nil nofun
  | cons c s => exact .char nofun h

/-- A link that is found, and what follows it. -/
theorem ofFind? {target : Web} {withHost : Bool} {tail rest : List Char}
    (hfind : find? web.hostUrl.toList web.path.toList s = some (withHost, tail, rest))
    (h : Scan web .inside rest pieces) : ∃ pieces', Scan web .atOpening s pieces' ∧
      pieces'.flatMap (Piece.redirected target) =
        (if withHost then target.url.toList else target.serverRelativeUrl.toList) ++
          (tail ++ pieces.flatMap (Piece.redirected target)) := by
  obtain ⟨spelling, after, rfl, hlink, rfl, rfl, hhost⟩ := find?_eq_some hfind
  refine ⟨_, .link hlink hhost h.ofTail, ?_⟩
  have htail (s : List Char) : (s.map Piece.char).flatMap (Piece.redirected target) = s := by
    rw [List.flatMap_map]
    exact List.flatMap_singleton' s
  rw [List.flatMap_cons, List.flatMap_append, htail]
  cases withHost with
  | true => rfl
  | false => rfl

/-- A text after its start is redirected as it is read. -/
theorem redirectFrom (web target : Web) (s : List Char) : ∃ pieces,
    Scan web .inside s pieces ∧
      SiteLink.redirectFrom web.hostUrl.toList web.path.toList target.serverRelativeUrl.toList
        target.url.toList s = pieces.flatMap (Piece.redirected target) := by
  fun_induction SiteLink.redirectFrom web.hostUrl.toList web.path.toList
    target.serverRelativeUrl.toList target.url.toList s with
  | case1 => exact ⟨[], .nil nofun, rfl⟩
  | case2 c s hopens withHost tail rest hfind ih =>
      obtain ⟨pieces, hscan, hout⟩ := ih
      obtain ⟨pieces', hscan', hout'⟩ := ofFind? hfind hscan
      have hnext : Scan web (Place.inside.next c) s pieces' := by
        rw [Place.next, if_pos hopens]
        exact hscan'
      refine ⟨.char c :: pieces', .char nofun hnext, ?_⟩
      rw [List.flatMap_cons, hout', hout]
      rfl
  | case3 c s hopens hfind ih =>
      obtain ⟨pieces, hscan, hout⟩ := ih
      have hnext : Scan web (Place.inside.next c) s pieces := by
        rw [Place.next, if_pos hopens]
        exact hscan.ofNoLink (find?_eq_none hfind)
      refine ⟨.char c :: pieces, .char nofun hnext, ?_⟩
      rw [List.flatMap_cons, hout]
      rfl
  | case4 c s hopens ih =>
      obtain ⟨pieces, hscan, hout⟩ := ih
      have hnext : Scan web (Place.inside.next c) s pieces := by
        rw [Place.next, if_neg hopens]
        exact hscan
      refine ⟨.char c :: pieces, .char nofun hnext, ?_⟩
      rw [List.flatMap_cons, hout]
      rfl

end Scan

end SiteLink

open SiteLink

/-- **Redirected links.** In a text, the links into a web that is not at the root of its server are
redirected to another web from left to right, and every other character is kept.  A link is passed
over only if a link that is redirected covers its place or ends at the mark in front of it. -/
theorem UrlMapping.apply_redirect {source target : Web} (hpath : source.path ≠ "")
    (hurl : source.url ≠ target.url) (text : String) : ∃ pieces,
      Division source text.toList pieces ∧
        (UrlMapping.redirect source target).apply text =
          String.ofList (pieces.flatMap (Piece.redirected target)) := by
  have hkeep : ¬ (source.path.toList.isEmpty ∨ source.url = target.url) := by
    rw [List.isEmpty_iff, String.toList_eq_nil_iff]
    exact not_or.mpr ⟨hpath, hurl⟩
  rw [apply]
  simp only [if_neg hkeep]
  cases hfind : find? source.hostUrl.toList source.path.toList text.toList with
  | none =>
      obtain ⟨pieces, hscan, hout⟩ := Scan.redirectFrom source target text.toList
      exact ⟨pieces, (hscan.ofNoLink (find?_eq_none hfind)).division, congrArg String.ofList hout⟩
  | some found =>
      obtain ⟨withHost, tail, rest⟩ := found
      obtain ⟨pieces, hscan, hout⟩ := Scan.redirectFrom source target rest
      obtain ⟨pieces', hscan', hout'⟩ := Scan.ofFind? hfind hscan
      refine ⟨pieces', hscan'.division, ?_⟩
      rw [hout', ← hout]

/-- A link with its host and a link in other letters are both redirected. -/
theorem UrlMapping.apply_redirect_of_two_links :
    let source : Web := ⟨"https://old.com/a", "/a"⟩
    let target : Web := ⟨"https://new.com/b", "/b"⟩
    let text := "See https://old.com/a/x or (/A)."
    source.path ≠ "" ∧ source.url ≠ target.url ∧
      (UrlMapping.redirect source target).apply text = "See https://new.com/b/x or (/b)." ∧
        ∃ pieces, Division source text.toList pieces ∧
          (UrlMapping.redirect source target).apply text =
            String.ofList (pieces.flatMap (Piece.redirected target)) := by
  intro source target text
  have hpath : source.path ≠ "" := by decide +kernel
  have hurl : source.url ≠ target.url := by decide +kernel
  exact ⟨hpath, hurl, by decide +kernel, apply_redirect hpath hurl text⟩

/-- Two links with a blank between them are links, and the second is left as it is. -/
theorem UrlMapping.apply_redirect_of_shared_mark :
    let source : Web := ⟨"https://old.com/a", "/a"⟩
    let target : Web := ⟨"https://new.com/b", "/b"⟩
    Occurs source false [] "/a".toList " /a".toList ∧
      Occurs source false "/a ".toList "/a".toList [] ∧
        (UrlMapping.redirect source target).apply "/a /a" = "/b /a" := by
  intro source target
  have hpath : address source false = "/a".toList := by decide +kernel
  have hspells : Spells (address source false) "/a".toList := by
    rw [hpath]
    exact .cons (by decide +kernel) (.cons (by decide +kernel) .nil)
  refine ⟨⟨⟨hspells, ?_⟩, nofun⟩, ⟨⟨hspells, nofun⟩, ?_⟩, by decide +kernel⟩
  all_goals
    rintro c ⟨⟩
    decide +kernel

end PageMigration
