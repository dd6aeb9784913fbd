import PageMigration.Proofs.Catalog.LinkHosts
import PageMigration.Proofs.Json.StringText

/-!
# Escaped texts in strings of JSON

A text that is escaped for a string of JSON is the text escaped for an attribute, with the quotes
written behind backslashes and with references for colons and at signs.  Backslashes and control
characters stay as they are.  So between quotes it is a string with that text exactly if the text
has no backslash and no control character.

## Main definitions

* `Html.withReferences` : an escaped text with given quotes and with references.
* `Html.embedded` : the text that a string of JSON is meant to hold.

## Main results

* `Html.escapeForJson_eq` : escaping as replacements in the text escaped for an attribute.
* `Html.ofText?_escapeForJson_iff` : the texts that are read again.
* `FunctionCall.IsOn.embeds_iff` : what the function that escapes for JSON yields.
* `FunctionCall.not_embedded_of_backslash` : texts that a string does not hold as they are.
-/

namespace PageMigration

/-! ### Replacements in escaped texts -/

namespace Chars

section Replacement

variable {p q d : Char} {piece by_ a : List Char}

theorem replaceFrom_length_append (piece by_ a s : List Char) :
    replaceFrom piece by_ a.length (a ++ s) = replaceFrom piece by_ 0 s := by
  induction a with
  | nil => rfl
  | cons c a ih => rw [List.length_cons, List.cons_append, replaceFrom, ih]

/-- A piece at the start of a text is replaced. -/
theorem replaceFrom_piece_append (s : List Char) :
    replaceFrom (p :: piece) by_ 0 (p :: piece ++ s) =
      by_ ++ replaceFrom (p :: piece) by_ 0 s := by
  have hprefix : (p :: piece).isPrefixOf (p :: (piece ++ s)) = true := by simp
  rw [List.cons_append, replaceFrom, if_pos hprefix, List.length_cons, Nat.add_sub_cancel,
    replaceFrom_length_append]

/-- Text without the first character of a piece is kept. -/
theorem replaceFrom_append_of_notMem (h : p ∉ a) (s : List Char) :
    replaceFrom (p :: piece) by_ 0 (a ++ s) = a ++ replaceFrom (p :: piece) by_ 0 s := by
  induction a with
  | nil => rfl
  | cons c a ih =>
      rw [List.mem_cons, not_or] at h
      have hprefix : ¬ (p :: piece).isPrefixOf (c :: (a ++ s)) = true := by simp [h.1]
      rw [List.cons_append, replaceFrom, if_neg hprefix, ih h.2, List.cons_append]

/-- Text that begins like a piece but goes on in another way is kept. -/
theorem replaceFrom_append_of_ne (hne : q ≠ d) (h : p ∉ d :: a) (s : List Char) :
    replaceFrom (p :: q :: piece) by_ 0 (p :: d :: a ++ s) =
      p :: d :: a ++ replaceFrom (p :: q :: piece) by_ 0 s := by
  have hprefix : ¬ (p :: q :: piece).isPrefixOf (p :: (d :: a ++ s)) = true := by simp [hne]
  rw [List.cons_append, replaceFrom, if_neg hprefix, replaceFrom_append_of_notMem h]
  rfl

theorem replaceAll_of_notMem (h : p ∉ a) : replaceAll (p :: piece) by_ a = a := by
  have happend : replaceFrom (p :: piece) by_ 0 (a ++ []) = _ := replaceFrom_append_of_notMem h []
  rwa [List.append_nil, replaceFrom, List.append_nil] at happend

/-- A character is replaced wherever it stands. -/
theorem replaceAll_singleton (p : Char) (by_ s : List Char) :
    replaceAll [p] by_ s = s.flatMap fun c => if c = p then by_ else [c] := by
  rw [replaceAll]
  induction s with
  | nil => rfl
  | cons c s ih =>
      by_cases h : c = p
      · rw [List.flatMap_cons, if_pos h, ← ih, h]
        exact replaceFrom_piece_append s
      · rw [List.flatMap_cons, if_neg h, ← ih]
        exact replaceFrom_append_of_notMem (List.mem_singleton.not.mpr (Ne.symm h)) s

end Replacement

end Chars

namespace Html

/-- In an escaped text an ampersand begins an escaped character, so what is found as an escaped
quote is one. -/
theorem replaceAll_quote_escapeAttribute (by_ s : List Char) :
    Chars.replaceAll "&quot;".toList by_ (escapeAttribute s) =
      s.flatMap fun c => if c = '"' then by_ else escapeAttributeChar c := by
  rw [Chars.replaceAll]
  induction s with
  | nil => rfl
  | cons c s ih =>
      rw [escapeAttribute, List.flatMap_cons, List.flatMap_cons, ← escapeAttribute, ← ih]
      unfold escapeAttributeChar
      split
      case h_1 => exact Chars.replaceFrom_append_of_ne (by decide) (by decide) _
      case h_2 => exact Chars.replaceFrom_append_of_ne (by decide) (by decide) _
      case h_3 => exact Chars.replaceFrom_append_of_ne (by decide) (by decide) _
      case h_4 => exact Chars.replaceFrom_piece_append _
      case h_5 => exact Chars.replaceFrom_append_of_ne (by decide) (by decide) _
      case h_6 hamp _ _ hquote _ =>
        rw [if_neg hquote]
        exact Chars.replaceFrom_append_of_notMem
          (List.mem_singleton.not.mpr fun heq => hamp heq.symm) _

/-- The text escaped for an attribute, with its quotes written as given and with references for
colons and at signs. -/
def withReferences (quote s : List Char) : List Char :=
  Chars.replaceAll ['@'] "&#64;".toList
    (Chars.replaceAll [':'] "&#58;".toList
      (Chars.replaceAll "&quot;".toList quote (escapeAttribute s)))

theorem notMem_escapeAttributeChar {p c : Char} (hp : p = ':' ∨ p = '@') (hne : p ≠ c) :
    p ∉ escapeAttributeChar c := by
  unfold escapeAttributeChar
  split
  case h_6 => exact List.mem_singleton.not.mpr hne
  all_goals rcases hp with rfl | rfl <;> decide

theorem withReferences_eq_flatMap {quote : List Char} (hcolon : ':' ∉ quote) (hat : '@' ∉ quote)
    (s : List Char) : withReferences quote s =
      s.flatMap fun c => if c = '"' then quote else escapeForJsonChar c := by
  have hsplit : withReferences quote s = s.flatMap fun c =>
      Chars.replaceAll ['@'] "&#64;".toList (Chars.replaceAll [':'] "&#58;".toList
        (if c = '"' then quote else escapeAttributeChar c)) := by
    simp only [withReferences, replaceAll_quote_escapeAttribute, Chars.replaceAll_singleton,
      List.flatMap_assoc]
  rw [hsplit]
  congr 1
  funext c
  by_cases hquote : c = '"'
  · rw [if_pos hquote, if_pos hquote, Chars.replaceAll_of_notMem hcolon,
      Chars.replaceAll_of_notMem hat]
  rw [if_neg hquote, if_neg hquote]
  unfold escapeForJsonChar
  split
  case h_1 => exact absurd rfl hquote
  case h_2 => rfl
  case h_3 => rfl
  case h_4 c _ hc ha =>
    rw [Chars.replaceAll_of_notMem (notMem_escapeAttributeChar (.inl rfl) (Ne.symm hc)),
      Chars.replaceAll_of_notMem (notMem_escapeAttributeChar (.inr rfl) (Ne.symm ha))]

/-- A text is escaped for JSON by replacements in the text escaped for an attribute. -/
theorem escapeForJson_eq (s : List Char) : escapeForJson s = withReferences ['\\', '"'] s := by
  rw [withReferences_eq_flatMap (by decide) (by decide), escapeForJson]
  congr 1
  funext c
  split_ifs with hquote
  · rw [hquote]
    rfl
  · rfl

/-! ### Strings of JSON -/

/-- The text that a string of JSON is meant to hold. -/
def embedded (s : List Char) : List Char :=
  withReferences ['"'] s

/-- A character of the text that a string of JSON is meant to hold. -/
def embeddedChar (c : Char) : List Char :=
  if c = '"' then ['"'] else escapeForJsonChar c

theorem embedded_eq_flatMap (s : List Char) : embedded s = s.flatMap embeddedChar :=
  withReferences_eq_flatMap (by decide) (by decide) s

/-- Whether a character other than a quote stands for itself in a string of JSON. -/
def isPlain (c : Char) : Bool :=
  c != '\\' && 0x20 ≤ c.toNat

theorem isPlain_iff {c : Char} : isPlain c ↔ c ≠ '\\' ∧ 0x20 ≤ c.toNat := by
  rw [isPlain, Bool.and_eq_true, bne_iff_ne, decide_eq_true_eq]

/-- An escaped character is the character itself or a reference, unless it is a quote. -/
theorem forall_mem_escapeForJsonChar {P : Char → Prop} [DecidablePred P] {c : Char}
    (hquote : c ≠ '"') (h : P c)
    (hreferences : "&#58;&#64;&amp;&lt;&gt;&quot;&#x27;".toList.all (P ·)) :
    ∀ d ∈ escapeForJsonChar c, P d := by
  have hpiece {piece : List Char} (hsub : piece ⊆ "&#58;&#64;&amp;&lt;&gt;&quot;&#x27;".toList) :
      ∀ d ∈ piece, P d := fun d hd =>
    of_decide_eq_true (List.all_eq_true.mp hreferences d (hsub hd))
  unfold escapeForJsonChar escapeAttributeChar
  split
  case h_1 => exact absurd rfl hquote
  case h_2 => exact hpiece (by decide)
  case h_3 => exact hpiece (by decide)
  split
  case h_6 => exact List.forall_mem_singleton.mpr h
  all_goals exact hpiece (by decide)

theorem escapeForJsonChar_of_control {c : Char} (h : c.toNat < 0x20) :
    escapeForJsonChar c = [c] := by
  unfold escapeForJsonChar escapeAttributeChar
  split
  case h_4 =>
    split
    case h_6 => rfl
    all_goals exact absurd h (by decide)
  all_goals exact absurd h (by decide)

open Json

/-- A text without backslashes and control characters is read as it is meant. -/
theorem readStringFrom?_escapeForJson {s : List Char} (h : ∀ c ∈ s, isPlain c) {fuel : Nat}
    (hfuel : (escapeForJson s).length < fuel) (rest : List Char) :
    readStringFrom? fuel (escapeForJson s ++ '"' :: rest) = some (embedded s, rest) := by
  rw [embedded_eq_flatMap]
  induction s generalizing fuel with
  | nil =>
      obtain ⟨fuel, rfl⟩ := Nat.exists_eq_add_one.mpr hfuel
      simp [escapeForJson, readStringFrom?]
  | cons c s ih =>
      rw [List.forall_mem_cons] at h
      have hsplit : escapeForJson (c :: s) = escapeForJsonChar c ++ escapeForJson s := rfl
      rw [hsplit, List.length_append] at hfuel
      obtain ⟨left, rfl⟩ := Nat.exists_eq_add_of_lt hfuel
      rw [hsplit, List.append_assoc, List.flatMap_cons]
      by_cases hquote : c = '"'
      · subst hquote
        have hread := @ih h.2 ((escapeForJson s).length + left + 2) (by omega)
        have hfuel' : (escapeForJsonChar '"').length + (escapeForJson s).length + left + 1 =
            (escapeForJson s).length + left + 2 + 1 := by
          rw [show (escapeForJsonChar '"').length = 2 from rfl]
          omega
        rw [hfuel', show escapeForJsonChar '"' = ['\\', '"'] from rfl, List.cons_append,
          List.singleton_append]
        simp [readStringFrom?, simpleEscape?, hread, embeddedChar]
      · have hread := @ih h.2 ((escapeForJson s).length + left + 1) (by omega)
        have hfuel' : (escapeForJsonChar c).length + (escapeForJson s).length + left + 1 =
            (escapeForJsonChar c).length + ((escapeForJson s).length + left + 1) := by omega
        obtain ⟨hbackslash, hcontrol⟩ := isPlain_iff.mp h.1
        have hplain : 0x20 ≤ c.toNat ∧ c ≠ '"' ∧ c ≠ '\\' := ⟨hcontrol, hquote, hbackslash⟩
        rw [hfuel', readStringFrom?_append
            (forall_mem_escapeForJsonChar hquote hplain (by decide)), hread, embeddedChar,
          if_neg hquote]
        rfl

/-- Each quote lengthens a text by its backslash, and a backslash of the text is a mark without
that. -/
theorem two_mul_length_escapeForJson (s : List Char) :
    2 * (escapeForJson s).length + s.count '\\' =
      2 * (embedded s).length + marks (escapeForJson s) := by
  have hchar (c : Char) : 2 * (escapeForJsonChar c).length + (if c = '\\' then 1 else 0) =
      2 * (embeddedChar c).length + marks (escapeForJsonChar c) := by
    by_cases hquote : c = '"'
    · subst hquote
      decide
    by_cases hbackslash : c = '\\'
    · subst hbackslash
      decide
    have hmarks : marks (escapeForJsonChar c) = 0 := by
      rw [marks, List.countP_eq_zero]
      exact forall_mem_escapeForJsonChar hquote (by simp [hquote, hbackslash]) (by decide)
    rw [embeddedChar, if_neg hquote, if_neg hbackslash, hmarks]
  rw [embedded_eq_flatMap]
  induction s with
  | nil => rfl
  | cons c s ih =>
      have hsplit : escapeForJson (c :: s) = escapeForJsonChar c ++ escapeForJson s := rfl
      have := hchar c
      rw [hsplit, List.flatMap_cons, List.length_append, List.length_append, marks_append,
        List.count_cons]
      simp only [beq_iff_eq]
      omega

/-- **Texts in strings of JSON.** A text that is escaped for JSON is read again between quotes, with
nothing behind it, exactly if it has no backslash and no control character. -/
theorem ofText?_escapeForJson_iff (s : List Char) :
    ofText? ("\"" ++ String.ofList (escapeForJson s) ++ "\"") =
        some (.string (String.ofList (embedded s))) ↔
      ∀ c ∈ s, isPlain c := by
  rw [ofText?_quotes_eq_some_iff, String.toList_ofList]
  constructor
  · intro hread c hc
    obtain ⟨⟨t, rest⟩, hfrom, heq⟩ := Option.map_eq_some_iff.mp hread
    obtain ⟨ht, rfl⟩ := Prod.mk.inj heq
    rw [String.ofList_inj] at ht
    obtain ⟨read, hsplit, hvisible, hlonger⟩ := exists_of_readStringFrom? hfrom
    rw [List.append_nil] at hsplit
    subst ht hsplit
    have hbackslash : c ≠ '\\' := by
      rintro rfl
      have hcount := List.count_pos_iff.mpr hc
      have hlength := two_mul_length_escapeForJson s
      rw [marks_append, List.length_append, List.length_singleton,
        show marks ['"'] = 1 from rfl] at hlonger
      omega
    have hcontrol : 0x20 ≤ c.toNat := by
      rw [← Nat.not_lt]
      intro hlow
      refine Nat.not_lt.mpr (hvisible c ?_) hlow
      rw [List.mem_append, escapeForJson, List.mem_flatMap]
      refine .inl ⟨c, hc, ?_⟩
      rw [escapeForJsonChar_of_control hlow]
      exact List.mem_singleton_self c
    exact isPlain_iff.mpr ⟨hbackslash, hcontrol⟩
  · intro h
    have hlength : (escapeForJson s).length < (escapeForJson s ++ ['"']).length + 1 := by
      rw [List.length_append]
      omega
    rw [readString?, readStringFrom?_escapeForJson h hlength []]
    rfl

end Html

/-! ### Calls -/

theorem Library.find?_htmlEncodeForJson :
    ∃ e, Library.general.find? "HtmlEncodeForJson" = some e ∧ e.arity = 1 ∧
      e.body = .ofArguments fun args =>
        .text (String.ofList (Html.escapeForJson (args.text 0).toList)) :=
  ⟨_, rfl, rfl, rfl⟩

namespace FunctionCall

/-- **Texts in strings of JSON.** The function that escapes a text for JSON always yields a text:
that of an attribute, with its quotes behind backslashes and with references for colons and at
signs.  Between quotes it is a string of JSON that holds the same text with its quotes as they are,
exactly if the given text has no backslash and no control character. -/
theorem IsOn.embeds_iff {call : FunctionCall} {text : String}
    (h : call.IsOn "HtmlEncodeForJson" text) (ctx : Context) (s : RunState) :
    ∃ escaped, Library.general.invoke ctx call s = (.ok (.text escaped), s) ∧
      escaped.toList = Html.withReferences ['\\', '"'] text.toList ∧
      (Json.ofText? ("\"" ++ escaped ++ "\"") =
          some (.string (String.ofList (Html.withReferences ['"'] text.toList))) ↔
        ∀ c ∈ text.toList, c ≠ '\\' ∧ 0x20 ≤ c.toNat) := by
  refine ⟨String.ofList (Html.escapeForJson text.toList), ?_, ?_, ?_⟩
  · rw [← h.text]
    exact h.invoke_eq Library.find?_htmlEncodeForJson rfl
  · rw [String.toList_ofList, Html.escapeForJson_eq]
  · simp only [← Html.isPlain_iff]
    exact Html.ofText?_escapeForJson_iff text.toList

/-- A call that escapes a given text. -/
def escaping (text : String) : FunctionCall where
  addOn := ""
  name := "HtmlEncodeForJson"
  output := selectorOutput
  inputs := [{ name := "", value := text }]

/-- A text with quotes, a colon, an at sign and an ampersand. -/
theorem IsOn.embeds_of_greeting :
    let ctx : Context := { source := (Snapshot.ofUrl "https://old.com/a").source }
    let text := "say \"hi\" to a@b: <now> & here"
    (escaping text).IsOn "HtmlEncodeForJson" text ∧
      Library.general.invoke ctx (escaping text) (ctx.start {}) = (.ok (.text
        "say \\\"hi\\\" to a&#64;b&#58; &lt;now&gt; &amp; here"), ctx.start {}) ∧
      Json.ofText? "\"say \\\"hi\\\" to a&#64;b&#58; &lt;now&gt; &amp; here\"" =
        some (.string "say \"hi\" to a&#64;b&#58; &lt;now&gt; &amp; here") := by
  intro ctx text
  have hcall : (escaping text).IsOn "HtmlEncodeForJson" text := ⟨rfl, rfl, rfl, rfl⟩
  obtain ⟨escaped, hinvoke, -, hread⟩ := hcall.embeds_iff ctx (ctx.start {})
  have hescaped : (Library.general.invoke ctx (escaping text) (ctx.start {})).1 = .ok (.text
      "say \\\"hi\\\" to a&#64;b&#58; &lt;now&gt; &amp; here") := by decide +kernel
  rw [hinvoke] at hescaped
  obtain rfl : escaped = "say \\\"hi\\\" to a&#64;b&#58; &lt;now&gt; &amp; here" := by
    injection hescaped with htext
    injection htext
  have hmeant : String.ofList (Html.withReferences ['"'] text.toList) =
      "say \"hi\" to a&#64;b&#58; &lt;now&gt; &amp; here" := by decide +kernel
  have hall : text.toList.all Html.isPlain := by decide +kernel
  have hplain : ∀ c ∈ text.toList, c ≠ '\\' ∧ 0x20 ≤ c.toNat := fun c hc =>
    Html.isPlain_iff.mp (List.all_eq_true.mp hall c hc)
  rw [hmeant] at hread
  exact ⟨hcall, hinvoke, hread.mpr hplain⟩

/-- A backslash at the end of a text hides the closing quote, one in front of a quote lets the quote
end the string, one in front of a letter makes another character of it, and a line feed may not
stand in a string at all. -/
theorem not_embedded_of_backslash :
    let ctx : Context := { source := (Snapshot.ofUrl "https://old.com/a").source }
    let escaped (text : String) := (Library.general.invoke ctx (escaping text) (ctx.start {})).1
    escaped "\\" = .ok (.text "\\") ∧ Json.ofText? "\"\\\"" = none ∧
      escaped "\\\"" = .ok (.text "\\\\\"") ∧ Json.ofText? "\"\\\\\"\"" = none ∧
      escaped "\\n" = .ok (.text "\\n") ∧
      (Json.ofText? "\"\\n\"").bind Json.string? = some "\n" ∧
      escaped "\n" = .ok (.text "\n") ∧ Json.ofText? "\"\n\"" = none := by
  refine ⟨?_, ?_, ?_, ?_, ?_, ?_, ?_, ?_⟩ <;> decide +kernel

end FunctionCall

end PageMigration
