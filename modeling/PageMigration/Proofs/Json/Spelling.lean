import PageMigration.Json.Printer
import PageMigration.Json.Reader
import PageMigration.Proofs.Json.Normal
import PageMigration.Proofs.Json.NumberText

/-!
# What a JSON text stands for

The grammar of JSON as a relation between values and texts: which texts are texts of a value.  The
grammar is that of texts without blanks between the parts; a character of a string stands for
itself, or is written by one of the short escapes or by its code unit.  A double stands for each
number that rounds to it, and the fields of an object have different names.

The text of a value in normal form is a text of that value.

## Main definitions

* `Json.SpellsChar`, `Json.SpellsString` : the texts of a character and of a string.
* `Json.Spells` : the texts of a value.

## Main results

* `Json.IsNormal.spells_compact` : writing a value.
-/

namespace PageMigration.Json

/-! ### The grammar -/

/-- The texts of a character in a string. -/
inductive SpellsChar : Char → List Char → Prop
  | plain {c : Char} (hcontrol : 0x20 ≤ c.toNat) (hquote : c ≠ '"') (hbackslash : c ≠ '\\') :
      SpellsChar c [c]
  | short {letter c : Char} (h : simpleEscape? letter = some c) : SpellsChar c ['\\', letter]
  | codeUnit {c : Char} {digits : List Char} (hlength : digits.length = 4)
      (hdigits : ∀ d ∈ digits, Digits.isDigitIn 16 d) (hvalue : Digits.ofBase 16 digits = c.toNat) :
      SpellsChar c ('\\' :: 'u' :: digits)

/-- The texts of a string. -/
def SpellsString (s : String) (text : List Char) : Prop :=
  ∃ pieces, List.Forall₂ SpellsChar s.toList pieces ∧ text = '"' :: (pieces.flatten ++ ['"'])

/-- Texts with commas between them. -/
def withCommas (texts : List (List Char)) : List Char :=
  List.intercalate [','] texts

/-- The texts of a value. -/
inductive Spells : Json → List Char → Prop
  | null : Spells .null "null".toList
  | true : Spells (.bool true) "true".toList
  | false : Spells (.bool false) "false".toList
  | int {n : Int} {t : NumberToken} (hwell : t.WellFormed) (hdecimals : t.decimals = [])
      (hexponent : t.exponent = none) (hvalue : t.value = n) : Spells (.int n) t.text
  | double {x : Double} {t : NumberToken} (h : DoubleToken x t) : Spells (.double x) t.text
  | string {s : String} {text : List Char} (h : SpellsString s text) : Spells (.string s) text
  | array {elements : List Json} {texts : List (List Char)}
      (h : List.Forall₂ Spells elements texts) :
      Spells (.array elements) ('[' :: (withCommas texts ++ [']']))
  | object {fields : List (String × Json)} {names texts : List (List Char)}
      (hdifferent : (fields.map Prod.fst).Nodup)
      (hnames : List.Forall₂ SpellsString (fields.map Prod.fst) names)
      (hvalues : List.Forall₂ Spells (fields.map Prod.snd) texts) :
      Spells (.object fields)
        ('\x7b' :: (withCommas (List.zipWith (fun name text => name ++ ':' :: text) names texts) ++
          ['\x7d']))

/-! ### Strings -/

theorem valueIn?_digitChar {n : Nat} (h : n < 16) :
    Digits.valueIn? 16 (Nat.digitChar n) = some n := by
  revert n
  decide

/-- A character as it stands in a string is a text of that character. -/
theorem spellsChar_escapedChar (c : Char) : SpellsChar c (escapedChar c) := by
  rw [escapedChar]
  split_ifs with hquote hbackslash hb ht hn hf hr hcontrol
  · rw [hquote]
    exact .short rfl
  · rw [hbackslash]
    exact .short rfl
  · exact .short (hb ▸ rfl)
  · exact .short (ht ▸ rfl)
  · exact .short (hn ▸ rfl)
  · exact .short (hf ▸ rfl)
  · exact .short (hr ▸ rfl)
  · have hzero : Digits.valueIn? 16 '0' = some 0 := rfl
    have hhigh := valueIn?_digitChar (show c.toNat / 16 < 16 by omega)
    have hlow := valueIn?_digitChar (Nat.mod_lt c.toNat (by decide : 0 < 16))
    refine .codeUnit rfl ?_ ?_
    · simp [Digits.isDigitIn, hzero, hhigh, hlow]
    · simp only [Digits.ofBase, List.foldl_cons, List.foldl_nil, hzero, hhigh, hlow,
        Option.getD_some]
      omega
  · exact .plain (Nat.le_of_not_lt hcontrol) hquote hbackslash

theorem spellsString_quoted (s : String) : SpellsString s (quoted s) := by
  refine ⟨s.toList.map escapedChar, ?_, rfl⟩
  rw [List.forall₂_map_right_iff, List.forall₂_same]
  exact fun c _ => spellsChar_escapedChar c

/-! ### Values -/

theorem compactElements_eq (elements : List Json) :
    compactElements elements = (elements.flatMap fun v => ',' :: compactChars v) ++ [']'] := by
  induction elements with
  | nil => rfl
  | cons v rest ih => rw [compactElements, ih]; simp

theorem compactFields_eq (fields : List (String × Json)) :
    compactFields fields =
      (fields.flatMap fun f => ',' :: (quoted f.1 ++ ':' :: compactChars f.2)) ++ ['\x7d'] := by
  induction fields with
  | nil => rfl
  | cons f rest ih => rw [compactFields, ih]; simp

theorem withCommas_cons (text : List Char) (texts : List (List Char)) :
    withCommas (text :: texts) = text ++ texts.flatMap (',' :: ·) := by
  induction texts generalizing text with
  | nil => simp [withCommas]
  | cons next rest ih =>
      rw [withCommas, List.intercalate_cons_cons, ← withCommas, ih]
      simp

/-- An array is written as its elements with commas between them. -/
theorem compactChars_array (elements : List Json) :
    compactChars (.array elements) =
      '[' :: (withCommas (elements.map compactChars) ++ [']']) := by
  cases elements with
  | nil => rfl
  | cons v rest =>
      rw [compactChars, compactElements_eq, List.map_cons, withCommas_cons, List.flatMap_map,
        List.append_assoc]

/-- An object is written as its fields with commas between them. -/
theorem compactChars_object (fields : List (String × Json)) :
    compactChars (.object fields) =
      '\x7b' :: (withCommas (fields.map fun f => quoted f.1 ++ ':' :: compactChars f.2) ++
        ['\x7d']) := by
  cases fields with
  | nil => rfl
  | cons f rest =>
      rw [compactChars, compactFields_eq, List.map_cons, withCommas_cons, List.flatMap_map]
      simp

theorem IsNormal.spells_compactChars {v : Json} (h : v.IsNormal) : Spells v (compactChars v) := by
  induction h with
  | null => exact .null
  | bool b => cases b with
    | true => exact .true
    | false => exact .false
  | int n =>
      obtain ⟨t, hwell, hdecimals, hexponent, hvalue, htext⟩ := exists_token_intText n
      rw [compactChars, ← htext]
      exact .int hwell hdecimals hexponent hvalue
  | double h =>
      obtain ⟨t, ht, htext⟩ := exists_token_doubleText h
      rw [compactChars, ← htext]
      exact .double ht
  | string s => exact .string (spellsString_quoted s)
  | array _ ih =>
      rw [compactChars_array]
      refine .array ?_
      rw [List.forall₂_map_right_iff, List.forall₂_same]
      exact ih
  | @object fields order _ ih =>
      have hzip : (fields.map fun f => quoted f.1 ++ ':' :: compactChars f.2) =
          List.zipWith (fun name text => name ++ ':' :: text) (fields.map fun f => quoted f.1)
            (fields.map fun f => compactChars f.2) := by
        rw [List.zipWith_map, List.zipWith_self]
      rw [compactChars_object, hzip]
      refine .object order.nodup_names ?_ ?_
      · rw [List.forall₂_map_left_iff, List.forall₂_map_right_iff, List.forall₂_same]
        exact fun f _ => spellsString_quoted f.1
      · rw [List.forall₂_map_left_iff, List.forall₂_map_right_iff, List.forall₂_same]
        exact ih

/-- **Writing a value.** The text of a value in normal form is a text of that value. -/
theorem IsNormal.spells_compact {v : Json} (h : v.IsNormal) : Spells v v.compact.toList := by
  rw [compact, String.toList_ofList]
  exact h.spells_compactChars

end PageMigration.Json
