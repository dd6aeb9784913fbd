import PageMigration.Proofs.Expression.Reading
import PageMigration.Proofs.Transform.FieldChains
import PageMigration.Proofs.Transform.FieldResults

/-!
# Fields that keep their terms

The function that gives a field default terms yields a mark where the field has a value that is to
stay.  The chain of a field does not know the mark.  It is stored like any other text, so the
value that was to stay is lost.

## Main definitions

* `FunctionCall.defaultTerms`, `WrittenCall.defaultTerms` : the call that gives a field default
  terms, and the same call as it is written.

## Main results

* `ContentUnit.input_fieldScope` : a name of the unit is bound to its value.
* `WrittenCall.splitChain_defaultTerms`, `WrittenCall.parseCall_defaultTerms` : the text of the call
  is one expression, and is read as the call.
* `ContentUnit.processField_keepValue` : the mark takes the place of the value.
-/

namespace PageMigration

open Expression

/-! ### Scopes of fields -/

/-- A property of the unit is bound to its value, which is a string. -/
theorem ContentUnit.input_fieldScope {unit : ContentUnit} {name value : String} (field : String)
    (h : unit.properties.get? name = some value) :
    (bind? (unit.fieldScope field) name).isSome ∧
      (unit.fieldScope field).input name = { name, value } := by
  have htype : declaredType? (unit.fieldScope field).declared name = some .string := by
    have hcontains : unit.properties.contains name := by rw [PropertyBag.contains, h]; rfl
    rw [fieldScope, declaredType?_declaredProperties, if_pos hcontains]
  constructor
  · rw [bind?_isSome_iff]
    left
    rw [← Option.isSome_map, ← declaredType?, htype]
    rfl
  · rw [declaredType?] at htype
    rw [Scope.input, htype]
    simp [fieldScope, h]

/-! ### Calls for default terms -/

/-- The call that gives a field default terms, unless it has a value. -/
def FunctionCall.defaultTerms (field value ids : String) : FunctionCall where
  addOn := ""
  name := "DefaultTaxonomyFieldValue"
  output := field
  inputs :=
    [{ name := field, value },
     { name := "Static_0", value := ids, isLiteral := true },
     { name := "Static_1", value := "false", isLiteral := true }]

namespace WrittenCall

/-- The call as it is written. -/
def defaultTerms (field : PlainName) (ids : List Char) (h : LiteralText (· ≠ '\n') ids) :
    WrittenCall where
  name := { core := { chars := "DefaultTaxonomyFieldValue".toList } }
  arguments := .list { core := .placeholder { core := field } }
    [{ core := .literal ids h },
     { core := .literal "false".toList (.of_notMem (by decide) (by decide)) }]

variable {field : PlainName} {ids : List Char} (hids : LiteralText (· ≠ '\n') ids)

theorem toList_defaultTerms : (defaultTerms field ids hids).text =
    "DefaultTaxonomyFieldValue(\x7b".toList ++ field.chars ++ "\x7d,".toList ++
      ('\'' :: ids ++ ['\'']) ++ ",".toList ++ ('\'' :: "false".toList ++ ['\'']) ++ ")".toList := by
  simp [text, defaultTerms, outputText, nameText, WrittenArguments.text, Padded.text,
    WrittenArgument.text, braced]

/-- The text of the call is one expression. -/
theorem splitChain_defaultTerms (hfield : ';' ∉ field.chars) :
    splitChain (String.ofList (defaultTerms field ids hids).text) =
      [String.ofList (defaultTerms field ids hids).text] := by
  have hquote : '\'' ∉ field.chars := field.plain.notMem (by decide)
  have hhead : IsPart
      ("DefaultTaxonomyFieldValue(\x7b".toList ++ field.chars ++ "\x7d,".toList) := by
    refine isPart_of_notMem ?_ ?_
    · simp [hquote]
    · simp [hfield]
  have hfalse : IsPart ('\'' :: "false".toList ++ ['\'']) :=
    isPart_literal (p := fun _ => True) (.of_notMem (by decide) (by decide))
  have hpart : IsPart (defaultTerms field ids hids).text := by
    rw [toList_defaultTerms]
    have hcomma : IsPart ",".toList := isPart_of_notMem (by decide) (by decide)
    have hclose : IsPart ")".toList := isPart_of_notMem (by decide) (by decide)
    exact (((hhead.append (isPart_literal hids)).append hcomma).append hfalse).append hclose
  obtain ⟨inner, hinner⟩ :
      ∃ inner, (defaultTerms field ids hids).text = 'D' :: inner ++ [')'] :=
    ⟨_, toList_defaultTerms hids⟩
  have htrim : Chars.trim (defaultTerms field ids hids).text = (defaultTerms field ids hids).text := by
    rw [hinner]
    exact Chars.trim_cons_concat inner (by decide) (by decide)
  have hblank : Chars.blank (defaultTerms field ids hids).text = false := by
    rw [Bool.eq_false_iff, Ne, ← Chars.trim_eq_nil_iff, htrim, hinner]
    simp
  rw [splitChain_eq, String.toList_ofList, hpart.single, expressionsOf_singleton, hblank, htrim]
  rfl

/-- The text of the call is read as the call, with the value of the field. -/
theorem parseCall_defaultTerms {unit : ContentUnit} {value : String}
    (hvalue : unit.properties.get? (String.ofList field.chars) = some value) :
    parseCall (unit.fieldScope (String.ofList field.chars))
        (String.ofList (defaultTerms field ids hids).text) =
      .ok (.defaultTerms (String.ofList field.chars) value (String.ofList ids)) := by
  let scope := unit.fieldScope (String.ofList field.chars)
  obtain ⟨hbound, hinput⟩ := ContentUnit.input_fieldScope (String.ofList field.chars) hvalue
  have hinputs : (defaultTerms field ids hids).inputs scope =
      [scope.input (String.ofList field.chars),
       { name := "Static_0", value := String.ofList ids, isLiteral := true },
       { name := "Static_1", value := "false", isLiteral := true }] := by
    have hnames : "Static_" ++ Nat.repr 0 = "Static_0" ∧ "Static_" ++ Nat.repr 1 = "Static_1" := by
      decide
    simpa [inputs, defaultTerms, WrittenArguments.padded, WrittenArgument.input,
      WrittenArgument.isLiteral] using hnames
  have hbinds : ∀ a ∈ (defaultTerms field ids hids).arguments.padded, ∀ name ∈ a.core.name?,
      (bind? scope (String.ofList name.chars)).isSome := by
    simpa [defaultTerms, WrittenArguments.padded, WrittenArgument.name?] using hbound
  rw [(defaultTerms field ids hids).parseCall_of_binds hbinds, call, hinputs, hinput]
  rfl

end WrittenCall

/-! ### The mark -/

theorem Library.find?_defaultTaxonomyFieldValue :
    ∃ e, publishing.find? "DefaultTaxonomyFieldValue" = some e ∧ e.arity = 3 ∧
      e.body = .ofRun fun ctx args =>
        return .text (← Run.defaultTerms ctx (args.text 0) (args.text 1) (args.bool 2)) :=
  ⟨_, rfl, rfl, rfl⟩

/-- The call yields the mark for a value that is to stay. -/
theorem FunctionCall.invoke_defaultTerms {ctx : Context}
    (hctx : ctx.settings.overwriteTaxonomy = false) {value : String}
    (hblank : Text.isBlank value = false) (field ids : String) (s : RunState) :
    Library.publishing.invoke ctx (.defaultTerms field value ids) s =
      (.ok (.text PageField.keepValue), s) := by
  obtain ⟨e, he, harity, hbody⟩ := Library.find?_defaultTaxonomyFieldValue
  have hterms : Run.defaultTerms ctx value ids false s = (PageField.keepValue, s) := by
    rw [Run.defaultTerms, hblank, hctx]
    rfl
  have hrun : e.body ctx (Library.arguments (.defaultTerms field value ids)) s =
      (.ok (.text PageField.keepValue), s) := by
    rw [hbody]
    exact Run.bind_of_eq (Run.bind_of_eq hterms)
  have hcount : (FunctionCall.defaultTerms field value ids).inputs.length = e.arity := harity.symm
  refine Library.invoke_of_body rfl he ?_ hcount hrun
  rw [harity]
  decide

namespace ContentUnit

variable {ctx : Context} {unit : ContentUnit} {field : PlainName} {ids : List Char} {value : String}

/-- The chain with this call stores the mark in the field. -/
theorem processField_defaultTerms (hctx : ctx.settings.overwriteTaxonomy = false)
    (hfield : ';' ∉ field.chars) (hids : LiteralText (· ≠ '\n') ids)
    (hvalue : unit.properties.get? (String.ofList field.chars) = some value)
    (hblank : Text.isBlank value = false) (s : RunState) :
    unit.processField ctx (String.ofList field.chars)
        (String.ofList (WrittenCall.defaultTerms field ids hids).text) s =
      ((unit.store (String.ofList field.chars) PageField.keepValue,
        .ok (some (String.ofList field.chars, PageField.keepValue))), s) := by
  have hparse := WrittenCall.parseCall_defaultTerms hids hvalue
  have heval : evaluate .publishing ctx (unit.fieldScope (String.ofList field.chars))
      (String.ofList (WrittenCall.defaultTerms field ids hids).text) s =
        (.ok (.defaultTerms (String.ofList field.chars) value (String.ofList ids),
          .text PageField.keepValue), s) := by
    rw [evaluate_of_parseCall_eq_ok hparse, FunctionCall.invoke_defaultTerms hctx hblank]
    rfl
  rw [processField, WrittenCall.splitChain_defaultTerms hids hfield]
  exact runFieldExpressions_cons_of_ok heval

/-- **Values that are to stay.** Unless taxonomy values are to be replaced anyway, the chain that
gives default terms to a field with a value stores the mark for values that are to stay in the
field, and reports it.  All other properties stay as they are. -/
theorem processField_keepValue (hctx : ctx.settings.overwriteTaxonomy = false)
    (hfield : ';' ∉ field.chars) (hids : LiteralText (· ≠ '\n') ids)
    (hvalue : unit.properties.get? (String.ofList field.chars) = some value)
    (hblank : Text.isBlank value = false) (s : RunState) :
    let name := String.ofList field.chars
    let after := unit.store name "[[KEEP]]"
    unit.processField ctx name
        ("DefaultTaxonomyFieldValue(\x7b" ++ name ++ "\x7d,'" ++ String.ofList ids ++ "','false')") s =
      ((after, .ok (some (name, "[[KEEP]]"))), s) ∧
    after.properties.get? name = some "[[KEEP]]" ∧
    ∀ other, Text.sameName name other = false →
      after.properties.get? other = unit.properties.get? other := by
  intro name after
  have htext : "DefaultTaxonomyFieldValue(\x7b" ++ name ++ "\x7d,'" ++ String.ofList ids ++
      "','false')" = String.ofList (WrittenCall.defaultTerms field ids hids).text := by
    rw [← String.toList_inj, String.toList_ofList, WrittenCall.toList_defaultTerms]
    simp [name]
  refine ⟨?_, PropertyBag.get?_set_self .., fun other hother => ?_⟩
  · rw [htext]
    exact processField_defaultTerms hctx hfield hids hvalue hblank s
  · exact PropertyBag.get?_set_of_not_sameName hother

/-- A page that has a keyword. -/
theorem processField_keepValue_of_keyword :
    let ctx : Context := { source := (Snapshot.ofUrl "https://old.com/a").source }
    let s := ctx.start {}
    let unit : ContentUnit := { typeName := "Page", properties := ⟨[("TaxKeyword", "News")]⟩ }
    let chain := "DefaultTaxonomyFieldValue(\x7bTaxKeyword\x7d," ++
      "'a1b2c3d4-e5f6-7890-abcd-ef1234567890','false')"
    ctx.settings.overwriteTaxonomy = false ∧
      unit.properties.get? "TaxKeyword" = some "News" ∧ Text.isBlank "News" = false ∧
      unit.processField ctx "TaxKeyword" chain s =
        ((unit.store "TaxKeyword" "[[KEEP]]", .ok (some ("TaxKeyword", "[[KEEP]]"))), s) := by
  intro ctx s unit chain
  let field : PlainName := { chars := "TaxKeyword".toList }
  let ids := "a1b2c3d4-e5f6-7890-abcd-ef1234567890".toList
  have hctx : ctx.settings.overwriteTaxonomy = false := rfl
  have hvalue : unit.properties.get? (String.ofList field.chars) = some "News" := by decide
  have hblank : Text.isBlank "News" = false := by decide
  have hids : LiteralText (· ≠ '\n') ids := .of_notMem (by decide) (by decide)
  obtain ⟨hrun, -⟩ := processField_keepValue hctx (by decide) hids hvalue hblank s
  exact ⟨hctx, hvalue, hblank, hrun⟩

/-- The keyword of a page does not stay. -/
theorem processField_loses_keyword :
    let ctx : Context := { source := (Snapshot.ofUrl "https://old.com/a").source }
    let unit : ContentUnit := { typeName := "Page", properties := ⟨[("TaxKeyword", "News")]⟩ }
    let chain := "DefaultTaxonomyFieldValue(\x7bTaxKeyword\x7d," ++
      "'a1b2c3d4-e5f6-7890-abcd-ef1234567890','false')"
    let after := (unit.processField ctx "TaxKeyword" chain (ctx.start {})).1.1
    ctx.settings.overwriteTaxonomy = false ∧
      unit.properties.get? "TaxKeyword" = some "News" ∧
      after.properties.get? "TaxKeyword" = some "[[KEEP]]" := by
  decide +kernel

end ContentUnit

end PageMigration
