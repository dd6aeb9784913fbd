import PageMigration.Proofs.Catalog.Refusal
import PageMigration.Site.Snapshot

/-!
# Types of parameters

A function may be given a text for a parameter, or the value that the text stands for in the type
of the parameter.  It makes no difference, since each function reads each of its arguments as a
value of the declared type, and reading a text as a value falls back just as coercing it does.

## Main definitions

* `Arguments.read` : the argument at a position, read as a value of a type.
* `Arguments.AgreeOn` : arguments that are read alike as values of given types.
* `Entry.ReadsAsDeclared` : a function that reads its arguments as values of the declared types.
* `Entry.callOn` : the call of a function on texts with types.

## Main results

* `Arguments.agreeOn_coerced` : texts are read like the values that they stand for.
* `Library.readsAsDeclared_of_mem` : every function reads its arguments as it declares.
* `Library.invoke_coerced` : calls on texts and calls on values yield the same.
-/

namespace PageMigration

/-! ### Reading arguments -/

namespace Arguments

variable {types : List ValueType} {a b : Arguments} {type : ValueType} {raw : String} {i : Nat}

/-- The argument at a position, read as a value of a type. -/
def read (args : Arguments) (type : ValueType) (i : Nat) : Argument :=
  match type with
  | .string => .string (args.text i)
  | .integer => .integer (args.integer i)
  | .bool => .bool (args.bool i)
  | .guid => .guid (args.guid i)
  | .dateTime => .dateTime (args.instant i)

/-- Reading a text falls back where coercing it does. -/
theorem read_of_raw (h : a[i]? = some (.string raw)) : a.read type i = type.coerce raw := by
  cases type with
  | string => simp only [read, text, h, ValueType.coerce]; rfl
  | integer => simp only [read, integer, h, ValueType.coerce]
  | bool => simp only [read, bool, h, ValueType.coerce]
  | guid => simp only [read, guid, h, ValueType.coerce]
  | dateTime => simp only [read, instant, h, ValueType.coerce]

/-- A value of a type is read as it is. -/
theorem read_of_coerced (h : a[i]? = some (type.coerce raw)) :
    a.read type i = type.coerce raw := by
  cases type with
  | string => simp only [read, text, h, ValueType.coerce]; rfl
  | integer => simp only [read, integer, h, ValueType.coerce]
  | bool => simp only [read, bool, h, ValueType.coerce]
  | guid => simp only [read, guid, h, ValueType.coerce]
  | dateTime => simp only [read, instant, h, ValueType.coerce]

/-- Arguments that are read alike as values of given types, one for each position. -/
def AgreeOn (types : List ValueType) (a b : Arguments) : Prop :=
  ∀ i type, types[i]? = some type → a.read type i = b.read type i

/-- Texts are read like the values that they stand for. -/
theorem agreeOn_coerced (types : List ValueType) (raws : List String) :
    AgreeOn types (raws.map .string) (List.zipWith ValueType.coerce types raws) := by
  intro i type htype
  cases hraw : raws[i]? with
  | none =>
      have hraws : (raws.map Argument.string)[i]? = none := by simp [hraw]
      have hvalues : (List.zipWith ValueType.coerce types raws)[i]? = none := by
        simp [List.getElem?_zipWith, htype, hraw]
      cases type <;> simp only [read, text, integer, bool, guid, instant, hraws, hvalues]
  | some raw =>
      have hraws : (raws.map Argument.string)[i]? = some (.string raw) := by simp [hraw]
      have hvalues : (List.zipWith ValueType.coerce types raws)[i]? = some (type.coerce raw) := by
        simp [List.getElem?_zipWith, htype, hraw]
      rw [read_of_raw hraws, read_of_coerced hvalues]

namespace AgreeOn

variable (h : AgreeOn types a b)
include h

theorem text (i : Nat) (hi : types[i]? = some .string) : a.text i = b.text i :=
  Argument.string.inj (h i .string hi)

theorem integer (i : Nat) (hi : types[i]? = some .integer) : a.integer i = b.integer i :=
  Argument.integer.inj (h i .integer hi)

theorem bool (i : Nat) (hi : types[i]? = some .bool) : a.bool i = b.bool i :=
  Argument.bool.inj (h i .bool hi)

theorem guid (i : Nat) (hi : types[i]? = some .guid) : a.guid i = b.guid i :=
  Argument.guid.inj (h i .guid hi)

theorem instant (i : Nat) (hi : types[i]? = some .dateTime) : a.instant i = b.instant i :=
  Argument.dateTime.inj (h i .dateTime hi)

end AgreeOn

end Arguments

/-! ### Functions -/

/-- The types that a function declares for its parameters. -/
def Entry.types (e : Entry) : List ValueType :=
  e.parameters.map Parameter.type

/-- A function that does the same with arguments that are read alike as values of the types that
it declares. -/
def Entry.ReadsAsDeclared (e : Entry) : Prop :=
  ∀ ctx a b, Arguments.AgreeOn e.types a b → e.body ctx a = e.body ctx b

namespace Catalog

theorem constants_readAsDeclared : ∀ e ∈ constants, e.ReadsAsDeclared := by
  simp only [constants, List.mem_cons, forall_eq_or_imp, List.not_mem_nil, false_implies,
    implies_true, and_true]
  refine ⟨?_, ?_⟩ <;> intro ctx a b h
  · rfl
  · simp only [Body.ofArguments, h.text 0 rfl]

theorem valueEntries_readAsDeclared : ∀ e ∈ valueEntries, e.ReadsAsDeclared := by
  simp only [valueEntries, List.mem_cons, forall_eq_or_imp, List.not_mem_nil, false_implies,
    implies_true, and_true]
  -- One step for each function, in the order in which they are listed.
  refine ⟨?_, ?_, ?_, ?_, ?_, ?_, ?_, ?_, ?_, ?_, ?_, ?_, ?_, ?_, ?_, ?_⟩ <;> intro ctx a b h
  · simp only [Body.ofArguments, h.text 0 rfl]
  · simp only [Body.ofArguments, h.text 0 rfl]
  · rfl
  · rfl
  · simp only [Body.ofArguments, h.text 0 rfl, h.text 1 rfl]
  · simp only [Body.ofArguments, h.text 0 rfl, h.text 1 rfl]
  · simp only [Body.ofArguments, h.text 0 rfl, h.text 1 rfl]
  · simp only [Body.ofArguments, h.text 0 rfl, h.text 1 rfl, h.bool 2 rfl]
  · simp only [Body.ofArguments, h.text 0 rfl, h.text 1 rfl, h.bool 2 rfl]
  · simp only [Body.ofArguments, h.text 0 rfl, h.text 1 rfl, h.text 2 rfl, h.bool 3 rfl]
  · simp only [Body.ofContext, h.text 0 rfl, h.bool 1 rfl]
  · simp only [Body.ofArguments, h.text 0 rfl]
  · simp only [Body.ofArguments, h.text 0 rfl]
  · simp only [Body.ofArguments, h.text 0 rfl]
  · simp only [Body.ofArguments, h.text 0 rfl]
  · simp only [Body.ofContext, h.guid 0 rfl]

theorem lookupEntries_readAsDeclared : ∀ e ∈ lookupEntries, e.ReadsAsDeclared := by
  simp only [lookupEntries, List.mem_cons, forall_eq_or_imp, List.not_mem_nil, false_implies,
    implies_true, and_true]
  refine ⟨?_, ?_, ?_, ?_, ?_, ?_, ?_, ?_, ?_, ?_⟩ <;> intro ctx a b h
  · simp only [Body.ofRun, h.text 0 rfl]
  · simp only [Body.ofRun, h.text 0 rfl]
  · simp only [Body.ofRun, h.text 0 rfl]
  · simp only [Body.ofRun, h.text 0 rfl]
  · simp only [h.text 0 rfl]
  · simp only [h.text 0 rfl]
  · simp only [Body.ofRun, h.guid 0 rfl]
  · simp only [Body.ofRun, h.guid 0 rfl]
  · simp only [Body.ofRun, h.guid 0 rfl, h.text 1 rfl]
  · simp only [Body.ofRun, h.text 0 rfl]

theorem partEntries_readAsDeclared : ∀ e ∈ partEntries, e.ReadsAsDeclared := by
  simp only [partEntries, List.mem_cons, forall_eq_or_imp, List.not_mem_nil, false_implies,
    implies_true, and_true]
  refine ⟨?_, ?_, ?_⟩ <;> intro ctx a b h
  · simp only [Body.ofRun, contentQuery, h.text 0 rfl, h.guid 1 rfl, h.text 2 rfl, h.text 3 rfl,
      h.text 4 rfl, h.text 5 rfl, h.text 6 rfl, h.integer 7 rfl, h.text 8 rfl]
  · simp only [Body.ofArguments, contentSearch, h.text 0 rfl, h.text 1 rfl, h.integer 2 rfl,
      h.text 3 rfl]
  · simp only [Body.ofRun, h.text 0 rfl, h.text 1 rfl]

theorem selectorEntries_readAsDeclared : ∀ e ∈ selectorEntries, e.ReadsAsDeclared := by
  simp only [selectorEntries, List.mem_cons, forall_eq_or_imp, List.not_mem_nil, false_implies,
    implies_true, and_true]
  refine ⟨?_, ?_, ?_, ?_, ?_, ?_⟩ <;> intro ctx a b h
  · simp only [Body.ofRun, h.guid 0 rfl, h.text 1 rfl]
  · simp only [Body.ofArguments, h.text 0 rfl]
  · simp only [Body.ofArguments, h.text 0 rfl]
  · simp only [Body.ofArguments, h.guid 0 rfl]
  · simp only [Body.ofArguments, h.text 0 rfl]
  · simp only [Body.ofArguments, h.text 0 rfl]

theorem fieldEntries_readAsDeclared : ∀ e ∈ fieldEntries, e.ReadsAsDeclared := by
  simp only [fieldEntries, List.mem_cons, forall_eq_or_imp, List.not_mem_nil, false_implies,
    implies_true, and_true]
  refine ⟨?_, ?_, ?_, ?_, ?_, ?_, ?_, ?_⟩ <;> intro ctx a b h
  · simp only [Body.ofRun, h.text 0 rfl]
  · simp only [Body.ofArguments, h.text 0 rfl]
  · simp only [Body.ofContext, h.text 0 rfl]
  · simp only [Body.ofRun, h.text 0 rfl]
  · simp only [Body.ofRun, h.text 0 rfl]
  · simp only [Body.ofArguments, h.instant 0 rfl]
  · simp only [Body.ofRun, h.text 0 rfl]
  · simp only [Body.ofRun, h.text 0 rfl, h.text 1 rfl, h.bool 2 rfl]

end Catalog

/-! ### Calls -/

/-- The call of a function on texts, each of which is to be read as a value of a type. -/
def Entry.callOn (e : Entry) (types : List ValueType) (raws : List String) : FunctionCall where
  addOn := ""
  name := e.name
  output := selectorOutput
  inputs := List.zipWith (fun type raw => { name := "", type, value := raw }) types raws

namespace Library

variable (library : Library) {e : Entry}

/-- **Declared types.** Every function of a library reads its arguments as values of the types that
it declares. -/
theorem readsAsDeclared_of_mem (he : e ∈ library.entries) : e.ReadsAsDeclared := by
  cases library with
  | general =>
      simp only [entries, List.mem_append] at he
      rcases he with (((he | he) | he) | he) | he
      · exact Catalog.constants_readAsDeclared e he
      · exact Catalog.valueEntries_readAsDeclared e he
      · exact Catalog.lookupEntries_readAsDeclared e he
      · exact Catalog.partEntries_readAsDeclared e he
      · exact Catalog.selectorEntries_readAsDeclared e he
  | publishing =>
      rcases List.mem_append.mp he with he | he
      · exact Catalog.constants_readAsDeclared e he
      · exact Catalog.fieldEntries_readAsDeclared e he

theorem nodup_names : (library.entries.map Entry.name).Nodup := by
  cases library <;> decide +kernel

/-- No function of a library hides another one. -/
theorem find?_of_mem (he : e ∈ library.entries) : library.find? e.name = some e := by
  obtain ⟨before, after, hentries⟩ := List.append_of_mem he
  have hnames := library.nodup_names
  rw [hentries, List.map_append, List.map_cons, List.nodup_append] at hnames
  rw [find?, List.find?_eq_some_iff_append]
  refine ⟨beq_self_eq_true _, before, after, hentries, fun other hother => ?_⟩
  have hne : other.name ≠ e.name :=
    hnames.2.2 _ (List.mem_map_of_mem hother) _ List.mem_cons_self
  simpa using hne

variable {library}

theorem arguments_callOn (types : List ValueType) (raws : List String) :
    arguments (e.callOn types raws) = List.zipWith ValueType.coerce types raws := by
  simp [arguments, Entry.callOn, List.map_zipWith]

/-- Texts that are to be read as strings are the arguments themselves. -/
theorem arguments_callOn_strings (raws : List String) :
    arguments (e.callOn (raws.map fun _ => .string) raws) = raws.map .string := by
  simp only [arguments_callOn, List.zipWith_map_left, ValueType.coerce, List.zipWith_self]

/-- What a function yields for a call depends on the inputs by their number and by what the
function does with the arguments. -/
theorem apply_congr {ctx : Context} {call call' : FunctionCall} (hname : call.name = call'.name)
    (hcount : call.inputs.length = call'.inputs.length)
    (hbody : e.body ctx (arguments call) = e.body ctx (arguments call')) :
    apply ctx e call = apply ctx e call' := by
  unfold apply
  by_cases hzero : e.arity = 0
  · simp only [hname, hcount, hzero, if_true]
  · simp only [hname, hcount, hzero, if_false, hbody]

/-- **Texts and values.** A function that is given one text for each of its parameters does the
same as with the values that the texts stand for in the types that it declares: the call by its
name yields the same in every state of a run, and leaves the same state. -/
theorem invoke_coerced (he : e ∈ library.entries) {raws : List String}
    (hlength : raws.length = e.arity) (ctx : Context) :
    e.body ctx (raws.map .string) = e.body ctx (List.zipWith ValueType.coerce e.types raws) ∧
      library.find? e.name = some e ∧
      library.invoke ctx (e.callOn (raws.map fun _ => .string) raws) =
        library.invoke ctx (e.callOn e.types raws) := by
  have hbody : e.body ctx (raws.map .string) =
      e.body ctx (List.zipWith ValueType.coerce e.types raws) :=
    library.readsAsDeclared_of_mem he ctx _ _ (Arguments.agreeOn_coerced e.types raws)
  have hfind : library.find? e.name = some e := library.find?_of_mem he
  refine ⟨hbody, hfind, ?_⟩
  rw [invoke_of_find? rfl hfind, invoke_of_find? rfl hfind]
  refine apply_congr rfl ?_ ?_
  · simp [Entry.callOn, Entry.types, hlength, Entry.arity]
  · rw [arguments_callOn_strings, arguments_callOn, hbody]

/-- A truth value is given as a text, in another case and between blanks. -/
theorem invoke_coerced_of_blank_true :
    let ctx : Context := { source := (Snapshot.ofUrl "https://old.com/a").source }
    let raws := ["<b>", "</b>", "", " TRUE "]
    ∃ e ∈ general.entries, e.name = "PrefixAndSuffix" ∧ raws.length = e.arity ∧
      List.zipWith ValueType.coerce e.types raws =
        [.string "<b>", .string "</b>", .string "", .bool true] ∧
      general.invoke ctx (e.callOn (raws.map fun _ => .string) raws) =
        general.invoke ctx (e.callOn e.types raws) ∧
      (general.invoke ctx (e.callOn e.types raws) (ctx.start {})).1 = .ok (.text "<b></b>") := by
  intro ctx raws
  have hmem := List.mem_of_find?_eq_some (l := general.entries)
    (show general.find? "PrefixAndSuffix" = some _ from rfl)
  exact ⟨_, hmem, rfl, rfl, by decide, (invoke_coerced hmem rfl ctx).2.2, rfl⟩

end Library

end PageMigration
