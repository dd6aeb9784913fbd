import PageMigration.Json.Number

/-!
# Reading JSON

A text is read as one value, with blanks around its parts.  Arrays and objects nest less than 128
deep.  An escaped character outside the basic plane is written as a pair of surrogates, and a
surrogate outside a pair is refused.

## Main definitions

* `Json.readString?` : the rest of a string whose opening quote has been read.
* `Json.ofText?` : the value that a text holds, with all fields as written.
-/

namespace PageMigration.Json

/-- A text without the blanks that may stand between the parts of a value. -/
def skipBlanks (s : List Char) : List Char :=
  s.dropWhile fun c => c = ' ' || c = '\t' || c = '\n' || c = '\r'

/-- The number that four hexadecimal digits stand for, and what follows them. -/
def readHex? : List Char → Option (Nat × List Char)
  | a :: b :: c :: d :: s => do
      let a ← Digits.valueIn? 16 a
      let b ← Digits.valueIn? 16 b
      let c ← Digits.valueIn? 16 c
      let d ← Digits.valueIn? 16 d
      some (((a * 16 + b) * 16 + c) * 16 + d, s)
  | _ => none

/-- The character that an escape by code unit stands for, and what follows it.  The first half
of a surrogate pair has to be followed by the second. -/
def readUnicodeEscape? (s : List Char) : Option (Char × List Char) := do
  let (n, s) ← readHex? s
  if 0xD800 ≤ n ∧ n ≤ 0xDBFF then
    match s with
    | '\\' :: 'u' :: s =>
        let (m, s) ← readHex? s
        if 0xDC00 ≤ m ∧ m ≤ 0xDFFF then
          some (Char.ofNat (0x10000 + (n - 0xD800) * 0x400 + (m - 0xDC00)), s)
        else none
    | _ => none
  else if 0xDC00 ≤ n ∧ n ≤ 0xDFFF then none
  else some (Char.ofNat n, s)

/-- The character that a letter after a backslash stands for. -/
def simpleEscape? (c : Char) : Option Char :=
  match c with
  | '"' => some '"'
  | '\\' => some '\\'
  | '/' => some '/'
  | 'b' => some '\x08'
  | 'f' => some '\x0c'
  | 'n' => some '\n'
  | 'r' => some '\r'
  | 't' => some '\t'
  | _ => none

/-- The rest of a string up to its closing quote, and what follows.  The first argument bounds
the number of characters. -/
def readStringFrom? : Nat → List Char → Option (List Char × List Char)
  | 0, _ => none
  | _, [] => none
  | fuel + 1, c :: s =>
      if c = '"' then some ([], s)
      else if c = '\\' then
        match s with
        | 'u' :: s =>
            (readUnicodeEscape? s).bind fun (c, s) =>
              (readStringFrom? fuel s).map fun (cs, s) => (c :: cs, s)
        | e :: s =>
            (simpleEscape? e).bind fun c =>
              (readStringFrom? fuel s).map fun (cs, s) => (c :: cs, s)
        | [] => none
      else if c.toNat < 0x20 then none
      else (readStringFrom? fuel s).map fun (cs, s) => (c :: cs, s)

/-- The rest of a string whose opening quote has been read. -/
def readString? (s : List Char) : Option (String × List Char) :=
  (readStringFrom? (s.length + 1) s).map fun (cs, s) => (String.ofList cs, s)

/-- How deep arrays and objects may nest. -/
def deepest : Nat := 127

mutual

/-- The value at the start of a text and what follows it.  The first argument bounds the work,
the second one the nesting. -/
def readValue? : Nat → Nat → List Char → Option (Json × List Char)
  | 0, _, _ => none
  | fuel + 1, depth, s =>
      match skipBlanks s with
      | [] => none
      | '"' :: s => (readString? s).map fun (t, s) => (.string t, s)
      | '[' :: s =>
          match depth with
          | 0 => none
          | depth + 1 =>
              match skipBlanks s with
              | ']' :: s => some (.array [], s)
              | s => (readElements? fuel depth s).map fun (vs, s) => (.array vs, s)
      | '\x7b' :: s =>
          match depth with
          | 0 => none
          | depth + 1 =>
              match skipBlanks s with
              | '\x7d' :: s => some (.object [], s)
              | s => (readFields? fuel depth s).map fun (fs, s) => (.object fs, s)
      | 't' :: 'r' :: 'u' :: 'e' :: s => some (.bool true, s)
      | 'f' :: 'a' :: 'l' :: 's' :: 'e' :: s => some (.bool false, s)
      | 'n' :: 'u' :: 'l' :: 'l' :: s => some (.null, s)
      | s => readNumber? s

/-- The elements of an array up to its end. -/
def readElements? : Nat → Nat → List Char → Option (List Json × List Char)
  | 0, _, _ => none
  | fuel + 1, depth, s =>
      (readValue? fuel depth s).bind fun (v, s) =>
        match skipBlanks s with
        | ',' :: s => (readElements? fuel depth s).map fun (vs, s) => (v :: vs, s)
        | ']' :: s => some ([v], s)
        | _ => none

/-- The fields of an object up to its end. -/
def readFields? : Nat → Nat → List Char → Option (List (String × Json) × List Char)
  | 0, _, _ => none
  | fuel + 1, depth, s =>
      match skipBlanks s with
      | '"' :: s =>
          (readString? s).bind fun (name, s) =>
            match skipBlanks s with
            | ':' :: s =>
                (readValue? fuel depth s).bind fun (v, s) =>
                  match skipBlanks s with
                  | ',' :: s =>
                      (readFields? fuel depth s).map fun (fs, s) => ((name, v) :: fs, s)
                  | '\x7d' :: s => some ([(name, v)], s)
                  | _ => none
            | _ => none
      | _ => none

end

/-- The value that a text holds, with the fields of objects as written. -/
def ofText? (s : String) : Option Json :=
  let s := s.toList
  match readValue? (2 * s.length + 2) deepest s with
  | some (value, rest) => if (skipBlanks rest).isEmpty then some value else none
  | none => none

end PageMigration.Json
