import PageMigration.Chars.Blank
import PageMigration.Chars.Fold
import PageMigration.Chars.Word

/-!
# Patterns of text

A pattern is matched from a place in a text onwards.  Where several matches are possible, the
first alternative is preferred, and a repetition goes on as long as it can or ends as soon as it
can.  Pieces are found from left to right and do not overlap.

## Main definitions

* `Pattern` : a pattern.
* `Pattern.rest?` : what follows the preferred match at the start of a text.
* `Pattern.find?`, `Pattern.occursIn` : the first piece that matches.
* `Pattern.replaceAll` : a text with all matching pieces replaced.
-/

namespace PageMigration

/-- A pattern of text. -/
inductive Pattern where
  | empty
  | one (accepts : Char → Bool)
  /-- An edge of a word. -/
  | edge
  | seq (first second : Pattern)
  | either (preferred other : Pattern)
  | star (greedy : Bool) (body : Pattern)

namespace Pattern

/-- What is done with the last character read and the rest of the text. -/
abbrev Continuation := Option Char → List Char → Option (List Char)

/-- A matcher, given the character before the text. -/
abbrev Matcher := Option Char → List Char → Continuation → Option (List Char)

/-- The first result there is. -/
def firstOf (a : Option (List Char)) (b : Unit → Option (List Char)) : Option (List Char) :=
  match a with
  | some r => some r
  | none => b ()

/-- Repetition of a matcher, at most so many times, each time over at least one character. -/
def iterate (body : Matcher) (greedy : Bool) : Nat → Matcher
  | 0, before, s, k => k before s
  | n + 1, before, s, k =>
      let more (_ : Unit) := body before s fun before' s' =>
        if s'.length < s.length then iterate body greedy n before' s' k else none
      if greedy then firstOf (more ()) fun _ => k before s else firstOf (k before s) more

/-- Whether a character belongs to words; an end of the text does not. -/
def wordAt (c : Option Char) : Bool :=
  c.any Chars.inWord

/-- The matcher of a pattern. -/
def run : Pattern → Matcher
  | empty, before, s, k => k before s
  | one accepts, _, s, k =>
      match s with
      | [] => none
      | c :: s => if accepts c then k (some c) s else none
  | edge, before, s, k => if wordAt before != wordAt s.head? then k before s else none
  | seq first second, before, s, k =>
      first.run before s fun before' s' => second.run before' s' k
  | either preferred other, before, s, k =>
      firstOf (preferred.run before s k) fun _ => other.run before s k
  | star greedy body, before, s, k => iterate body.run greedy s.length before s k

/-- What follows the preferred match of a pattern at the start of a text. -/
def rest? (p : Pattern) (before : Option Char) (s : List Char) : Option (List Char) :=
  p.run before s fun _ rest => some rest

/-- A text without the part that another one is the end of. -/
def takenFrom (s rest : List Char) : List Char :=
  s.take (s.length - rest.length)

/-- The first piece of a text that matches. -/
def findFrom? (p : Pattern) (before : Option Char) : List Char → Option (List Char)
  | [] => (p.rest? before []).map (takenFrom [])
  | c :: s =>
      match p.rest? before (c :: s) with
      | some rest => some (takenFrom (c :: s) rest)
      | none => p.findFrom? (some c) s

/-- The first piece of a text that matches. -/
def find? (p : Pattern) (s : List Char) : Option (List Char) :=
  p.findFrom? none s

/-- Whether some piece of a text matches. -/
def occursIn (p : Pattern) (s : List Char) : Bool :=
  (p.find? s).isSome

/-- A text after a given character, with all matching pieces replaced. -/
def replaceFrom (p : Pattern) (by_ : List Char → List Char) (before : Option Char)
    (s : List Char) : List Char :=
  match s with
  | [] => []
  | c :: s =>
      match p.rest? before (c :: s) with
      | some rest =>
          if _h : rest.length < s.length + 1 then
            let taken := takenFrom (c :: s) rest
            by_ taken ++ replaceFrom p by_ taken.getLast? rest
          else c :: replaceFrom p by_ (some c) s
      | none => c :: replaceFrom p by_ (some c) s
termination_by s.length

/-- A text with all matching pieces that are not empty replaced by what a function makes of
them. -/
def replaceAll (p : Pattern) (by_ : List Char → List Char) (s : List Char) : List Char :=
  p.replaceFrom by_ none s

/-- A text without the pieces that match. -/
def removeAll (p : Pattern) (s : List Char) : List Char :=
  p.replaceAll (fun _ => []) s

/-! ### Common patterns -/

/-- One given character, up to simple case folding. -/
def letter (a : Char) : Pattern :=
  one (Chars.sameLetter a)

/-- A given text, up to simple case folding. -/
def word (s : String) : Pattern :=
  s.toList.foldr (fun c p => seq (letter c) p) empty

/-- One pattern after the other. -/
def all : List Pattern → Pattern
  | [] => empty
  | [p] => p
  | p :: ps => seq p (all ps)

/-- One of several patterns, the first preferred. -/
def any : List Pattern → Pattern
  | [] => one fun _ => false
  | [p] => p
  | p :: ps => either p (any ps)

/-- A pattern or nothing, preferably the pattern. -/
def optional (p : Pattern) : Pattern :=
  either p empty

/-- As many characters of a class as possible. -/
def many (accepts : Char → Bool) : Pattern :=
  star true (one accepts)

/-- As many characters of a class as possible, and at least one. -/
def some_ (accepts : Char → Bool) : Pattern :=
  seq (one accepts) (many accepts)

/-- As few characters as possible. -/
def anything : Pattern :=
  star false (one fun _ => true)

end Pattern

end PageMigration
