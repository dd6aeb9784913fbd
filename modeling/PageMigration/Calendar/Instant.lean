import PageMigration.Calendar.Date
import PageMigration.Chars.Blank
import PageMigration.Number.Digits

/-!
# Instants

An instant is a date with a time of day in universal time, down to the nanosecond.  The last
second of a minute may be followed by a leap second, which is held as a fraction of that second
past one.

An instant is read from text in two ways: from the internet form `2021-03-04T05:06:07.25+02:00`,
which says how far local time is ahead of universal time, and by a layout, a list of fields and
marks read one after the other.  It is written in the internet form.

## Main definitions

* `Instant` : a date, a second of the day and a fraction.
* `Instant.ofInternetText?` : an instant read from the internet form.
* `Instant.ofText?` : an instant read in any of the accepted forms.
* `Instant.text`, `Instant.secondsText` : the internet form, with the fraction or without it.
-/

namespace PageMigration

/-- A date and a time of day in universal time.  A fraction of a thousand million nanoseconds
or more lies in a leap second. -/
structure Instant where
  date : Date
  second : Nat
  nano : Nat
  deriving DecidableEq, Repr

namespace Instant

/-- The number of nanoseconds in a second. -/
def nanosPerSecond : Nat := 1000000000

/-- The number of seconds in a day. -/
def secondsPerDay : Nat := 86400

/-- The first instant of a date. -/
def midnight (date : Date) : Instant :=
  ⟨date, 0, 0⟩

/-- The instant with given parts.  A sixtieth second is the leap second after the one before
it. -/
def ofParts? (year : Int) (month day hour minute second nano : Nat) : Option Instant :=
  if hour < 24 ∧ minute < 60 ∧ second ≤ 60 then
    (Date.ofParts? year month day).map fun date =>
      if second = 60 then ⟨date, hour * 3600 + minute * 60 + 59, nanosPerSecond + nano⟩
      else ⟨date, hour * 3600 + minute * 60 + second, nano⟩
  else none

/-- The instant a given number of seconds earlier, for less than a day either way. -/
def shiftBack (t : Instant) (seconds : Int) : Instant :=
  let second := (t.second : Int) - seconds
  if second < 0 then { t with date := t.date.previous, second := (second + secondsPerDay).toNat }
  else if second < secondsPerDay then { t with second := second.toNat }
  else { t with date := t.date.next, second := (second - secondsPerDay).toNat }

/-! ### Reading the internet form -/

/-- What follows a given character at the start of a text. -/
def mark? (c : Char) : List Char → Option (List Char)
  | [] => none
  | d :: s => if d = c then some s else none

/-- The nanoseconds that the digits after a decimal point stand for; digits after the ninth are
passed over. -/
def fraction? (s : List Char) : Option (Nat × List Char) :=
  let (digits, rest) := Digits.run 9 s
  if digits.isEmpty then none
  else some (Digits.toNat digits * Nat.pow 10 (9 - digits.length), rest.dropWhile Char.isDigit)

/-- The optional fraction of a second. -/
def optionalFraction? : List Char → Option (Nat × List Char)
  | '.' :: s => fraction? s
  | s => some (0, s)

/-- Two digits. -/
def pair? (s : List Char) : Option (Nat × List Char) :=
  Digits.read? 2 2 s

/-- The seconds by which local time is ahead, from a sign, hours, a colon and minutes, or from
the letter that stands for universal time. -/
def offset? : List Char → Option (Int × List Char)
  | [] => none
  | c :: s =>
      if c = 'Z' ∨ c = 'z' then some (0, s)
      else if c = '+' ∨ c = '-' ∨ c = '\u2212' then do
        let (hours, s) ← pair? s
        let s ← mark? ':' s
        let (minutes, s) ← pair? s
        if hours ≤ 23 ∧ minutes ≤ 59 then
          let seconds : Int := hours * 3600 + minutes * 60
          some (if c = '+' then seconds else -seconds, s)
        else none
      else none

/-- An instant read from the internet form: a date, a separator, a time, an optional fraction
and the offset of local time. -/
def ofInternetText? (s : List Char) : Option Instant := do
  let (year, s) ← Digits.read? 4 4 s
  let s ← mark? '-' s
  let (month, s) ← pair? s
  let s ← mark? '-' s
  let (day, s) ← pair? s
  let s ← match s with
    | c :: s => if c = 'T' ∨ c = 't' ∨ c = ' ' then some s else none
    | [] => none
  let (hour, s) ← pair? s
  let s ← mark? ':' s
  let (minute, s) ← pair? s
  let s ← mark? ':' s
  let (second, s) ← pair? s
  let (nano, s) ← optionalFraction? s
  let (offset, s) ← offset? s
  if s.isEmpty then
    (ofParts? year month day hour minute second nano).map (·.shiftBack offset)
  else none

/-! ### Reading by a layout -/

/-- One item of a layout. -/
inductive Field where
  | year | month | day | hour | halfDayHour | minute | second
  /-- A fraction of a second, which may be missing. -/
  | fraction
  /-- The half of the day, `AM` or `PM`. -/
  | half
  /-- A character that has to be there. -/
  | mark (c : Char)
  /-- Any number of blanks. -/
  | gap
  deriving DecidableEq, Repr

/-- The values that fields were read as so far. -/
structure Reading where
  year : Int := 0
  month : Nat := 1
  day : Nat := 1
  hour : Nat := 0
  minute : Nat := 0
  second : Nat := 0
  nano : Nat := 0

/-- A number of at most `most` digits in a given range, after any blanks. -/
def ranged? (most low high : Nat) (s : List Char) : Option (Nat × List Char) := do
  let (n, rest) ← Digits.read? 1 most (Chars.trimStart s)
  if low ≤ n ∧ n ≤ high then some (n, rest) else none

/-- A year, after any blanks.  With a sign it may have any number of digits, without one at most
four. -/
def signedYear? (s : List Char) : Option (Int × List Char) :=
  match Chars.trimStart s with
  | '-' :: s => (Digits.read? 1 s.length s).map fun (n, rest) => (-(n : Int), rest)
  | '+' :: s => (Digits.read? 1 s.length s).map fun (n, rest) => ((n : Int), rest)
  | s => (Digits.read? 1 4 s).map fun (n, rest) => ((n : Int), rest)

/-- Whether the half of the day named at the start of a text is the second one. -/
def half? : List Char → Option (Bool × List Char)
  | a :: m :: s =>
      if m.toLower = 'm' then
        if a.toLower = 'a' then some (false, s)
        else if a.toLower = 'p' then some (true, s)
        else none
      else none
  | _ => none

/-- One field read from the start of a text. -/
def Field.read? (r : Reading) (s : List Char) : Field → Option (Reading × List Char)
  | .year => (signedYear? s).map fun (n, rest) => ({ r with year := n }, rest)
  | .month => (ranged? 2 1 12 s).map fun (n, rest) => ({ r with month := n }, rest)
  | .day => (ranged? 2 1 31 s).map fun (n, rest) => ({ r with day := n }, rest)
  | .hour => (ranged? 2 0 23 s).map fun (n, rest) => ({ r with hour := n }, rest)
  | .halfDayHour => (ranged? 2 1 12 s).map fun (n, rest) => ({ r with hour := n % 12 }, rest)
  | .minute => (ranged? 2 0 59 s).map fun (n, rest) => ({ r with minute := n }, rest)
  | .second => (ranged? 2 0 60 s).map fun (n, rest) => ({ r with second := n }, rest)
  | .fraction => (optionalFraction? s).map fun (n, rest) => ({ r with nano := n }, rest)
  | .half => (half? s).map fun (late, rest) =>
      ({ r with hour := if late then r.hour + 12 else r.hour }, rest)
  | .mark c => (mark? c s).map fun rest => (r, rest)
  | .gap => some (r, Chars.trimStart s)

/-- All fields of a layout read one after the other, up to the end of a text. -/
def readLayout? (r : Reading) : List Field → List Char → Option Reading
  | [], s => if s.isEmpty then some r else none
  | field :: layout, s =>
      match field.read? r s with
      | none => none
      | some (r, s) => readLayout? r layout s

/-- An instant read by a layout, in universal time. -/
def ofLayout? (layout : List Field) (s : List Char) : Option Instant := do
  let r ← readLayout? {} layout s
  ofParts? r.year r.month r.day r.hour r.minute r.second r.nano

/-- Year, month and day, joined by hyphens. -/
def dashedDate : List Field := [.year, .mark '-', .month, .mark '-', .day]

/-- Month, day and year, joined by slashes. -/
def slashedDate : List Field := [.month, .mark '/', .day, .mark '/', .year]

/-- The seconds of a day, counted in whole days. -/
def clock : List Field := [.hour, .mark ':', .minute, .mark ':', .second]

/-- The seconds of a day, counted in half days. -/
def halfDayClock : List Field :=
  [.halfDayHour, .mark ':', .minute, .mark ':', .second, .gap, .half]

/-- The layouts tried in turn where the internet form does not fit. -/
def layouts : List (List Field) :=
  [dashedDate ++ .mark 'T' :: clock,
   dashedDate ++ .mark 'T' :: clock ++ [.fraction],
   dashedDate ++ .gap :: clock,
   slashedDate ++ .gap :: clock,
   slashedDate ++ .gap :: halfDayClock,
   dashedDate,
   slashedDate]

/-- An instant read from text without regard to blanks at its ends. -/
def ofText? (s : List Char) : Option Instant :=
  let s := Chars.trim s
  (ofInternetText? s).or (layouts.findSome? (ofLayout? · s))

/-! ### Writing -/

/-- A year has four digits, and a sign where they do not suffice or it is negative. -/
def yearText (year : Int) : String :=
  if 0 ≤ year ∧ year ≤ 9999 then Digits.padded 4 year.toNat
  else (if year < 0 then "-" else "+") ++ Digits.padded 4 year.natAbs

/-- Date, hours, minutes and seconds; a leap second is the sixtieth. -/
def baseText (t : Instant) : String :=
  let two := Digits.padded 2
  let seconds := t.second % 60 + if nanosPerSecond ≤ t.nano then 1 else 0
  yearText t.date.year ++ "-" ++ two t.date.month ++ "-" ++ two t.date.day ++ "T" ++
    two (t.second / 3600) ++ ":" ++ two (t.second / 60 % 60) ++ ":" ++ two seconds

/-- A fraction has no digits, three, six or nine, as few as show it whole. -/
def fractionText (nano : Nat) : String :=
  if nano = 0 then ""
  else if nano % 1000000 = 0 then "." ++ Digits.padded 3 (nano / 1000000)
  else if nano % 1000 = 0 then "." ++ Digits.padded 6 (nano / 1000)
  else "." ++ Digits.padded 9 nano

/-- The internet form, with the offset of universal time written out. -/
def text (t : Instant) : String :=
  baseText t ++ fractionText (t.nano % nanosPerSecond) ++ "+00:00"

/-- The internet form down to the second, with the letter for universal time. -/
def secondsText (t : Instant) : String :=
  baseText t ++ "Z"

end Instant

end PageMigration
