import Stepwise.Text.Blank

/-!
# Points in time

A point in time is written like `2024-02-03T04:05:06Z`, in Coordinated Universal Time, with three,
six or nine digits of a second where they are needed. It is read with any offset and with some
freedom: `T`, `t` or a blank before the time, fields of one digit, white space around fields, a
second 60, and the words `Z` and `UTC`.

Days are counted from the first of March of the year 0.
-/

namespace Stepwise

/-- A point in time. -/
structure Timestamp where
  /-- Seconds from the beginning of the first of March of the year 0. -/
  seconds : Int
  /-- Nanoseconds; from a thousand millions on they belong to a second 60. -/
  nanos : Nat := 0
  deriving DecidableEq, Inhabited

namespace Timestamp

/-! ## The calendar -/

/-- A day of the calendar. -/
structure Date where
  year : Int
  month : Nat
  day : Nat
  deriving DecidableEq

def isLeap (year : Int) : Bool :=
  year % 4 = 0 && (year % 100 ≠ 0 || year % 400 = 0)

def daysInMonth (year : Int) (month : Nat) : Nat :=
  if month = 2 then (if isLeap year then 29 else 28)
  else if month ∈ [4, 6, 9, 11] then 30
  else 31

/-- Whether there is such a day. -/
def Date.isValid (d : Date) : Bool :=
  1 ≤ d.month && d.month ≤ 12 && 1 ≤ d.day && d.day ≤ daysInMonth d.year d.month &&
    -262143 ≤ d.year && d.year ≤ 262142

/-- The days before a month of a year that begins in March. -/
def daysBefore (month : Nat) : Nat := (153 * month + 2) / 5

/-- The number of a day. -/
def Date.toDays (d : Date) : Int :=
  let year := if d.month ≤ 2 then d.year - 1 else d.year
  let month := (d.month + 9) % 12
  365 * year + year / 4 - year / 100 + year / 400 + daysBefore month + (d.day - 1 : Nat)

/-- The day of a number. -/
def Date.ofDays (days : Int) : Date :=
  let era := days / 146097
  let day := (days % 146097).toNat
  let year := (day - day / 1460 + day / 36524 - day / 146096) / 365
  let dayOfYear := day - (365 * year + year / 4 - year / 100)
  let month := (5 * dayOfYear + 2) / 153
  { year := (year : Int) + 400 * era + (if 10 ≤ month then 1 else 0)
    month := if month < 10 then month + 3 else month - 9
    day := dayOfYear - daysBefore month + 1 }

/-! ## Writing -/

/-- A number with at least `width` digits. -/
def padded (width n : Nat) : List Char :=
  let ds := Nat.toDigits 10 n
  List.replicate (width - ds.length) '0' ++ ds

/-- A year; outside of four digits it has a sign. -/
def yearText (year : Int) : List Char :=
  if 0 ≤ year && year ≤ 9999 then padded 4 year.toNat
  else (if year < 0 then '-' else '+') :: padded 4 year.natAbs

/-- The digits of a second, as few groups of three as needed. -/
def fractionText (nanos : Nat) : List Char :=
  if nanos = 0 then []
  else if nanos % 1000000 = 0 then '.' :: padded 3 (nanos / 1000000)
  else if nanos % 1000 = 0 then '.' :: padded 6 (nanos / 1000)
  else '.' :: padded 9 nanos

/-- A point in time as it is written. -/
def text (t : Timestamp) : String :=
  let d := Date.ofDays (t.seconds / 86400)
  let time := (t.seconds % 86400).toNat
  let extra := t.nanos / 1000000000
  String.ofList <|
    yearText d.year ++ ['-'] ++ padded 2 d.month ++ ['-'] ++ padded 2 d.day ++ ['T'] ++
    padded 2 (time / 3600) ++ [':'] ++ padded 2 (time / 60 % 60) ++ [':'] ++
    padded 2 (time % 60 + extra) ++ fractionText (t.nanos % 1000000000) ++ ['Z']

/-! ## Reading -/

/-- What follows white space. -/
def skipBlank (cs : List Char) : List Char := cs.dropWhile Text.isBlank

/-- Read one to `width` digits after white space. -/
def readField (width : Nat) (cs : List Char) : Option (Nat × List Char) :=
  let cs := skipBlank cs
  let ds := (cs.take width).takeWhile Char.isDigit
  if ds.isEmpty then none
  else some (ds.foldl (fun n c => 10 * n + (c.toNat - '0'.toNat)) 0, cs.drop ds.length)

/-- Read a character after white space. -/
def readMark (c : Char) (cs : List Char) : Option (Unit × List Char) :=
  match skipBlank cs with
  | d :: cs => if c = d then some ((), cs) else none
  | [] => none

/-- Read a year. With a sign it may have any number of digits. -/
def readYear (cs : List Char) : Option (Int × List Char) :=
  let unlimited (cs : List Char) : Option (Nat × List Char) :=
    if cs.head?.any Char.isDigit then readField cs.length cs else none
  match skipBlank cs with
  | '-' :: cs => (unlimited cs).map fun (n, cs) => (-(n : Int), cs)
  | '+' :: cs => (unlimited cs).map fun (n, cs) => ((n : Int), cs)
  | cs => (readField 4 cs).map fun (n, cs) => ((n : Int), cs)

/-- Read the digits of a second after a point; those after the ninth do not count. -/
def readFraction : List Char → Option (Nat × List Char)
  | '.' :: cs =>
    let ds := cs.takeWhile Char.isDigit
    let counted := ds.take 9
    if ds.isEmpty then none
    else
      let n := counted.foldl (fun n c => 10 * n + (c.toNat - '0'.toNat)) 0
      some (n * Nat.pow 10 (9 - counted.length), cs.drop ds.length)
  | cs => some (0, cs)

/-- Read two digits. -/
def readPair : List Char → Option (Nat × List Char)
  | a :: b :: cs =>
    if a.isDigit && b.isDigit then some (10 * (a.toNat - '0'.toNat) + (b.toNat - '0'.toNat), cs)
    else none
  | _ => none

/-- Read an offset in seconds. -/
def readOffset (cs : List Char) : Option (Int × List Char) :=
  match cs with
  | [] => none
  | c :: rest =>
    if (cs.take 3).map Char.toUpper = ['U', 'T', 'C'] then some (0, cs.drop 3)
    else if c = 'Z' || c = 'z' then some (0, rest)
    else if c = '+' || c = '-' || c = '\u2212' then do
      let (hours, rest) ← readPair rest
      let (minutes, rest) ← readPair (rest.dropWhile fun c => c = ':' || Text.isBlank c)
      if 60 ≤ minutes || 24 ≤ hours then none
      let seconds : Int := hours * 3600 + minutes * 60
      some (if c = '+' then seconds else -seconds, rest)
    else none

/-- The point in time that a text gives. -/
def ofText? (text : String) : Option Timestamp := do
  let (year, cs) ← readYear text.toList
  let (_, cs) ← readMark '-' cs
  let (month, cs) ← readField 2 cs
  let (_, cs) ← readMark '-' cs
  let (day, cs) ← readField 2 cs
  let cs ← match cs with
    | 'T' :: cs | 't' :: cs | ' ' :: cs => some cs
    | _ => none
  let (hour, cs) ← readField 2 cs
  let (_, cs) ← readMark ':' cs
  let (minute, cs) ← readField 2 cs
  let (_, cs) ← readMark ':' cs
  let (second, cs) ← readField 2 cs
  let (nanos, cs) ← readFraction cs
  let (offset, cs) ← readOffset (skipBlank cs)
  let date : Date := ⟨year, month, day⟩
  if !date.isValid || 23 < hour || 59 < minute || 60 < second || !(skipBlank cs).isEmpty then none
  let clock : Int := hour * 3600 + minute * 60 + min second 59
  let extra := if second = 60 then 1000000000 else 0
  some { seconds := date.toDays * 86400 + clock - offset, nanos := nanos + extra }

end Timestamp

end Stepwise
