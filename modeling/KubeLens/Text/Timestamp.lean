import KubeLens.Text.Blank
import KubeLens.Text.Numeral

/-!
# Timestamps

A timestamp is a date and a time of day to the second, in universal time.  It is read from a
date, a `T` or a blank, a time with an optional fraction, and an offset from universal time;
blanks may stand between the parts.  It is written with a `Z` and without a fraction.
-/

namespace KubeLens

/-- A day of the Gregorian calendar. -/
structure Day where
  year : Int
  month : Nat
  day : Nat
  deriving DecidableEq, Repr

namespace Day

/-- Whether a year has a 29th of February. -/
def isLeapYear (year : Int) : Bool :=
  year % 4 == 0 && (year % 100 != 0 || year % 400 == 0)

/-- How many days a month has. -/
def daysIn (year : Int) (month : Nat) : Nat :=
  if month == 2 then if isLeapYear year then 29 else 28
  else if [4, 6, 9, 11].contains month then 30
  else 31

/-- Whether the day is in the calendar. -/
def isValid (date : Day) : Bool :=
  1 ≤ date.month && date.month ≤ 12 && 1 ≤ date.day && date.day ≤ daysIn date.year date.month

/-- The day after a day. -/
def next (date : Day) : Day :=
  if date.day < daysIn date.year date.month then { date with day := date.day + 1 }
  else if date.month < 12 then { date with month := date.month + 1, day := 1 }
  else ⟨date.year + 1, 1, 1⟩

/-- The day before a day. -/
def previous (date : Day) : Day :=
  if 1 < date.day then { date with day := date.day - 1 }
  else if 1 < date.month then
    { date with month := date.month - 1, day := daysIn date.year (date.month - 1) }
  else ⟨date.year - 1, 12, 31⟩

end Day

/-- A second of a day, in universal time.  A leap second has the number 60. -/
structure Timestamp where
  date : Day
  /-- The minute of the day. -/
  minute : Nat
  second : Nat
  deriving DecidableEq, Repr

namespace Timestamp

open Text (isBlank isDigit digitsValue)

/-- Reads at least one and at most `width` digits. -/
def readShort (width : Nat) (cs : List Char) : Option (Nat × List Char) :=
  match (cs.take width).takeWhile isDigit with
  | [] => none
  | digits => some (digitsValue digits, cs.drop digits.length)

/-- Reads a number of at most two digits after blanks. -/
def readPart (cs : List Char) : Option (Nat × List Char) :=
  readShort 2 (cs.dropWhile isBlank)

/-- Reads a year after blanks: at most four digits, or any number of them after a sign. -/
def readYear (cs : List Char) : Option (Int × List Char) :=
  match cs.dropWhile isBlank with
  | '-' :: rest => (readShort rest.length rest).map fun (size, rest) => (-(size : Int), rest)
  | '+' :: rest => (readShort rest.length rest).map fun (size, rest) => ((size : Int), rest)
  | rest => (readShort 4 rest).map fun (size, rest) => ((size : Int), rest)

/-- What follows a mark that stands after blanks. -/
def readMark (mark : Char) (cs : List Char) : Option (List Char) :=
  match cs.dropWhile isBlank with
  | c :: rest => if c = mark then some rest else none
  | [] => none

/-- What follows the mark between a date and a time. -/
def readDivide : List Char → Option (List Char)
  | c :: rest => if c == 'T' || c == 't' || c == ' ' then some rest else none
  | [] => none

/-- What follows an optional fraction of a second. -/
def skipFraction : List Char → Option (List Char)
  | '.' :: rest =>
    match rest.takeWhile isDigit with
    | [] => none
    | _ :: _ => some (rest.dropWhile isDigit)
  | cs => some cs

/-- Reads the hours and minutes of an offset: both have two digits. -/
def readSpan (cs : List Char) : Option (Int × List Char) :=
  match cs with
  | a :: b :: rest =>
    match rest.dropWhile fun c => c == ':' || isBlank c with
    | c :: d :: rest =>
      if [a, b, c, d].all isDigit && digitsValue [c] ≤ 5 && digitsValue [a, b] < 24 then
        some (((digitsValue [a, b] * 60 + digitsValue [c, d] : Nat) : Int), rest)
      else none
    | _ => none
  | _ => none

/-- Reads an offset from universal time, in minutes. -/
def readOffset (cs : List Char) : Option (Int × List Char) :=
  if (cs.take 3).map Char.toUpper == ['U', 'T', 'C'] then some (0, cs.drop 3)
  else
    match cs with
    | c :: rest =>
      if c == 'Z' || c == 'z' then some (0, rest)
      else if c == '+' then readSpan rest
      else if c == '-' || c == '\u2212' then
        (readSpan rest).map fun (size, rest) => (-size, rest)
      else none
    | [] => none

/-- The timestamp of a local time whose clock is `offset` minutes ahead. -/
def ofLocal (date : Day) (minute : Nat) (second : Nat) (offset : Int) : Timestamp :=
  let minute := (minute : Int) - offset
  if minute < 0 then ⟨date.previous, (minute + 1440).toNat, second⟩
  else if 1440 ≤ minute then ⟨date.next, (minute - 1440).toNat, second⟩
  else ⟨date, minute.toNat, second⟩

/-- The years that can be written. -/
def isYear (year : Int) : Bool :=
  -262143 ≤ year && year ≤ 262142

/-- Reads a timestamp. -/
def parse? (text : String) : Option Timestamp := do
  let (year, rest) ← readYear text.toList
  let rest ← readMark '-' rest
  let (month, rest) ← readPart rest
  let rest ← readMark '-' rest
  let (day, rest) ← readPart rest
  let rest ← readDivide rest
  let (hour, rest) ← readPart rest
  let rest ← readMark ':' rest
  let (minute, rest) ← readPart rest
  let rest ← readMark ':' rest
  let (second, rest) ← readPart rest
  let rest ← skipFraction rest
  let (offset, rest) ← readOffset (rest.dropWhile isBlank)
  let date : Day := ⟨year, month, day⟩
  if rest.all isBlank && isYear year && date.isValid && hour < 24 && minute < 60 && second ≤ 60
  then some (ofLocal date (hour * 60 + minute) second offset)
  else none

/-- A number with zeros in front, up to `width` digits. -/
def padded (width n : Nat) : String :=
  let digits := Nat.toDigits 10 n
  String.ofList (List.replicate (width - digits.length) '0' ++ digits)

/-- A year: four digits, or a sign and at least four digits outside their range. -/
def yearText (year : Int) : String :=
  if 0 ≤ year && year ≤ 9999 then padded 4 year.toNat
  else if year < 0 then "-" ++ padded 4 year.natAbs
  else "+" ++ padded 4 year.natAbs

/-- The text of a timestamp. -/
def render (time : Timestamp) : String :=
  yearText time.date.year ++ "-" ++ padded 2 time.date.month ++ "-" ++ padded 2 time.date.day ++
    "T" ++ padded 2 (time.minute / 60) ++ ":" ++ padded 2 (time.minute % 60) ++ ":" ++
    padded 2 time.second ++ "Z"

end Timestamp
end KubeLens
