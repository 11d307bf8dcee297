import LatencyHarness.Text.Blank
import LatencyHarness.Text.Numeral

/-! Points in time as they are written in reports: a UTC date with a time of day, to the
nanosecond.

The written form has the date, `T`, the time with none, three, six or nine decimals, and `Z`.
Reading is more lenient: blanks around the numbers, numbers without leading zeros, any UTC
offset below a day. -/
namespace LatencyHarness

open Text

/-- A day of the Gregorian calendar. -/
structure Date where
  year : Int
  month : Nat
  day : Nat
  deriving DecidableEq, Repr

namespace Date

def isLeap (year : Int) : Bool := year % 4 == 0 && (year % 100 != 0 || year % 400 == 0)

def daysIn (year : Int) (month : Nat) : Nat :=
  if month = 2 then (if isLeap year then 29 else 28)
  else if month = 4 ∨ month = 6 ∨ month = 9 ∨ month = 11 then 30 else 31

/-- The years that can be represented. -/
def firstYear : Int := -262143
def lastYear : Int := 262142

/-- Whether the date is one of the calendar. -/
def isValid (d : Date) : Bool :=
  firstYear ≤ d.year && d.year ≤ lastYear && 1 ≤ d.month && d.month ≤ 12 &&
    1 ≤ d.day && d.day ≤ daysIn d.year d.month

def next (d : Date) : Date :=
  if d.day < daysIn d.year d.month then { d with day := d.day + 1 }
  else if d.month < 12 then ⟨d.year, d.month + 1, 1⟩
  else ⟨d.year + 1, 1, 1⟩

def previous (d : Date) : Date :=
  if 1 < d.day then { d with day := d.day - 1 }
  else if 1 < d.month then ⟨d.year, d.month - 1, daysIn d.year (d.month - 1)⟩
  else ⟨d.year - 1, 12, 31⟩

end Date

/-- A UTC date and time. A leap second is the last second of its minute with `nano` counted on
from 10^9. -/
structure Timestamp where
  date : Date
  /-- the second of the day -/
  second : Nat
  nano : Nat
  deriving DecidableEq, Repr

namespace Timestamp

def secondsPerDay : Nat := 86400

def nanosPerSecond : Nat := 1000000000

/-- The parts of a timestamp, the largest unit first. -/
def parts (t : Timestamp) : List Int :=
  [t.date.year, t.date.month, t.date.day, t.second, t.nano]

/-- Whether one timestamp is not after another. -/
def le (a b : Timestamp) : Bool := !List.lex b.parts a.parts (fun x y => decide (x < y))

/-! ### Writing -/

/-- The numeral of `n` with zeros in front, up to `width` digits. -/
def padded (width n : Nat) : List Char :=
  let digits := numeral n
  List.replicate (width - digits.length) '0' ++ digits

def yearText (year : Int) : List Char :=
  if 0 ≤ year ∧ year ≤ 9999 then padded 4 year.toNat
  else (if year < 0 then '-' else '+') :: padded 4 year.natAbs

/-- The decimals of a fraction of a second: none, three, six or nine. -/
def fractionText (nano : Nat) : List Char :=
  if nano = 0 then []
  else if nano % 1000000 = 0 then '.' :: padded 3 (nano / 1000000)
  else if nano % 1000 = 0 then '.' :: padded 6 (nano / 1000)
  else '.' :: padded 9 nano

def write (t : Timestamp) : List Char :=
  let leap := t.nano / nanosPerSecond
  yearText t.date.year ++ '-' :: padded 2 t.date.month ++ '-' :: padded 2 t.date.day ++
    'T' :: padded 2 (t.second / 3600) ++ ':' :: padded 2 (t.second / 60 % 60) ++
    ':' :: padded 2 (t.second % 60 + leap) ++ fractionText (t.nano % nanosPerSecond) ++ ['Z']

/-! ### Reading -/

/-- Reads a number of at most `width` digits, after blanks. -/
def number? (width : Nat) (s : List Char) : Option (Nat × List Char) :=
  let s := trimStart s
  let digits := (s.take width).takeWhile (·.isDigit)
  if digits.isEmpty then none
  else (nat? maxI64 digits).map fun n => (n, s.drop digits.length)

/-- Reads a year: with a sign it may have any number of digits, without one at most four. -/
def year? (s : List Char) : Option (Int × List Char) :=
  let signed := fun (s : List Char) =>
    if (s.head?.map Char.isDigit).getD false then number? s.length s else none
  match trimStart s with
  | '-' :: r => (signed r).map fun (n, r) => (-(n : Int), r)
  | '+' :: r => (signed r).map fun (n, r) => ((n : Int), r)
  | s => (number? 4 s).map fun (n, r) => ((n : Int), r)

/-- Reads past one character, after blanks. -/
def mark? (c : Char) (s : List Char) : Option (List Char) :=
  match trimStart s with
  | d :: r => if d = c then some r else none
  | [] => none

/-- Reads the decimals of a second; those after the ninth are dropped. -/
def fraction? : List Char → Option (Nat × List Char)
  | '.' :: r =>
    let digits := r.takeWhile (·.isDigit)
    let kept := digits.take 9
    if digits.isEmpty then none
    else (nat? maxU64 kept).map fun n =>
      (n * Nat.pow 10 (9 - kept.length), r.drop digits.length)
  | s => some (0, s)

def isSeparator (c : Char) : Bool := c == ':' || isBlank c

/-- Reads two digits. -/
def twoDigits? : List Char → Option (Nat × List Char)
  | a :: b :: r =>
    match digit? a, digit? b with
    | some m, some n => some (10 * m + n, r)
    | _, _ => none
  | _ => none

/-- Reads a UTC offset in seconds. -/
def offset? (s : List Char) : Option (Int × List Char) :=
  let hoursMinutes := fun (sign : Int) (r : List Char) => do
    let (h, r) ← twoDigits? r
    let (m, r) ← twoDigits? (r.dropWhile isSeparator)
    if m < 60 ∧ h < 24 then some (sign * (h * 3600 + m * 60 : Nat), r) else none
  match s with
  | 'Z' :: r => some (0, r)
  | 'z' :: r => some (0, r)
  | '+' :: r => hoursMinutes 1 r
  | '-' :: r => hoursMinutes (-1) r
  | '−' :: r => hoursMinutes (-1) r
  | u :: t :: c :: r =>
    if [u.toUpper, t.toUpper, c.toUpper] = ['U', 'T', 'C'] then some (0, r) else none
  | _ => none

/-- The timestamp of a local date and time at a UTC offset. -/
def ofLocal? (d : Date) (second nano : Nat) (offset : Int) : Option Timestamp :=
  let utc := (second : Int) - offset
  let t : Timestamp :=
    if utc < 0 then ⟨d.previous, (utc + secondsPerDay).toNat, nano⟩
    else if utc < secondsPerDay then ⟨d, utc.toNat, nano⟩
    else ⟨d.next, (utc - secondsPerDay).toNat, nano⟩
  if d.isValid && t.date.isValid then some t else none

/-- The timestamp that a text stands for. -/
def read? (s : List Char) : Option Timestamp := do
  let (year, s) ← year? s
  let s ← mark? '-' s
  let (month, s) ← number? 2 s
  let s ← mark? '-' s
  let (day, s) ← number? 2 s
  let s ← match s with
    | c :: r => if c = 't' ∨ c = 'T' ∨ c = ' ' then some r else none
    | [] => none
  let (hour, s) ← number? 2 s
  let s ← mark? ':' s
  let (minute, s) ← number? 2 s
  let s ← mark? ':' s
  let (second, s) ← number? 2 s
  let (nano, s) ← fraction? s
  let (offset, s) ← offset? (trimStart s)
  if ¬ isBlankText s then none
  if 24 ≤ hour ∨ 60 ≤ minute ∨ 60 < second then none
  let leap := second / 60
  ofLocal? ⟨year, month, day⟩ (hour * 3600 + minute * 60 + (second - leap))
    (nano + leap * nanosPerSecond) offset

end Timestamp

end LatencyHarness
