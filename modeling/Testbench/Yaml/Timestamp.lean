/-!
Which plain scalars are timestamps.

A timestamp starts with a year of exactly four digits and a dash. It is then a date, a month and
a day of one or two digits each, alone or followed by a time: `T` or `t` and a time with a zone,
or one or more spaces and a time without one. A time is an hour, minute and second of one or two
digits each, joined by colons, with an optional fraction of any number of digits after a point
or a comma. A zone is `Z` or a sign, two digits of hours, a colon and two digits of minutes. The
month must be 1 to 12, the day must exist in that month of that year, the hour must be below 24,
minutes and seconds below 60, and a zone at most 24 hours and 60 minutes. Where a field may have
two digits, a second digit is always taken.
-/

namespace Testbench.Yaml.Timestamp

/-- The value of a decimal digit character. -/
def digitValue (c : Char) : Nat := c.toNat - '0'.toNat

/-- Reads a field of one or two digits, a second digit whenever there is one. -/
def shortNumber : List Char → Option (Nat × List Char)
  | a :: b :: rest =>
    if !a.isDigit then none
    else if b.isDigit then some (10 * digitValue a + digitValue b, rest)
    else some (digitValue a, b :: rest)
  | [a] => if a.isDigit then some (digitValue a, []) else none
  | [] => none

/-- Reads exactly two digits. -/
def twoDigits : List Char → Option Nat
  | [a, b] => if a.isDigit && b.isDigit then some (10 * digitValue a + digitValue b) else none
  | _ => none

/-- Is the year a leap year? -/
def leapYear (year : Nat) : Bool := year % 4 == 0 && (year % 100 != 0 || year % 400 == 0)

/-- The number of days of a month, from 1, in a year. -/
def daysIn (month year : Nat) : Nat :=
  if month == 2 then (if leapYear year then 29 else 28)
  else if month == 4 || month == 6 || month == 9 || month == 11 then 30
  else 31

/-- Reads a date, giving the characters after it if the fields are in range. -/
def date (chars : List Char) : Option (List Char) := do
  let yearDigits := chars.take 4
  if yearDigits.length != 4 || !yearDigits.all Char.isDigit then none
  let year := yearDigits.foldl (fun acc c => 10 * acc + digitValue c) 0
  let rest ← match chars.drop 4 with
    | '-' :: rest => some rest
    | _ => none
  let (month, rest) ← shortNumber rest
  let rest ← match rest with
    | '-' :: rest => some rest
    | _ => none
  let (day, rest) ← shortNumber rest
  if month < 1 || month > 12 then none
  if day < 1 || day > daysIn month year then none
  some rest

/-- Drops an optional fraction of a second: a point or comma and at least one digit. -/
def dropFraction : List Char → List Char
  | mark :: d :: rest =>
    if (mark == '.' || mark == ',') && d.isDigit then rest.dropWhile Char.isDigit else mark :: d :: rest
  | chars => chars

/-- Reads a time of day with an optional fraction, giving the characters after it if the fields
are in range. -/
def time (chars : List Char) : Option (List Char) := do
  let (hour, rest) ← shortNumber chars
  let rest ← match rest with
    | ':' :: rest => some rest
    | _ => none
  let (minute, rest) ← shortNumber rest
  let rest ← match rest with
    | ':' :: rest => some rest
    | _ => none
  let (second, rest) ← shortNumber rest
  if hour ≥ 24 || minute ≥ 60 || second ≥ 60 then none
  some (dropFraction rest)

/-- Is the text exactly a zone? -/
def zone : List Char → Bool
  | ['Z'] => true
  | sign :: h1 :: h2 :: ':' :: m1 :: m2 :: [] =>
    (sign == '+' || sign == '-') &&
      (match twoDigits [h1, h2], twoDigits [m1, m2] with
       | some hours, some minutes => hours ≤ 24 && minutes ≤ 60
       | _, _ => false)
  | _ => false

/-- Is the text a timestamp? -/
def isTimestamp (text : String) : Bool :=
  let chars := text.toList
  match date chars with
  | none => false
  | some [] => true
  | some (separator :: rest) =>
    if separator == 'T' || separator == 't' then
      match time rest with
      | some after => zone after
      | none => false
    else if separator == ' ' then
      match time (rest.dropWhile (· == ' ')) with
      | some [] => true
      | _ => false
    else false

end Testbench.Yaml.Timestamp
