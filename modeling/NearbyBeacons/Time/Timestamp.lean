import NearbyBeacons.Decimal
import NearbyBeacons.Text.Blank
import NearbyBeacons.Time.Calendar
import NearbyBeacons.Time.Instant
/-!
# Timestamps

The written form of instants, RFC 3339 in UTC. Writing is strict: four digits of a
year, or a sign and at least four; no fraction, or the shortest exact one of three,
six or nine digits; a leap second as second 60. Reading is loose: blanks between
the parts, short numbers, a space in place of the `T`, offsets, any number of
fraction digits.
-/

namespace NearbyBeacons.Timestamp

/-! ### Writing -/

/-- A year: four digits, or a sign and at least four digits outside 0 to 9999. -/
def yearText (year : Int) : List Char :=
  if 0 ≤ year ∧ year ≤ 9999 then Decimal.padded 4 year.toNat
  else (if year < 0 then '-' else '+') :: Decimal.padded 4 year.natAbs

/-- The shortest exact fraction of three, six or nine digits, or none at all. -/
def fractionText (nano : Nat) : List Char :=
  if nano = 0 then []
  else if nano % 1000000 = 0 then '.' :: Decimal.padded 3 (nano / 1000000)
  else if nano % 1000 = 0 then '.' :: Decimal.padded 6 (nano / 1000)
  else '.' :: Decimal.padded 9 nano

/-- The timestamp of an instant. -/
def ofInstant (t : Instant) : List Char :=
  let date := Calendar.ofDayNumber (t.second / 86400)
  let time := (t.second % 86400).toNat
  let extra := t.nano / 1000000000
  yearText date.year ++ '-' :: Decimal.padded 2 date.month ++ '-' :: Decimal.padded 2 date.day ++
    'T' :: Decimal.padded 2 (time / 3600) ++ ':' :: Decimal.padded 2 (time / 60 % 60) ++
    ':' :: Decimal.padded 2 (time % 60 + extra) ++ fractionText (t.nano % 1000000000) ++ ['Z']

/-! ### Reading

Every step takes the characters that are left and returns what it read together
with what is left after it. -/

/-- The digits that `cs` starts with, at most `most` of them. -/
def takeDigits (most : Nat) (cs : List Char) : List Char × List Char :=
  let run := (cs.take most).takeWhile Char.isDigit
  (run, cs.drop run.length)

/-- A number of one to `most` digits, after any blanks. -/
def number? (most : Nat) (cs : List Char) : Option (Nat × List Char) :=
  match takeDigits most (Text.trimStart cs) with
  | ([], _) => none
  | (run, rest) => some (Decimal.value run, rest)

/-- A year, after any blanks: up to four digits, or a sign and any number of them. -/
def year? (cs : List Char) : Option (Int × List Char) :=
  let whole (cs : List Char) : Option (Nat × List Char) :=
    match cs.takeWhile Char.isDigit with
    | [] => none
    | run => some (Decimal.value run, cs.dropWhile Char.isDigit)
  match Text.trimStart cs with
  | '-' :: rest => (whole rest).map fun (n, rest) => (-(n : Int), rest)
  | '+' :: rest => (whole rest).map fun (n, rest) => ((n : Int), rest)
  | rest => (number? 4 rest).map fun (n, rest) => ((n : Int), rest)

/-- The character `c`, after any blanks. -/
def mark? (c : Char) (cs : List Char) : Option (List Char) :=
  match Text.trimStart cs with
  | [] => none
  | x :: rest => if x = c then some rest else none

/-- The fraction of a second in nanoseconds: nothing, or a point and at least one
digit. Digits after the ninth are dropped. -/
def fraction? (cs : List Char) : Option (Nat × List Char) :=
  match cs with
  | '.' :: rest =>
    match rest.takeWhile Char.isDigit with
    | [] => none
    | run =>
      some (Decimal.value ((run ++ List.replicate 9 '0').take 9), rest.dropWhile Char.isDigit)
  | _ => some (0, cs)

/-- Two digits. -/
def twoDigits? : List Char → Option (Nat × List Char)
  | a :: b :: rest =>
    if a.isDigit && b.isDigit then some (Decimal.value [a, b], rest) else none
  | _ => none

/-- Whether the three characters spell `UTC` in either case. -/
def isUtc (a b c : Char) : Bool :=
  a.toUpper == 'U' && b.toUpper == 'T' && c.toUpper == 'C'

/-- A signed offset: two digits of hours, any colons and blanks, two digits of
minutes below sixty. -/
def signedOffset? (sign : Int) (cs : List Char) : Option (Int × List Char) := do
  let (hours, rest) ← twoDigits? cs
  let (minutes, rest) ← twoDigits? (rest.dropWhile fun c => c == ':' || Text.isBlank c)
  if 60 ≤ minutes then none else some (sign * (3600 * hours + 60 * minutes), rest)

/-- The distance of the local time from UTC in seconds: zero for `Z` or `UTC`. The
minus sign may be a hyphen or U+2212. -/
def offset? : List Char → Option (Int × List Char)
  | 'Z' :: rest | 'z' :: rest => some (0, rest)
  | '+' :: rest => signedOffset? 1 rest
  | '-' :: rest | '−' :: rest => signedOffset? (-1) rest
  | a :: b :: c :: rest => if isUtc a b c then some (0, rest) else none
  | _ => none

/-- The mark between date and time: `T` or `t`, or one space. -/
def separator? : List Char → Option (List Char)
  | 'T' :: rest | 't' :: rest | ' ' :: rest => some rest
  | _ => none

/-- A year that the calendar of instants reaches. -/
def isNearYear (year : Int) : Bool := -262143 ≤ year && year ≤ 262142

/-- The instant of a local date and time. Second 60 is a leap second. The local date,
and the date in UTC, have to lie in the years of instants, and the offset within a
day. -/
def assemble? (date : Calendar.Date) (hour minute second nano : Nat) (offset : Int) :
    Option Instant :=
  if !isNearYear date.year || !date.isValid || 24 ≤ hour || 60 ≤ minute || 61 ≤ second ||
      86400 ≤ offset.natAbs then none
  else
    -- a leap second is kept as the second before it with a longer fraction
    let leap := second == 60
    let time : Nat := 3600 * hour + 60 * minute + (if leap then 59 else second)
    Instant.of? (86400 * Calendar.dayNumber date + time - offset)
      (nano + if leap then 1000000000 else 0)

/-- The instant that a timestamp names. -/
def instant? (cs : List Char) : Option Instant := do
  let (year, rest) ← year? cs
  let (month, rest) ← number? 2 (← mark? '-' rest)
  let (day, rest) ← number? 2 (← mark? '-' rest)
  let (hour, rest) ← number? 2 (← separator? rest)
  let (minute, rest) ← number? 2 (← mark? ':' rest)
  let (second, rest) ← number? 2 (← mark? ':' rest)
  let (nano, rest) ← fraction? rest
  let (offset, rest) ← offset? (Text.trimStart rest)
  if (Text.trimStart rest).isEmpty then
    assemble? { year, month, day } hour minute second nano offset
  else none

end NearbyBeacons.Timestamp
