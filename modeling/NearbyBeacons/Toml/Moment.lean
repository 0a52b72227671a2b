import NearbyBeacons.Decimal
import NearbyBeacons.Time.Calendar
/-!
# Dates and times of a TOML text

A date, a time, or a date and a time with an offset or without one. They are kept in the
normal form of their text: `T` between date and time, `Z` for no offset, up to nine digits
of a fraction and no zeros at its end.
-/

namespace NearbyBeacons.Toml

/-- Exactly `width` digits that name a number from `low` to `high`. -/
def digits? (width low high : Nat) (cs : List Char) : Option (Nat × List Char) :=
  let run := cs.take width
  if run.length = width ∧ run.all Char.isDigit = true ∧ low ≤ Decimal.value run ∧
      Decimal.value run ≤ high then
    some (Decimal.value run, cs.drop width)
  else none

/-- The character `c`. -/
def mark? (c : Char) : List Char → Option (List Char)
  | x :: rest => if x = c then some rest else none
  | [] => none

/-- A date of the calendar. -/
def date? (cs : List Char) : Option (List Char × List Char) := do
  let (year, rest) ← digits? 4 0 9999 cs
  let (month, rest) ← digits? 2 1 12 (← mark? '-' rest)
  let (day, rest) ← digits? 2 1 31 (← mark? '-' rest)
  if Calendar.daysInMonth year month < day then none
  else some (Decimal.padded 4 year ++ '-' :: Decimal.padded 2 month ++
    '-' :: Decimal.padded 2 day, rest)

/-- A fraction of a second, if there is one: digits past the ninth are cut off. -/
def fraction (cs : List Char) : List Char × List Char :=
  match cs with
  | '.' :: rest =>
    match rest.takeWhile Char.isDigit with
    | [] => ([], cs)
    | run =>
      let kept := ((run.take 9).reverse.dropWhile (· == '0')).reverse
      (if kept.isEmpty then [] else '.' :: kept, rest.drop run.length)
  | cs => ([], cs)

/-- A time with an hour up to `lastHour`. Every minute may have a second 60. -/
def timeUpTo? (lastHour : Nat) (cs : List Char) : Option (List Char × List Char) := do
  let (hour, rest) ← digits? 2 0 lastHour cs
  let (minute, rest) ← digits? 2 0 59 (← mark? ':' rest)
  let (second, rest) ← digits? 2 0 60 (← mark? ':' rest)
  let (fraction, rest) := fraction rest
  some (Decimal.padded 2 hour ++ ':' :: Decimal.padded 2 minute ++
    ':' :: Decimal.padded 2 second ++ fraction, rest)

/-- A time of the day. -/
def time? (cs : List Char) : Option (List Char × List Char) := timeUpTo? 23 cs

/-- The hours and minutes of an offset. -/
def shift? (negative : Bool) (cs : List Char) : Option (List Char × List Char) := do
  let (hours, rest) ← digits? 2 0 23 cs
  let (minutes, rest) ← digits? 2 0 59 (← mark? ':' rest)
  let sign := if negative && 0 < 60 * hours + minutes then '-' else '+'
  some (sign :: Decimal.padded 2 hours ++ ':' :: Decimal.padded 2 minutes, rest)

/-- The offset of a date and time, if there is one. -/
def offset? : List Char → Option (List Char × List Char)
  | 'Z' :: rest | 'z' :: rest => some (['Z'], rest)
  | '+' :: rest => shift? false rest
  | '-' :: rest => shift? true rest
  | cs => some ([], cs)

/-- The time that follows a date, with its offset, if there is one. -/
def timeAfterDate? (cs : List Char) : Option (List Char × List Char) :=
  match cs with
  | 'T' :: rest | 't' :: rest | ' ' :: rest =>
    match time? rest with
    | some (time, rest) =>
      (offset? rest).map fun (offset, rest) => ('T' :: time ++ offset, rest)
    | none => some ([], cs)
  | cs => some ([], cs)

/-- A date, a time, or both. -/
def moment? (cs : List Char) : Option (List Char × List Char) :=
  match date? cs with
  | some (date, rest) => (timeAfterDate? rest).map fun (time, rest) => (date ++ time, rest)
  | none => time? cs

end NearbyBeacons.Toml
