import NearbyBeacons.Toml.Moment
import NearbyBeacons.Toml.Value
/-!
# Dates and times written as tables

A table whose first member has a name reserved for it stands for the date or time that the
member writes as a string. Such a string follows looser rules than a date in the text: an
offset may follow a date without a time, and hours and minutes go a little further.
-/

namespace NearbyBeacons.Toml

/-- A sign and the hours and minutes of an offset, of at most a day. -/
def wideShift? (negative : Bool) (cs : List Char) : Option (List Char) := do
  let (hours, rest) ← digits? 2 0 99 cs
  let (minutes, rest) ← digits? 2 0 99 (← mark? ':' rest)
  let total := 60 * hours + minutes
  if rest.isEmpty && total ≤ 1440 then
    some ((if negative && total ≠ 0 then '-' else '+') :: Decimal.padded 2 (total / 60) ++
      ':' :: Decimal.padded 2 (total % 60))
  else none

/-- The offset that `cs` is, if it is not empty. -/
def wideOffset? : List Char → Option (List Char)
  | [] => some []
  | ['Z'] | ['z'] => some ['Z']
  | '+' :: rest => wideShift? false rest
  | '-' :: rest => wideShift? true rest
  | _ => none

/-- What follows a date: a time, an offset, both, or nothing. -/
def wideTail? (cs : List Char) : Option (List Char) :=
  match cs with
  | 'T' :: rest | 't' :: rest | ' ' :: rest => do
    let (time, rest) ← timeUpTo? 24 rest
    some ('T' :: time ++ (← wideOffset? rest))
  | cs => wideOffset? cs

/-- The normal form of a date, a time, or both, written as a string. A colon behind two
characters tells a time from a date. -/
def wideMoment? (cs : List Char) : Option (List Char) :=
  if cs[2]? = some ':' then
    match timeUpTo? 24 cs with
    | some (time, []) => some time
    | _ => none
  else do
    let (date, rest) ← date? cs
    some (date ++ (← wideTail? rest))

/-- The name that marks a table as a date or time. -/
def momentMark : String := "$__toml_private_datetime"

/-- The normal form of the date or time that a table with these members stands for; `none`
for a table that stands for itself, and for a marked one that holds something else, nothing
in place of the normal form. -/
def markedMoment? (members : Members) : Option (Option String) :=
  match members with
  | [] => none
  | (name, v) :: _ =>
    if name = momentMark then
      match v with
      | .string s => some ((wideMoment? s.toList).map String.ofList)
      | _ => some none
    else none

end NearbyBeacons.Toml
