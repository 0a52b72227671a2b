import NearbyBeacons.Binary64.Basic
/-!
# TOML values and the growth of tables

A TOML text fills one table, statement by statement. What may still be added to a table
depends on how it came to be: a table with a header of its own is complete once another
header follows, a table that only leads to others may still get its header, a table
that dotted keys made takes further dotted keys, and a table written as a value is
closed.
-/

namespace NearbyBeacons.Toml

/-- How a table came to be. -/
inductive Origin where
  /-- By a header of its own, or as the whole text. -/
  | header
  /-- On the way to a table that a header names. -/
  | implied
  /-- On the way to a value that a dotted key names. -/
  | dotted
  /-- As a value. -/
  | inline
  deriving DecidableEq, Repr

/-- A TOML value. Tables keep their members in the order of the text. -/
inductive Value where
  | string (s : String)
  | integer (n : Int)
  | float (x : Binary64)
  | bool (b : Bool)
  /-- A date, a time or both, in the normal form of its text. -/
  | moment (text : String)
  | array (items : List Value)
  | table (origin : Origin) (members : List (String × Value))
  /-- The tables that headers in double brackets made, the last one apart. -/
  | tables (earlier : List (List (String × Value))) (last : List (String × Value))
  deriving Inhabited

/-- The members of a table. -/
abbrev Members := List (String × Value)

namespace Members

/-- `members` with `value` in place of the value of `name`, which is one of them. -/
def replace (name : String) (value : Value) : Members → Members
  | [] => []
  | (n, v) :: rest => if n = name then (n, value) :: rest else (n, v) :: replace name value rest

/-- One more member, unless the name is taken. -/
def insertNew? (name : String) (value : Value) (members : Members) : Option Members :=
  if (members.lookup name).isSome then none else some (members ++ [(name, value)])

/-- Applies `f` to the table that `path` leads to, starting from a table of the given
origin; tables that are missing on the way are made. An array of tables stands for its
last one. A path of dotted keys does not enter tables with a header, and no path enters
a value. -/
def alter? (byKey : Bool) (f : Origin → Members → Option Members) :
    (path : List String) → Origin → Members → Option Members
  | [], origin, members => f origin members
  | name :: path, _, members =>
    match members.lookup name with
    | none =>
      let origin : Origin := if byKey then .dotted else .implied
      (alter? byKey f path origin []).map fun inner =>
        members ++ [(name, .table origin inner)]
    | some (.table origin inner) =>
      if origin = .inline ∨ (byKey = true ∧ origin = .header) then none
      else (alter? byKey f path origin inner).map fun inner =>
        replace name (.table origin inner) members
    | some (.tables earlier last) =>
      -- what comes after a header in double brackets belongs to its own table
      (alter? byKey f path .header last).map fun last =>
        replace name (.tables earlier last) members
    | some _ => none

/-- Adds the member that a dotted key names. A table that was not made by dotted keys
takes no member from outside. -/
def addKey? (path : List String) (name : String) (value : Value) (origin : Origin)
    (members : Members) : Option Members :=
  alter? true (fun inner members =>
      if path ≠ [] ∧ inner ≠ .dotted then none else insertNew? name value members)
    path origin members

/-- The table of a header in single brackets: a new one, or one that was only implied. It
comes last, wherever the implied one stood. -/
def openTable? (name : String) (_ : Origin) (members : Members) : Option Members :=
  match members.lookup name with
  | none => some (members ++ [(name, .table .header [])])
  | some (.table .implied inner) =>
    some (members.filter (·.1 != name) ++ [(name, .table .header inner)])
  | some _ => none

/-- The table of a header in double brackets: the first, or one more. -/
def openElement? (name : String) (_ : Origin) (members : Members) : Option Members :=
  match members.lookup name with
  | none => some (members ++ [(name, .tables [] [])])
  | some (.tables earlier last) => some (replace name (.tables (earlier ++ [last]) []) members)
  | some _ => none

end Members

end NearbyBeacons.Toml
