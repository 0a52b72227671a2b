import NearbyBeacons.Toml.Moment
import NearbyBeacons.Toml.Number
import NearbyBeacons.Toml.Text
import NearbyBeacons.Toml.Value
/-!
# TOML texts

A text is read line by line, where a value may go on over several lines: a line is
blank, opens a table, or gives a value to a key. Values nest to a fixed depth, and keys
have fewer parts than that.
-/

namespace NearbyBeacons.Toml

/-- A step of reading: a value and what is left after it. -/
abbrev Reader (α : Type) := List Char → Option (α × List Char)

/-! ### Keys -/

/-- A character of a key without quotes. -/
def isBareKeyChar (c : Char) : Bool := c.isAlphanum || c == '-' || c == '_'

/-- A key without quotes. -/
def bareKey? (cs : List Char) : Option (List Char × List Char) :=
  match cs.takeWhile isBareKeyChar with
  | [] => none
  | run => some (run, cs.dropWhile isBareKeyChar)

/-- One part of a key, with the spaces around it. -/
def keyPart? (cs : List Char) : Option (String × List Char) :=
  let cs := skipSpaces cs
  let part := match cs with
    | '"' :: _ | '\'' :: _ => shortText? cs
    | cs => bareKey? cs
  part.map fun (name, rest) => (String.ofList name, skipSpaces rest)

/-- The parts of a key from `cs` on; `done` holds those before, the last first. -/
def keyFrom? (done : List String) (cs : List Char) : Option (List String × List Char) :=
  match keyPart? cs with
  | some (name, '.' :: rest) =>
    if rest.length < cs.length then keyFrom? (name :: done) rest else none
  | some (name, rest) => some ((name :: done).reverse, rest)
  | none => none
termination_by cs.length

/-- How deep values may nest, and how many parts a key may have, by one more. -/
def depthLimit : Nat := 80

/-- A key of one part or more: the parts before the last one, the last one, and what
follows. -/
def key? (cs : List Char) : Option ((List String × String) × List Char) :=
  match keyFrom? [] cs with
  | some (parts, rest) =>
    if parts.length < depthLimit then
      parts.getLast?.map fun name => ((parts.dropLast, name), rest)
    else none
  | none => none

/-! ### Values -/

/-- A value that is neither an array nor a table. -/
def scalar? : Reader Value := fun cs =>
  match cs with
  | 't' :: 'r' :: 'u' :: 'e' :: rest => some (.bool true, rest)
  | 'f' :: 'a' :: 'l' :: 's' :: 'e' :: rest => some (.bool false, rest)
  | '"' :: _ | '\'' :: _ => (text? cs).map fun (s, rest) => (.string (String.ofList s), rest)
  | cs =>
    match moment? cs with
    | some (s, rest) => some (.moment (String.ofList s), rest)
    | none => number? cs

/-- The items of an array from `cs` on, which follows `[` or a comma. -/
def itemsFrom? (item : Reader Value) (done : List Value) (cs : List Char) :
    Option (Value × List Char) :=
  match skipGap false cs with
  | ']' :: rest => some (.array done.reverse, rest)
  | start =>
    match item start with
    | none => none
    | some (v, rest) =>
      match skipGap false rest with
      | ']' :: rest => some (.array (v :: done).reverse, rest)
      | ',' :: rest =>
        if rest.length < cs.length then itemsFrom? item (v :: done) rest else none
      | _ => none
termination_by cs.length

/-- A key and its value. -/
def assignment? (value : Reader Value) (cs : List Char) :
    Option ((List String × String) × Value × List Char) :=
  match key? cs with
  | some (key, '=' :: rest) =>
    (value (skipSpaces rest)).map fun (v, rest) => (key, v, rest)
  | _ => none

/-- The members of a table written as a value from `cs` on, which follows a brace or a
comma. -/
def membersFrom? (value : Reader Value) (done : Members) (cs : List Char) :
    Option (Value × List Char) :=
  match assignment? value cs with
  | none => none
  | some ((path, name), v, rest) =>
    match done.addKey? path name v .inline, skipSpaces rest with
    | some done, '\x7D' :: rest => some (.table .inline done, rest)
    | some done, ',' :: rest =>
      if rest.length < cs.length then membersFrom? value done rest else none
    | _, _ => none
termination_by cs.length

/-- A value that nests no deeper than `depth`. -/
def value? : (depth : Nat) → Reader Value
  | 0, cs => scalar? cs
  | depth + 1, cs =>
    match cs with
    | '[' :: rest => itemsFrom? (value? depth) [] rest
    | '\x7B' :: rest =>
      match skipSpaces rest with
      | '\x7D' :: rest => some (.table .inline [], rest)
      -- no line end may stand inside the braces, and no comma at their end
      | _ => membersFrom? (value? depth) [] rest
    | cs => scalar? cs

/-! ### Lines -/

/-- What has been read of a text: its members so far, and the table that lines add to. -/
structure Draft where
  members : Members
  table : List String

/-- Opens a table, by one of the two kinds of header. -/
def Draft.open? (d : Draft) (make : String → Origin → Members → Option Members)
    (path : List String) (name : String) : Option Draft :=
  (d.members.alter? false (make name) path .header).map fun members =>
    { members, table := path ++ [name] }

/-- Gives a value to a key of the open table. -/
def Draft.assign? (d : Draft) (path : List String) (name : String) (v : Value) : Option Draft :=
  (d.members.alter? false (fun origin inner => inner.addKey? path name v origin) d.table
    .header).map fun members => { d with members }

/-- The line that a header starts, after its brackets: the name of the table and what
follows the line. -/
def header? (closing : List Char) (cs : List Char) :
    Option ((List String × String) × List Char) := do
  let (key, rest) ← key? cs
  if closing.isPrefixOf rest then some (key, ← finishLine? (rest.drop closing.length)) else none

/-- One line that is not blank: what has been read with it, and what follows the line. -/
def line? (d : Draft) : List Char → Option (Draft × List Char)
  | '#' :: rest => (finishLine? ('#' :: rest)).map fun rest => (d, rest)
  | '[' :: '[' :: rest => do
    let ((path, name), rest) ← header? [']', ']'] rest
    some (← d.open? Members.openElement? path name, rest)
  | '[' :: rest => do
    let ((path, name), rest) ← header? [']'] rest
    some (← d.open? Members.openTable? path name, rest)
  | cs => do
    let ((path, name), v, rest) ← assignment? (value? (depthLimit - 1)) cs
    some (← d.assign? path name v, ← finishLine? rest)

/-- The members of the text that `cs` ends. -/
def linesFrom? (d : Draft) (cs : List Char) : Option Members :=
  match skipBlankLines cs with
  | [] => some d.members
  | start =>
    match line? d start with
    | some (d, rest) => if rest.length < cs.length then linesFrom? d rest else none
    | none => none
termination_by cs.length

/-- The members of the table that a text writes. A byte order mark in front is skipped. -/
def read? : List Char → Option Members
  | '\uFEFF' :: cs => linesFrom? ⟨[], []⟩ cs
  | cs => linesFrom? ⟨[], []⟩ cs

end NearbyBeacons.Toml
