import NearbyBeacons.Json.Draft
import NearbyBeacons.Time.Timestamp
/-!
# Decoding records

A decoder takes a draft to a value of a type of the program, or to the first failure
in reading order. A record is an object with named members or an array with one item
per field, in the order of the fields; `Record` builds its decoder field by field.

Two kinds of failure are told apart: `syntactic`, where the text is no JSON text or
goes on where it should end, and `data`, where the text is well formed so far but
does not fit the type.
-/

namespace NearbyBeacons.Json

/-- Why a text cannot be decoded. -/
inductive Failure where
  /-- The text is malformed, or longer than the value it should hold. -/
  | syntactic
  /-- A value of the wrong kind or range, a missing or repeated member, a short array. -/
  | data
  deriving DecidableEq, Repr

/-- A reader of values of one type. -/
abbrev Decoder (α : Type) := Draft → Except Failure α

/-- The failure of a decoder that expects another kind of value. Values that are read
to the end before their kind is looked at fail by what is wrong with them first. -/
def mismatch : Draft → Failure
  | .cut | .halfPair => .syntactic
  | .number n => if n.isTooLarge then .syntactic else .data
  | _ => .data

namespace Decoder

/-- A string. -/
def string : Decoder String
  | .string s => .ok s
  | d => .error (mismatch d)

/-- `true` or `false`. -/
def bool : Decoder Bool
  | .bool b => .ok b
  | d => .error (mismatch d)

/-- A whole number from `low` to `high`. -/
def int (low high : Int) : Decoder Int
  | .number n =>
    if n.isTooLarge then .error .syntactic
    else match n.int? with
      | some i => if low ≤ i ∧ i ≤ high then .ok i else .error .data
      | none => .error .data
  | d => .error (mismatch d)

/-- A whole number of sixteen bits with a sign. -/
def int16 : Decoder Int16 := fun d => (int (-32768) 32767 d).map Int16.ofInt

/-- A whole number of sixteen bits without a sign. -/
def uint16 : Decoder UInt16 := fun d => (int 0 65535 d).map fun i => UInt16.ofNat i.toNat

/-- A whole number of sixty-four bits without a sign. -/
def uint64 : Decoder UInt64 := fun d =>
  (int 0 18446744073709551615 d).map fun i => UInt64.ofNat i.toNat

/-- A number of things: a whole number of sixty-four bits without a sign. -/
def count : Decoder Nat := fun d => (int 0 18446744073709551615 d).map Int.toNat

/-- `null`, or a value that `f` reads. -/
def optional {α : Type} (f : Decoder α) : Decoder (Option α)
  | .null => .ok none
  | d => (f d).map some

/-- A string that `f` takes to a value. -/
def parsed {α : Type} (f : List Char → Option α) : Decoder α := fun d =>
  match string d with
  | .ok s => match f s.toList with
    | some a => .ok a
    | none => .error .data
  | .error e => .error e

/-- A timestamp. -/
def instant : Decoder Instant := parsed Timestamp.instant?

/-- The items of an array, in order. -/
def items {α : Type} (f : Decoder α) : List Draft → Except Failure (List α)
  | [] => .ok []
  | d :: ds => do
    let a ← f d
    let rest ← items f ds
    .ok (a :: rest)

/-- An array of any length. -/
def list {α : Type} (f : Decoder α) : Decoder (List α)
  | .array ds => items f ds
  | d => .error (mismatch d)

/-- One of several named values: its name as a string, or an object whose only member
has that name and the value `null`. -/
def named {α : Type} (names : List (String × α)) : Decoder α
  | .string s => match names.lookup s with
    | some a => .ok a
    | none => .error .data
  | .object [(some s, .null)] => match names.lookup s with
    | some a => .ok a
    | none => .error .data
  | d => .error (mismatch d)

/-- Any JSON value that nests no deeper than `depth`. -/
def value (depth : Nat) : Decoder Json := fun d =>
  match d.toJson? depth with
  | some j => .ok j
  | none => .error (mismatch d)

end Decoder

/-! ### Records -/

/-- What stands in for a field that is left out. -/
inductive Absence (α : Type) where
  /-- Nothing: the field has to be there. -/
  | refused
  /-- A value, in an object only. -/
  | inObject (a : α)
  /-- A value, in an object and at the end of an array. -/
  | anywhere (a : α)

/-- What the walk over a record needs to know of a field. -/
structure Field where
  name : String
  /-- The first failure in a value of the field. -/
  check : Draft → Except Failure Unit
  /-- Whether an array may end before the field. -/
  mayEnd : Bool

/-- The value found for each field, in the order of the fields. -/
abbrev Slots := List (Option Draft)

/-- A decoder of records: the fields, and the record that their values make. -/
structure Record (α : Type) where
  fields : List Field
  /-- The record of the values found, in an array or else in an object. -/
  build : (inArray : Bool) → Slots → Except Failure α

namespace Record

/-- A record without fields. -/
def pure {α : Type} (a : α) : Record α := ⟨[], fun _ _ => .ok a⟩

/-- The value of a field that was left out. -/
def absent {α : Type} (inArray : Bool) : Absence α → Except Failure α
  | .refused => .error .data
  | .inObject a => if inArray then .error .data else .ok a
  | .anywhere a => .ok a

/-- Whether an array may end before a field. -/
def mayEnd {α : Type} : Absence α → Bool
  | .anywhere _ => true
  | _ => false

/-- One more field, named `name` and read by `f`. -/
def field {α β : Type} (r : Record (α → β)) (name : String) (f : Decoder α)
    (absence : Absence α) : Record β where
  fields := r.fields ++
    [{ name, check := fun d => (f d).map fun _ => (), mayEnd := mayEnd absence }]
  build inArray slots := do
    let make ← r.build inArray (slots.take r.fields.length)
    match slots.drop r.fields.length with
    | [some d] => (f d).map make
    | _ => (absent inArray absence).map make

/-- One more field, which has to be there. -/
def required {α β : Type} (r : Record (α → β)) (name : String) (f : Decoder α) : Record β :=
  r.field name f .refused

/-- One more field, which may be left out of an object. -/
def optionalField {α β : Type} (r : Record (Option α → β)) (name : String) (f : Decoder α) :
    Record β :=
  r.field name (Decoder.optional f) (.inObject none)

/-- One more field, which may be left out of an object and of the end of an array. -/
def trailingField {α β : Type} (r : Record (Option α → β)) (name : String) (f : Decoder α) :
    Record β :=
  r.field name (Decoder.optional f) (.anywhere none)

/-- One more field, with the value `a` where it is left out. -/
def defaultField {α β : Type} (r : Record (α → β)) (name : String) (f : Decoder α) (a : α) :
    Record β :=
  r.field name f (.anywhere a)

/-- The position of the field called `name`. -/
def position? (fields : List Field) (name : String) : Option Nat :=
  fields.findIdx? (·.name == name)

/-- Walks the members of an object in reading order. A repeated field fails at its
name; members of other names are passed over. -/
def walkMembers (fields : List Field) :
    List (Option String × Draft) → Slots → Except Failure Slots
  | [], slots => .ok slots
  | (none, _) :: _, _ => .error .syntactic
  | (some name, d) :: rest, slots =>
    match position? fields name with
    | none => match d with
      | .cut => .error .syntactic
      | _ => walkMembers fields rest slots
    -- the name alone decides about a repeated member, whatever its value
    | some i => match slots.getD i none with
      | some _ => .error .data
      | none => match ((fields[i]?).map (·.check d)).getD (.ok ()) with
        | .error e => .error e
        | .ok () => walkMembers fields rest (slots.set i (some d))

/-- Walks the items of an array beside the fields. -/
def walkItems : List Field → List Draft → Except Failure Slots
  | [], [] => .ok []
  | [], _ :: _ => .error .syntactic
  | f :: fs, [] => if f.mayEnd then (walkItems fs []).map (none :: ·) else .error .data
  | f :: fs, d :: ds =>
    match f.check d with
    | .error e => .error e
    | .ok () => (walkItems fs ds).map (some d :: ·)

/-- The decoder of a record. -/
def decode {α : Type} (r : Record α) : Decoder α
  | .object members => do
    let slots ← walkMembers r.fields members (r.fields.map fun _ => none)
    r.build false slots
  | .array ds => do
    let slots ← walkItems r.fields ds
    r.build true slots
  | d => .error (mismatch d)

end Record

/-! ### Texts -/

/-- The value of a whole text. -/
def Decoder.decodeText {α : Type} (f : Decoder α) (cs : List Char) : Except Failure α := do
  let reading := read cs
  let a ← f reading.value
  if reading.ended then .ok a else .error .syntactic

end NearbyBeacons.Json
