import NearbyBeacons.Json.Number
import NearbyBeacons.Json.Value
/-!
# Drafts: what has been read of a JSON text

A draft is the tree of a text as far as it could be read. Where the text goes wrong
the tree ends in `cut`: every array and object that is still open there gets a last
item or member that is cut. Whoever walks a draft in reading order therefore meets
everything that precedes the fault before the fault itself. A complete text has no
`cut` in its draft.

Texts may nest to any depth: the open arrays and objects are kept in a list.
-/

namespace NearbyBeacons.Json

/-- A value as far as it has been read. -/
inductive Draft where
  | null
  | bool (b : Bool)
  | number (n : Numeral)
  | string (s : String)
  /-- A string that names half of a surrogate pair: well formed, but without a text. -/
  | halfPair
  | array (items : List Draft)
  /-- The members in reading order, repeated names included. A name is `none` when it
  has no text. -/
  | object (members : List (Option String × Draft))
  /-- The text goes wrong here. -/
  | cut
  deriving Inhabited

/-- A text as far as it has been read. -/
structure Reading where
  value : Draft
  /-- Nothing but blanks follows the value. -/
  ended : Bool

/-! ### Open arrays and objects -/

/-- An array or object around the value that is being read, with what it holds so far,
the last first. -/
inductive Frame where
  | array (items : List Draft)
  | object (members : List (Option String × Draft)) (name : Option String)

/-- The value around `inner`, cut off after it. -/
def Frame.cutAfter (inner : Draft) : Frame → Draft
  | .array items => .array (.cut :: inner :: items).reverse
  | .object members name => .object ((none, .cut) :: (name, inner) :: members).reverse

/-- The outermost value, every value around `inner` being cut off. -/
def abandon (inner : Draft) : List Frame → Draft
  | [] => inner
  | frame :: outer => abandon (frame.cutAfter inner) outer

/-- What the text may go on with. -/
inductive Place where
  /-- A value. -/
  | value
  /-- A value or `]`, in an array just opened. -/
  | firstItem
  /-- `,` or `]`, after the items. -/
  | afterItem (items : List Draft)
  /-- A name or `}`, in an object just opened. -/
  | firstName
  /-- A name, after a comma. -/
  | nextName (members : List (Option String × Draft))
  /-- `:`, after a name. -/
  | afterName (members : List (Option String × Draft)) (name : Option String)
  /-- `,` or `}`, after the members. -/
  | afterMember (members : List (Option String × Draft))
  /-- Nothing. -/
  | finish (value : Draft)

/-- Where the text goes on after a value. -/
def afterValue (v : Draft) : List Frame → Place × List Frame
  | [] => (.finish v, [])
  | .array items :: outer => (.afterItem (v :: items), outer)
  | .object members name :: outer => (.afterMember ((name, v) :: members), outer)

/-- The reading of a text that goes wrong at `place`. -/
def fault (stack : List Frame) : Place → Reading
  | .value => ⟨abandon .cut stack, false⟩
  | .firstItem => ⟨abandon (.array [.cut]) stack, false⟩
  | .afterItem items => ⟨abandon (.array (.cut :: items).reverse) stack, false⟩
  | .firstName => ⟨abandon (.object [(none, .cut)]) stack, false⟩
  | .nextName members => ⟨abandon (.object ((none, .cut) :: members).reverse) stack, false⟩
  | .afterName members name => ⟨abandon (.object ((name, .cut) :: members).reverse) stack, false⟩
  | .afterMember members => ⟨abandon (.object ((none, .cut) :: members).reverse) stack, false⟩
  | .finish value => ⟨value, false⟩

/-- The value of a token that is a value by itself. -/
def scalar? : Token → Option Draft
  | .null => some .null
  | .bool b => some (.bool b)
  | .number n => some (.number n)
  | .string (some s) => some (.string s)
  | .string none => some .halfPair
  | _ => none

/-- What follows the start of a value at token `t`, if `t` starts one. -/
def enter? (t : Token) (stack : List Frame) : Option (Place × List Frame) :=
  match t with
  | .openBracket => some (.firstItem, stack)
  | .openBrace => some (.firstName, stack)
  | t => (scalar? t).map fun v => afterValue v stack

/-- One token further, if it may stand at `place`. The stack holds what is open around
the place, the innermost first; an open array or object is part of the place itself
while the text is between its values. -/
def advance? (place : Place) (stack : List Frame) (t : Token) : Option (Place × List Frame) :=
  match place, t with
  | .value, t => enter? t stack
  | .firstItem, .closeBracket => some (afterValue (.array []) stack)
  | .firstItem, t => enter? t (.array [] :: stack)
  | .afterItem items, .comma => some (.value, .array items :: stack)
  | .afterItem items, .closeBracket => some (afterValue (.array items.reverse) stack)
  | .firstName, .closeBrace => some (afterValue (.object []) stack)
  | .firstName, .string name => some (.afterName [] name, stack)
  | .nextName members, .string name => some (.afterName members name, stack)
  | .afterName members name, .colon => some (.value, .object members name :: stack)
  | .afterMember members, .comma => some (.nextName members, stack)
  | .afterMember members, .closeBrace => some (afterValue (.object members.reverse) stack)
  | _, _ => none

/-- The reading of the tokens that follow `place`. -/
def readFrom (place : Place) (stack : List Frame) : List Token → Reading
  | [] =>
    match place with
    | .finish value => ⟨value, true⟩
    | place => fault stack place
  | t :: ts =>
    match advance? place stack t with
    | some (place, stack) => readFrom place stack ts
    | none => fault stack place

/-- The reading of a text. -/
def read (cs : List Char) : Reading := readFrom .value [] (tokens cs)

/-! ### Complete values -/

mutual

/-- The value of a draft that nests no deeper than `depth`: `none` for a text that goes
wrong, that holds a string without a text or that holds too large a number. Of
repeated names the last one counts. -/
def Draft.toJson? : Nat → Draft → Option Json
  | _, .null => some .null
  | _, .bool b => some (.bool b)
  | _, .number n =>
    match n.int? with
    | some i => some (.integer i)
    | none => n.real?.map .real
  | _, .string s => some (.string s)
  | depth + 1, .array items => (itemsToJson? depth items).map .array
  | depth + 1, .object members => (membersToJson? depth members).map .object
  | _, _ => none

/-- The values of the items of an array. -/
def itemsToJson? : Nat → List Draft → Option (List Json)
  | _, [] => some []
  | depth, d :: ds => do some ((← d.toJson? depth) :: (← itemsToJson? depth ds))

/-- The members of an object, each name once. -/
def membersToJson? : Nat → List (Option String × Draft) → Option (List (String × Json))
  | _, [] => some []
  | _, (none, _) :: _ => none
  | depth, (some name, d) :: ds => do
    let value ← d.toJson? depth
    let rest ← membersToJson? depth ds
    some (if rest.any (·.1 == name) then rest else (name, value) :: rest)

end

end NearbyBeacons.Json
