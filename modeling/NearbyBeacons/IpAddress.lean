import NearbyBeacons.Decimal
import NearbyBeacons.Text.Ascii
/-!
# Internet addresses

The two kinds of address and their texts. An address of version 4 is four numbers
without leading zeros. One of version 6 is eight groups of up to four hexadecimal
digits, of which one run of zeros may be left out, and the last two of which may be
written as an address of version 4. The canonical text leaves out the longest run of
two zero groups or more, the first of several, and keeps the mixed form for mapped
addresses alone.
-/

namespace NearbyBeacons

/-- An internet address. -/
inductive IpAddress where
  | v4 (a b c d : UInt8)
  | v6 (groups : Vector UInt16 8)
  deriving DecidableEq, Repr

namespace IpAddress

/-! ### Writing -/

/-- The four numbers with points between them. -/
def text4 (a b c d : UInt8) : List Char :=
  Decimal.digits a.toNat ++ '.' :: Decimal.digits b.toNat ++ '.' :: Decimal.digits c.toNat ++
    '.' :: Decimal.digits d.toNat

/-- The hexadecimal digits of a group, without leading zeros. -/
def groupText (g : UInt16) : List Char := Nat.toDigits 16 g.toNat

/-- Groups with colons between them. -/
def groupsText : List UInt16 → List Char
  | [] => []
  | [g] => groupText g
  | g :: rest => groupText g ++ ':' :: groupsText rest

/-- The number of zeros that `gs` starts with. -/
def leadingZeros (gs : List UInt16) : Nat := (gs.takeWhile (· == 0)).length

/-- The start and the length of the longest run of zeros in `gs`, the first of several.
`start` is the position of `gs`. -/
def longestZeros (start : Nat) : List UInt16 → Nat × Nat
  | [] => (start, 0)
  | g :: rest =>
    let here := leadingZeros (g :: rest)
    let later := longestZeros (start + 1) rest
    if later.2 ≤ here then (start, here) else later

/-- The canonical text of eight groups. -/
def text6 (gs : List UInt16) : List Char :=
  match gs with
  | [0, 0, 0, 0, 0, 0xFFFF, g, h] =>
    "::ffff:".toList ++
      text4 (g / 256).toUInt8 (g % 256).toUInt8 (h / 256).toUInt8 (h % 256).toUInt8
  | gs =>
    let (start, length) := longestZeros 0 gs
    if 2 ≤ length then
      groupsText (gs.take start) ++ ':' :: ':' :: groupsText (gs.drop (start + length))
    else groupsText gs

/-- The canonical text of an address. -/
def text : IpAddress → List Char
  | v4 a b c d => text4 a b c d
  | v6 groups => text6 groups.toList

/-! ### Reading

Every step takes the characters that are left and returns what it read together with
what is left after it. -/

/-- A number below 256: one to three digits, without a leading zero. -/
def octet? (cs : List Char) : Option (UInt8 × List Char) :=
  let run := cs.takeWhile Char.isDigit
  let n := Decimal.value run
  if run.isEmpty || 3 < run.length || (run.head? == some '0' && 1 < run.length) || 255 < n then none
  else some (UInt8.ofNat n, cs.drop run.length)

/-- The character `c`. -/
def mark? (c : Char) : List Char → Option (List Char)
  | x :: rest => if x = c then some rest else none
  | [] => none

/-- The four numbers of an address of version 4. -/
def quad? (cs : List Char) : Option ((UInt8 × UInt8 × UInt8 × UInt8) × List Char) := do
  let (a, rest) ← octet? cs
  let (b, rest) ← octet? (← mark? '.' rest)
  let (c, rest) ← octet? (← mark? '.' rest)
  let (d, rest) ← octet? (← mark? '.' rest)
  some ((a, b, c, d), rest)

/-- A group: one to four hexadecimal digits. -/
def group? (cs : List Char) : Option (UInt16 × List Char) :=
  let run := cs.takeWhile Ascii.isHexDigit
  if run.isEmpty || 4 < run.length then none
  else (Ascii.hexNumber? run).map fun n => (UInt16.ofNat n, cs.drop run.length)

/-- What follows the colon before a group; the first group has none. -/
def afterColon? (isFirst : Bool) (cs : List Char) : Option (List Char) :=
  if isFirst then some cs else mark? ':' cs

/-- Two groups from the four numbers of an address of version 4. -/
def mixedGroups (a b c d : UInt8) : List UInt16 :=
  [UInt16.ofNat (a.toNat * 256 + b.toNat), UInt16.ofNat (c.toNat * 256 + d.toNat)]

/-- Up to `room` groups with colons between them. Where two groups fit, four numbers may
stand for them, and end the run: the flag tells whether they did. -/
def groups? (isFirst : Bool) : (room : Nat) → List Char → List UInt16 × Bool × List Char
  | 0, cs => ([], false, cs)
  | room + 1, cs =>
    let single (cs' : List Char) : List UInt16 × Bool × List Char :=
      match group? cs' with
      | some (g, rest) =>
        let (gs, mixed, rest) := groups? false room rest
        (g :: gs, mixed, rest)
      | none => ([], false, cs)
    match afterColon? isFirst cs with
    | none => ([], false, cs)
    | some cs' =>
      if room = 0 then single cs'
      else match quad? cs' with
        | some ((a, b, c, d), rest) => (mixedGroups a b c d, true, rest)
        | none => single cs'

/-- The address of eight groups. -/
def ofGroups? (gs : List UInt16) : Option IpAddress :=
  if h : gs.length = 8 then some (v6 ⟨gs.toArray, by simpa using h⟩) else none

/-- An address of version 6: eight groups, or fewer around a pair of colons that stands
for at least one group of zeros. -/
def address6? (cs : List Char) : Option (IpAddress × List Char) :=
  match groups? true 8 cs with
  | (front, mixed, rest) =>
    if front.length = 8 then (ofGroups? front).map fun a => (a, rest)
    else if mixed then none
    else match rest with
      | ':' :: ':' :: rest =>
        match groups? true (7 - front.length) rest with
        | (back, _, rest) =>
          let zeros := List.replicate (8 - front.length - back.length) (0 : UInt16)
          (ofGroups? (front ++ zeros ++ back)).map fun a => (a, rest)
      | _ => none

/-- The address that a text names. -/
def parse? (cs : List Char) : Option IpAddress :=
  match quad? cs with
  | some ((a, b, c, d), rest) => if rest.isEmpty then some (v4 a b c d) else none
  | none => match address6? cs with
    | some (a, rest) => if rest.isEmpty then some a else none
    | none => none

end IpAddress

end NearbyBeacons
