/-!
# UTF-8

Characters as bytes and bytes as characters. Reading is strict: overlong forms,
surrogates and code points above `10FFFF` are refused, and so is a character that
the bytes break off.
-/

namespace NearbyBeacons.Utf8

/-- The bytes of one character. -/
def encodeChar (c : Char) : List UInt8 :=
  let n := c.toNat
  if n < 0x80 then [n.toUInt8]
  else if n < 0x800 then [(0xC0 + n / 64).toUInt8, (0x80 + n % 64).toUInt8]
  else if n < 0x10000 then
    [(0xE0 + n / 4096).toUInt8, (0x80 + n / 64 % 64).toUInt8, (0x80 + n % 64).toUInt8]
  else
    [(0xF0 + n / 262144).toUInt8, (0x80 + n / 4096 % 64).toUInt8,
     (0x80 + n / 64 % 64).toUInt8, (0x80 + n % 64).toUInt8]

/-- The bytes of a text. -/
def encode (cs : List Char) : List UInt8 := cs.flatMap encodeChar

/-- A byte that continues a character. -/
def isContinuation (b : UInt8) : Bool := 0x80 ≤ b && b < 0xC0

/-- The character of code point `n`, unless `n` is below `least` or names no
character. -/
def charFrom? (least n : Nat) : Option Char :=
  if h : least ≤ n ∧ n.isValidChar then some ⟨n.toUInt32, by
    have := h.2
    simp only [Nat.isValidChar] at this
    simp only [UInt32.isValidChar, Nat.isValidChar, Nat.toUInt32, UInt32.toNat_ofNat']
    omega⟩
  else none

/-- The payload of a continuation byte. -/
def payload (b : UInt8) : Nat := b.toNat % 64

/-- `done`, reversed, followed by the characters that `bytes` spell. -/
def decodeFrom? (done : List Char) : List UInt8 → Option (List Char)
  | [] => some done.reverse
  | a :: rest =>
    if a < 0x80 then
      match charFrom? 0 a.toNat with
      | some c => decodeFrom? (c :: done) rest
      | none => none
    else if a < 0xC0 then none
    else if a < 0xE0 then
      match rest with
      | b :: rest =>
        if isContinuation b then
          match charFrom? 0x80 (a.toNat % 32 * 64 + payload b) with
          | some c => decodeFrom? (c :: done) rest
          | none => none
        else none
      | _ => none
    else if a < 0xF0 then
      match rest with
      | b :: c :: rest =>
        if isContinuation b && isContinuation c then
          match charFrom? 0x800 (a.toNat % 16 * 4096 + payload b * 64 + payload c) with
          | some x => decodeFrom? (x :: done) rest
          | none => none
        else none
      | _ => none
    else if a < 0xF8 then
      match rest with
      | b :: c :: d :: rest =>
        if isContinuation b && isContinuation c && isContinuation d then
          match charFrom? 0x10000
              (a.toNat % 8 * 262144 + payload b * 4096 + payload c * 64 + payload d) with
          | some x => decodeFrom? (x :: done) rest
          | none => none
        else none
      | _ => none
    else none

/-- The text that `bytes` spell, or `none` where they are not UTF-8. -/
def decode? (bytes : List UInt8) : Option (List Char) := decodeFrom? [] bytes

end NearbyBeacons.Utf8
