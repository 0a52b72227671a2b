import NearbyBeacons.Text.Ascii
/-!
# Device addresses

A hardware address is six groups of two hexadecimal digits with colons between them, the
whole of a text that matches `^([0-9A-Fa-f]{2}:){5}[0-9A-Fa-f]{2}$`. Letters may have either
case; the list of beacons keeps addresses in upper case.
-/

namespace NearbyBeacons.DeviceAddress

/-- A group of two digits, followed by `colons` groups with a colon before each. These are the
texts of `([0-9A-Fa-f]{2}:){colons}[0-9A-Fa-f]{2}`, where each repetition has only one way to
match, so that nothing is ever tried again. -/
def isGroups : (colons : Nat) → List Char → Bool
  | 0, [a, b] => Ascii.isHexDigit a && Ascii.isHexDigit b
  | n + 1, a :: b :: ':' :: rest => Ascii.isHexDigit a && Ascii.isHexDigit b && isGroups n rest
  | _, _ => false

/-- Whether a text is a hardware address: the pattern is matched from its start to its end. -/
def isValid (address : String) : Bool := isGroups 5 address.toList

/-- The form in which the list of beacons keeps an address. -/
def normal (address : String) : String := Ascii.upper address

end NearbyBeacons.DeviceAddress
