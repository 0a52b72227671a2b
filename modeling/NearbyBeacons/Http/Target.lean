import NearbyBeacons.Text.Ascii
import NearbyBeacons.Text.Utf8
/-!
# Request targets

The path of a target, and the text that a segment of a path stands for: an escape of a
percent sign and two hexadecimal digits names a byte, anything else stands for itself,
and the bytes have to be UTF-8.
-/

namespace NearbyBeacons.Http

/-- A character of a scheme. -/
def isSchemeChar (c : Char) : Bool := c.isAlphanum || c == '+' || c == '-' || c == '.'

/-- A character that ends the path of a target. -/
def endsPath (c : Char) : Bool := c == '?' || c == '#'

/-- The path of a target. A target with a scheme and a host and no more has the path of
the root. -/
def pathOf (target : List Char) : List Char :=
  match target with
  | '/' :: _ => target.takeWhile (!endsPath ·)
  | _ =>
    match target.dropWhile isSchemeChar with
    | ':' :: '/' :: '/' :: rest =>
      match (rest.dropWhile fun c => c != '/' && !endsPath c).takeWhile (!endsPath ·) with
      | [] => ['/']
      | path => path
    | _ => target.takeWhile (!endsPath ·)

/-- The bytes that a text with escapes stands for. A percent sign without two digits
stands for itself. -/
def unescape : List Char → List UInt8
  | [] => []
  | '%' :: a :: b :: rest =>
    match Ascii.hexNumber? [a, b] with
    | some n => UInt8.ofNat n :: unescape rest
    | none => Utf8.encodeChar '%' ++ unescape (a :: b :: rest)
  | c :: rest => Utf8.encodeChar c ++ unescape rest

/-- The text that a segment stands for. -/
def segmentText? (segment : List Char) : Option (List Char) := Utf8.decode? (unescape segment)

end NearbyBeacons.Http
