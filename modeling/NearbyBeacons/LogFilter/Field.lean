import NearbyBeacons.Pattern.Syntax
import NearbyBeacons.Text.Ascii
/-!
# Fields in a log filter

A field is a name, with or without a value that it has to have. The value is a number, or
else a pattern for the text of the field. Switches and whole numbers need no rule of their
own: the first are patterns, and the second are floats.
-/

namespace NearbyBeacons.LogFilter

/-! ### Floats -/

/-- `cs` without the sign it starts with. -/
def skipSign : List Char → List Char
  | '+' :: rest | '-' :: rest => rest
  | cs => cs

/-- The names of the floats that are not finite. -/
def floatNames : List String := ["inf", "infinity", "nan"]

/-- What may follow the digits of a float. -/
def isExponent : List Char → Bool
  | [] => true
  | 'e' :: rest | 'E' :: rest =>
    let run := skipSign rest
    !run.isEmpty && run.all Char.isDigit
  | _ => false

/-- Digits, a point among them, at one of its ends or nowhere, and an exponent. -/
def isFiniteFloat (cs : List Char) : Bool :=
  let whole := cs.takeWhile Char.isDigit
  let rest := cs.dropWhile Char.isDigit
  let (fraction, rest) := match rest with
    | '.' :: rest => (rest.takeWhile Char.isDigit, rest.dropWhile Char.isDigit)
    | rest => ([], rest)
  !(whole.isEmpty && fraction.isEmpty) && isExponent rest

/-- Whether a text is a float. -/
def isFloat (cs : List Char) : Bool :=
  let run := skipSign cs
  floatNames.any (Ascii.sameLetters · (String.ofList run)) || isFiniteFloat run

/-! ### Values -/

/-- Whether a field can be compared with a text. -/
def isFieldValue (cs : List Char) : Bool := isFloat cs || Pattern.isPattern cs

/-- The value that a field has to have: what stands behind its first equals sign, up to a
second one. -/
def fieldValue? (field : List Char) : Option (List Char) :=
  match field.dropWhile (· != '=') with
  | [] => none
  | _ :: rest => some (rest.takeWhile (· != '='))

/-- Whether a text that is not empty is a field. -/
def isField (field : List Char) : Bool := (fieldValue? field).all isFieldValue

end NearbyBeacons.LogFilter
