import NearbyBeacons.Decimal
import NearbyBeacons.Http.Message
import NearbyBeacons.Http.Target
/-!
# Routes

What the paths of the service lead to. Paths are compared as they are written, without
undoing escapes: only a position is unescaped.
-/

namespace NearbyBeacons

/-- A resource of the service. -/
inductive Route where
  | health
  | beacons
  /-- The row at the position that a segment names. -/
  | row (segment : String)
  | filter
  | observations
  | document
  deriving DecidableEq, Repr

namespace Route

/-- The route of the segments of a path. A fixed name goes before a position. -/
def ofSegments? : List String → Option Route
  | ["", "health"] => some health
  | ["", "api", "openapi.json"] => some document
  | ["", "api", "beacons"] => some beacons
  | ["", "api", "beacons", "filter"] => some filter
  | ["", "api", "beacons", "observations"] => some observations
  | ["", "api", "beacons", segment] => if segment.isEmpty then none else some (row segment)
  | _ => none

/-- The route of a path. -/
def ofPath? (path : List Char) : Option Route :=
  ofSegments? ((path.splitOn '/').map String.ofList)

/-- The methods of a route. -/
def methods : Route → List Http.Method
  | filter => [.put]
  | observations => [.post]
  | _ => [.get, .head]

/-- The header that lists the methods of a route. -/
def allow (r : Route) : Http.Headers :=
  [("allow", ",".intercalate (r.methods.map Http.Method.name))]

end Route

/-- Why a segment names no position. -/
inductive PositionFault where
  /-- The escapes spell no text. -/
  | notText
  /-- The text is no number. -/
  | notNumber (text : String)
  deriving DecidableEq, Repr

/-- The sentence that reports a fault. -/
def PositionFault.message : PositionFault → String
  | notText => "Invalid URL: Invalid UTF-8 in `position`"
  | notNumber text => "Invalid URL: Cannot parse `" ++ text ++ "` to a `u64`"

/-- The position that a segment names: a number below `2 ^ 64`, with a plus sign or
without. -/
def positionOf (segment : String) : Except PositionFault Nat :=
  match Http.segmentText? segment.toList with
  | none => .error .notText
  | some text => match Decimal.word? text with
    | some n => .ok n
    | none => .error (.notNumber (String.ofList text))

end NearbyBeacons
