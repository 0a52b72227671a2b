import NearbyBeacons.Text.Ascii
/-!
# Media types

The value of a `content-type` header: a type and a subtype with a slash between them, and
parameters behind semicolons. A plus sign in the subtype cuts off a suffix, which names
the format underneath.
-/

namespace NearbyBeacons.Http

/-- A character of a token. -/
def isTokenChar (c : Char) : Bool := c.isAlphanum || "!#$%&'*+-.^_`|~".toList.contains c

/-- A character that a header value may hold. -/
def isVisible (c : Char) : Bool := c == '\t' || (0x20 ≤ c.toNat && c.toNat < 0x7F)

/-- Where in the parameters a character stands. -/
inductive ParameterPlace where
  /-- Before a name. -/
  | start
  | name
  /-- Behind the equals sign. -/
  | valueStart
  | value
  /-- Behind the opening quote, where a quote does not close anything yet. -/
  | quotedStart
  | quoted
  | afterQuoted
  deriving DecidableEq, Repr

/-- Whether the parameters from a place on are well formed. -/
def areParameters : ParameterPlace → List Char → Bool
  | .start, [] | .valueStart, [] | .value, [] | .afterQuoted, [] => true
  | .name, [] | .quotedStart, [] | .quoted, [] => false
  | .start, c :: rest =>
    if c = ' ' then areParameters .start rest else isTokenChar c && areParameters .name rest
  | .name, c :: rest =>
    if c = '=' then areParameters .valueStart rest else isTokenChar c && areParameters .name rest
  | .valueStart, c :: rest =>
    if c = '"' then areParameters .quotedStart rest
    else isTokenChar c && areParameters .value rest
  | .value, c :: rest =>
    if c = ';' then areParameters .start rest else isTokenChar c && areParameters .value rest
  | .quotedStart, c :: rest => 0x20 ≤ c.toNat && c.toNat != 0x7F && areParameters .quoted rest
  | .quoted, c :: rest =>
    if c = '"' then areParameters .afterQuoted rest
    else 0x20 ≤ c.toNat && c.toNat != 0x7F && areParameters .quoted rest
  | .afterQuoted, c :: rest =>
    if c = ';' then areParameters .start rest else c == ' ' && areParameters .afterQuoted rest

/-- A media type without its parameters, in lower case. -/
structure MediaType where
  main : String
  subtype : String
  /-- What follows the last plus sign of the subtype. -/
  suffix : Option String
  deriving DecidableEq, Repr

namespace MediaType

/-- The subtype and its suffix. A plus sign in front cuts off nothing. -/
def splitSuffix (cs : List Char) : List Char × Option (List Char) :=
  let behind := (cs.reverse.takeWhile (· != '+')).reverse
  let front := cs.take (cs.length - behind.length - 1)
  if front.isEmpty then (cs, none) else (front, some behind)

/-- The media type of a header value. -/
def parse? (value : String) : Option MediaType :=
  let cs := value.toList.map Char.toLower
  let main := cs.takeWhile isTokenChar
  match cs.dropWhile isTokenChar with
  | '/' :: rest =>
    let subtype := rest.takeWhile isTokenChar
    let wellFormed := match rest.dropWhile isTokenChar with
      | [] => true
      | ';' :: parameters => !subtype.isEmpty && areParameters .start parameters
      | _ => false
    if main.isEmpty || !wellFormed then none
    else
      let (front, suffix) := splitSuffix subtype
      some ⟨String.ofList main, String.ofList front, suffix.map String.ofList⟩
  | _ => none

/-- Whether the type is JSON, or a format on top of JSON. -/
def isJson (t : MediaType) : Bool :=
  t.main == "application" && (t.subtype == "json" || t.suffix == some "json")

end MediaType

/-- Whether a header value announces JSON. -/
def announcesJson (value : String) : Bool :=
  value.toList.all isVisible && (MediaType.parse? value).any MediaType.isJson

end NearbyBeacons.Http
