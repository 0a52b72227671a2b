import NearbyBeacons.Json.Value
import NearbyBeacons.Text.Ascii
/-!
# Requests and responses

As much of HTTP as the service works with: a request has a method, a target, headers and a
body, and a response has a status, headers and a body.

All of it is text. A body or the value of a header that is not UTF-8 has no form here, and so
nothing is said of what the service answers to one.
-/

namespace NearbyBeacons.Http

/-- A method. Names are compared as they are, letter case included. -/
inductive Method where
  | get
  | head
  | put
  | post
  | options
  | other (name : String)
  deriving DecidableEq, Repr

/-- The method of a name. -/
def Method.ofName : String → Method
  | "GET" => get
  | "HEAD" => head
  | "PUT" => put
  | "POST" => post
  | "OPTIONS" => options
  | name => other name

/-- The name of a method. -/
def Method.name : Method → String
  | get => "GET"
  | head => "HEAD"
  | put => "PUT"
  | post => "POST"
  | options => "OPTIONS"
  | other name => name

/-- Headers in order. -/
abbrev Headers := List (String × String)

/-- The value of the first header called `name`, letter case aside. -/
def Headers.value? (headers : Headers) (name : String) : Option String :=
  (headers.find? fun header => Ascii.sameLetters header.1 name).map (·.2)

/-- A request whose headers and body are UTF-8. -/
structure Request where
  method : Method
  /-- The target as it stands in the first line. -/
  target : String
  headers : Headers
  body : String
  deriving DecidableEq, Repr

/-- What a response carries. -/
inductive Body where
  | empty
  | json (value : Json)
  | text (s : String)

/-- A response. -/
structure Response where
  status : Nat
  headers : Headers
  body : Body

namespace Response

/-- A response with a JSON body. -/
def ofJson (status : Nat) (value : Json) : Response :=
  ⟨status, [("content-type", "application/json")], .json value⟩

/-- A response with a body of plain text. -/
def ofText (status : Nat) (s : String) : Response :=
  ⟨status, [("content-type", "text/plain; charset=utf-8")], .text s⟩

/-- A response without a body. -/
def bare (status : Nat) (headers : Headers) : Response := ⟨status, headers, .empty⟩

/-- The response without its body. -/
def withoutBody (r : Response) : Response := { r with body := .empty }

/-- The response with more headers. -/
def addHeaders (r : Response) (more : Headers) : Response :=
  { r with headers := r.headers ++ more }

end Response

end NearbyBeacons.Http
