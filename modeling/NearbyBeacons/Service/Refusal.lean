import NearbyBeacons.Error
import NearbyBeacons.Http.Message
import NearbyBeacons.Text.Ascii
import NearbyBeacons.Wire.Answer
/-!
# Refusals

A request that the service understands and cannot grant is refused with a code and a
message, as JSON.
-/

namespace NearbyBeacons

/-- The two ways to refuse a request. -/
inductive RefusalKind where
  | badRequest
  | notFound
  deriving DecidableEq, Repr

/-- The HTTP status of a refusal. -/
def RefusalKind.status : RefusalKind → Nat
  | badRequest => 400
  | notFound => 404

/-- The words for a status. -/
def RefusalKind.title : RefusalKind → String
  | badRequest => "Bad Request"
  | notFound => "Not Found"

/-- A refused request. -/
structure Refusal where
  kind : RefusalKind
  /-- The machine-readable name of the cause. -/
  code : String
  message : String
  deriving DecidableEq, Repr

namespace Refusal

/-- The refusal on account of an error. -/
def ofError (e : RequestError) : Refusal :=
  { kind := if e.status = 404 then .notFound else .badRequest
    code := Ascii.lower e.code
    message := e.message }

/-- The refusal of a path that names no position. -/
def invalidPath (message : String) : Refusal := ⟨.badRequest, "invalid_path", message⟩

/-- The refusal in one line. -/
def text (r : Refusal) : String := r.kind.title ++ ": " ++ r.message

/-- The body that reports a refusal. -/
def problem (r : Refusal) : Problem := { code := r.code, message := r.message }

/-- The response that reports a refusal. -/
def response (r : Refusal) : Http.Response := .ofJson r.kind.status r.problem.toJson

end Refusal

end NearbyBeacons
