import NearbyBeacons.Decimal
import NearbyBeacons.OpenApi.Schema
/-!
# Operations

The parts of an OpenAPI document that describe what can be asked for: one operation for
each path, with its parameters, its body and its answers. All bodies are JSON.
-/

namespace NearbyBeacons.OpenApi

/-- An answer: its status, what it means and the schema of its body. -/
structure Answer where
  status : Nat
  description : String
  schema : String
  deriving DecidableEq, Repr

/-- A number in a path. -/
structure PathParameter where
  name : String
  description : String
  deriving DecidableEq, Repr

/-- An operation. -/
structure Operation where
  path : String
  /-- The method, in lower case. -/
  method : String
  id : String
  tag : String
  summary : String
  description : Option String := none
  parameters : List PathParameter := []
  /-- The schema of the body, if there is one. -/
  body : Option String := none
  answers : List Answer
  deriving DecidableEq, Repr

/-- The member that describes a JSON body. -/
def content (schema : String) : String × Json :=
  ("content",
    .object [("application/json", .object [("schema", .object [reference schema])])])

/-- An answer, by its status. -/
def Answer.toMember (a : Answer) : String × Json :=
  (Decimal.natText a.status,
    .object [("description", .string a.description), content a.schema])

/-- A number in a path. -/
def PathParameter.toJson (p : PathParameter) : Json :=
  .object [("name", .string p.name), ("in", .string "path"),
    ("description", .string p.description), ("required", .bool true),
    ("schema", .object [typed "integer", ("minimum", .integer 0)])]

namespace Operation

/-- The description of an operation. -/
def toJson (o : Operation) : Json :=
  .object ([("tags", .array [.string o.tag]), ("summary", .string o.summary)] ++
    memberOf? "description" (o.description.map .string) ++
    [("operationId", .string o.id)] ++
    memberOf? "parameters"
      (if o.parameters.isEmpty then none else some (.array (o.parameters.map (·.toJson)))) ++
    memberOf? "requestBody"
      (o.body.map fun schema => .object [content schema, ("required", .bool true)]) ++
    [("responses", .object (o.answers.map (·.toMember)))])

/-- An operation, by its path and method. -/
def toMember (o : Operation) : String × Json := (o.path, .object [(o.method, o.toJson)])

end Operation

end NearbyBeacons.OpenApi
