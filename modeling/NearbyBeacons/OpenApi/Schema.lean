import NearbyBeacons.Json.Value
/-!
# Schemas

The parts of an OpenAPI document that describe bodies: objects with properties, and texts
out of a fixed list.
-/

namespace NearbyBeacons.OpenApi

/-- What a property may hold. -/
inductive PropertyType where
  | text
  | optionalText
  | flag
  /-- A whole number that is not negative. -/
  | count
  /-- A whole number of thirty-two bits. -/
  | integer
  | optionalMoment
  /-- Any value. -/
  | anything
  /-- A value of the schema of that name. -/
  | named (schema : String)
  | optionalNamed (schema : String)
  | listOf (schema : String)
  deriving DecidableEq, Repr

/-- A property of an object. -/
structure Property where
  name : String
  type : PropertyType
  description : String
  sample : Option Json := none
  required : Bool := true

/-- The member that refers to a schema. -/
def reference (schema : String) : String × Json :=
  ("$ref", .string ("#/components/schemas/" ++ schema))

/-- The member that names one type. -/
def typed (name : String) : String × Json := ("type", .string name)

/-- The member that names a type beside which nothing may be given. -/
def optionallyTyped (name : String) : String × Json :=
  ("type", .array [.string name, .string "null"])

/-- An optional member. -/
def memberOf? (name : String) (value : Option Json) : List (String × Json) :=
  (value.map fun value => (name, value)).toList

namespace Property

/-- The schema of a property. -/
def toJson (p : Property) : Json :=
  let described := ("description", Json.string p.description)
  let plain (members : List (String × Json)) : Json :=
    .object (members ++ described :: memberOf? "example" p.sample)
  match p.type with
  | .text => plain [typed "string"]
  | .optionalText => plain [optionallyTyped "string"]
  | .flag => plain [typed "boolean"]
  | .count => plain [typed "integer", ("minimum", .integer 0)]
  | .integer => plain [typed "integer", ("format", .string "int32")]
  | .optionalMoment => plain [optionallyTyped "string", ("format", .string "date-time")]
  | .anything => plain []
  | .named schema => plain [reference schema]
  | .optionalNamed schema =>
    .object [("oneOf", .array [.object [typed "null"], .object [reference schema, described]])]
  | .listOf schema => plain [typed "array", ("items", .object [reference schema])]

end Property

/-- A schema with its name. -/
inductive Schema where
  | record (name description : String) (sample : Option Json) (properties : List Property)
  /-- One of several texts. -/
  | choice (name description : String) (texts : List String)

namespace Schema

/-- The name of a schema. -/
def name : Schema → String
  | record name .. => name
  | choice name .. => name

/-- The schema of an object or a choice. -/
def toJson : Schema → Json
  | record _ description sample properties =>
    let required := (properties.filter (·.required)).map fun p => Json.string p.name
    .object (typed "object" :: ("description", .string description) ::
      memberOf? "required" (if required.isEmpty then none else some (.array required)) ++
      ("properties", .object (properties.map fun p => (p.name, p.toJson))) ::
      memberOf? "example" sample)
  | choice _ description texts =>
    .object [typed "string", ("description", .string description),
      ("enum", .array (texts.map .string))]

end Schema

end NearbyBeacons.OpenApi
