import ConfigGate.Json.Writer

/-!
# JSON Schemas

Building blocks for documents that describe JSON values in draft 2020-12. A shape is the members
that say what a value may be.
-/

namespace ConfigGate.JsonSchema

/-- What a value may be. -/
abbrev Shape := List (String × Json)

/-- A shape with a description before it. -/
def described (text : String) (shape : Shape) : Shape := ("description", .text text) :: shape

/-- Any text. -/
def text : Shape := [("type", .text "string")]

/-- Either truth value. -/
def truth : Shape := [("type", .text "boolean")]

/-- The bounds of a count of 32 bits. -/
def countBounds : Shape := [("format", .text "uint32"), ("minimum", .int 0)]

/-- Any count of 32 bits. -/
def count : Shape := ("type", .text "integer") :: countBounds

/-- A type or null. -/
def orNull (type : String) : Shape := [("type", Json.texts [type, "null"])]

/-- A text or null. -/
def optionalText : Shape := orNull "string"

/-- A count or null. -/
def optionalCount : Shape := orNull "integer" ++ countBounds

/-- What a definition says. -/
def reference (name : String) : Shape := [("$ref", .text ("#/$defs/" ++ name))]

/-- What a definition says, or null. -/
def optionalReference (name : String) : Shape :=
  [("anyOf", .array [.object (reference name), .object [("type", .text "null")]])]

/-- A list of values. -/
def list (items : Shape) : Shape := [("type", .text "array"), ("items", .object items)]

/-- A list of values that is empty when it is left out. -/
def listOrEmpty (items : Shape) : Shape :=
  [("type", .text "array"), ("default", .array []), ("items", .object items)]

/-- An object with any names that is empty when it is left out. -/
def mapOrEmpty (values : Shape) : Shape :=
  [("type", .text "object"), ("additionalProperties", .object values), ("default", .object [])]

/-- One of some words. -/
def choice (words : List String) : Shape :=
  [("type", .text "string"), ("enum", Json.texts words)]

/-- Shapes under names in ascending order. -/
def named (shapes : List (String × Shape)) : Json :=
  Json.sortedObject (shapes.map fun entry => (entry.1, .object entry.2))

/-- An object with some properties, of which the required ones must be there. -/
def record (properties : List (String × Shape)) (required : List String) : Shape :=
  [("type", .text "object"), ("properties", named properties)] ++
    (if required.isEmpty then [] else [("required", Json.texts required)])

/-- A whole document: a title, a shape, and the definitions that it refers to. -/
def document (title : String) (shape : Shape) (definitions : List (String × Shape)) : Json :=
  .object ([("$schema", .text "https://json-schema.org/draft/2020-12/schema"),
    ("title", .text title)] ++ shape ++ [("$defs", named definitions)])

end ConfigGate.JsonSchema
