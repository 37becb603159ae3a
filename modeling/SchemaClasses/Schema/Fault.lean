/-
What can be wrong with a node of a schema.
-/
import SchemaClasses.Json.Text

namespace SchemaClasses

/-- A reason for which a schema node has no type. -/
inductive SchemaFault where
  | notObject
  | refNotString
  | typeEntryNotString
  | typeNotStringOrArray
  | missingType
  | nullOnly
  | unknownType (kind : String)
  | requiredNotArray
  | propertiesNotObject
  | itemsMissing
  | enumNotArray
  | enumValueNotString (value : Json)
  deriving Repr, Inhabited

/-- The wording of a fault. -/
def SchemaFault.message : SchemaFault → String
  | notObject => "schema node must be an object"
  | refNotString => "`$ref` must be a string"
  | typeEntryNotString => "`type` entries must be strings"
  | typeNotStringOrArray => "`type` must be a string or array"
  | missingType => "missing `type`"
  | nullOnly => "a null-only type has no class"
  | unknownType kind => "unsupported type `" ++ kind ++ "`"
  | requiredNotArray => "`required` must be an array"
  | propertiesNotObject => "`properties` must be an object"
  | itemsMissing => "arrays need an `items` schema"
  | enumNotArray => "`enum` must be an array"
  | enumValueNotString value => "enum values must be strings, got " ++ value.compact

end SchemaClasses
