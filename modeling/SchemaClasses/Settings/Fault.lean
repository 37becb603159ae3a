/-
What can be wrong with a settings text.
-/
import SchemaClasses.Json.Fault
import SchemaClasses.Json.Text
import SchemaClasses.Text.Visible

namespace SchemaClasses

/-- What stands where a value of another type was expected. -/
inductive FoundValue where
  | null
  | bool (value : Bool)
  | number (value : Json.Number)
  | text (value : String)
  | sequence
  | map
  deriving Repr, Inhabited

/-- The wording of a found value. -/
def FoundValue.describe : FoundValue → String
  | null => "null"
  | bool true => "boolean `true`"
  | bool false => "boolean `false`"
  | number (.whole value) => "integer `" ++ toString value ++ "`"
  | number (.float value) => "floating point `" ++ Json.floatText value ++ "`"
  | text value => "string " ++ Text.visible value
  | sequence => "sequence"
  | map => "map"

/-- What settings and their fields consist of. -/
inductive ExpectedValue where
  | boolean
  | text
  | path
  | settings
  deriving Repr, DecidableEq, Inhabited

/-- The wording of an expectation. -/
def ExpectedValue.describe : ExpectedValue → String
  | boolean => "a boolean"
  | text => "a string"
  | path => "path string"
  | settings => "struct GeneratorConfig"

/-- The fields of the settings in their order. -/
def settingsFields : List String :=
  ["namespace", "root_class", "src_root", "typed", "getters", "constants", "exceptions",
    "date_time_format"]

/-- A reason for which a text holds no settings. -/
inductive SettingsFault where
  | malformed (fault : Json.SyntaxFault)
  | unknownField (name : String)
  | duplicateField (name : String)
  | wrongType (found : FoundValue) (expected : ExpectedValue)
  deriving Repr, Inhabited

/-- The wording of a fault. -/
def SettingsFault.message : SettingsFault → String
  | malformed fault => fault.message
  | unknownField name =>
    "unknown field `" ++ name ++ "`, expected one of " ++
      ", ".intercalate (settingsFields.map fun field => "`" ++ field ++ "`")
  | duplicateField name => "duplicate field `" ++ name ++ "`"
  | wrongType found expected =>
    "invalid type: " ++ found.describe ++ ", expected " ++ expected.describe

/-- The place of a fault in a settings text. -/
inductive SettingsPlace where
  | whole
  | field (name : String)
  | position (index : Nat)
  /-- Where a field was looked for. -/
  | unknown
  deriving Repr, DecidableEq, Inhabited

/-- How a place is written. -/
def SettingsPlace.describe : SettingsPlace → String
  | whole => "."
  | field name => name
  | position index => "[" ++ toString index ++ "]"
  | unknown => "?"

end SchemaClasses
