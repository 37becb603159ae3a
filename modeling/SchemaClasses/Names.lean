/-
Naming policy of the generated code. Every class, property, method and constant takes its name from
a schema name through a `NameFilters`; the conventional filters write words in the usual case of
each kind of name, and a `NameOverrides` replaces single slots.
-/
import SchemaClasses.Text.Alphanumeric
import SchemaClasses.Text.Blank
import SchemaClasses.Text.Words

namespace SchemaClasses

open Text

/-- The five transforms from a raw schema name to a name in the generated code. -/
structure NameFilters where
  className : String → String
  propertyName : String → String
  methodName : String → String
  constName : String → String
  constValue : String → String

/-- The raw name with a space for every character that cannot stand in an identifier, and no blank
ends. -/
def sanitize (raw : List Char) : List Char :=
  trimBoth isBlank (raw.map fun c => if isAlphanumeric c || c == '_' then c else ' ')

/-- A way of writing words, as a transform of raw names. -/
def conventional (write : List Char → List Char) (raw : String) : String :=
  String.ofList (write (sanitize raw.toList))

/-- `PascalCase` classes, `camelCase` members, `UPPER_SNAKE` constant names and `snake_case`
constant values. -/
def conventionalNames : NameFilters where
  className := conventional pascalCase
  propertyName := conventional camelCase
  methodName := conventional camelCase
  constName := conventional upperSnakeCase
  constValue := conventional snakeCase

/-! ## Replacing single slots -/

/-- Transforms for some of the five slots. -/
structure NameOverrides where
  className : Option (String → String) := none
  propertyName : Option (String → String) := none
  methodName : Option (String → String) := none
  constName : Option (String → String) := none
  constValue : Option (String → String) := none

namespace NameOverrides

/-- The filters that use the given slots and are conventional in the others. -/
def filters (o : NameOverrides) : NameFilters where
  className := o.className.getD conventionalNames.className
  propertyName := o.propertyName.getD conventionalNames.propertyName
  methodName := o.methodName.getD conventionalNames.methodName
  constName := o.constName.getD conventionalNames.constName
  constValue := o.constValue.getD conventionalNames.constValue

/-- Shows which slots are given. -/
def describe (o : NameOverrides) : String :=
  let slot (name : String) (given : Bool) := name ++ ": " ++ (if given then "true" else "false")
  let slots := [slot "class_name" o.className.isSome, slot "property_name" o.propertyName.isSome,
    slot "method_name" o.methodName.isSome, slot "const_name" o.constName.isSome,
    slot "const_value" o.constValue.isSome]
  "FnNameFilters \x7b " ++ ", ".intercalate slots ++ " \x7d"

end NameOverrides

/-- A transform of raw names given as data: the name itself, the conventional name between two
fixed texts, or a fixed text. -/
inductive NameRule where
  | unchanged
  | framed (before after : String)
  | fixed (text : String)
  deriving Repr, DecidableEq

/-- The transform that a rule stands for in a slot whose conventional transform is `usual`. -/
def NameRule.apply (usual : String → String) : NameRule → String → String
  | unchanged, raw => raw
  | framed before after, raw => before ++ usual raw ++ after
  | fixed text, _ => text

end SchemaClasses
