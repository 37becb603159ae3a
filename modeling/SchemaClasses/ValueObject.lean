/-
Value objects from type definitions: each definition goes to the template for its kind, a string by
its enumerated values or its format.
-/
import SchemaClasses.Template.DateTime
import SchemaClasses.Template.Enum
import SchemaClasses.Template.LanguageTag
import SchemaClasses.Template.List
import SchemaClasses.Template.Scalar
import SchemaClasses.Template.Uuid

namespace SchemaClasses

open Template

/-- How value objects are made: the naming, whether types are written natively, and the format in
which dates are written out. -/
structure ValueObjects where
  filters : NameFilters
  typed : Bool
  dateTimeFormat : String := DateTime.defaultFormat

namespace ValueObjects

/-- The class of a string definition, and the events of its making. -/
def ofString (v : ValueObjects) (traits : Traits) (format : Option String)
    (choices : Option (List String)) : ClassModel × List Event :=
  let name (default : String) := nameOr traits.name default
  match choices with
  | some values => Enum.build v.filters v.typed (name "text") values
  | none =>
    let built := match format with
      | some "date-time" | some "ISO 8601" =>
        DateTime.build v.filters v.typed v.dateTimeFormat (name "dateTime")
      | some "uuid" => Uuid.build v.filters v.typed (name "uuid")
      | some "BCP 47" => LanguageTag.build v.filters v.typed (name "bcp47")
      | _ => Scalar.text.build v.filters v.typed (name Scalar.text.defaultName)
    (built, [])

/-- The class of a scalar definition. -/
def ofScalar (v : ValueObjects) (scalar : Scalar) (traits : Traits) : ClassModel × List Event :=
  (scalar.build v.filters v.typed (nameOr traits.name scalar.defaultName), [])

/-- The class of a definition, still without a name of its own. Objects and references have no
template. -/
def template (v : ValueObjects) (definition : TypeDef) :
    Except GenerateError (ClassModel × List Event) :=
  match definition with
  | .string traits format choices => .ok (v.ofString traits format choices)
  | .integer traits => .ok (v.ofScalar .integer traits)
  | .number traits => .ok (v.ofScalar .number traits)
  | .boolean traits => .ok (v.ofScalar .boolean traits)
  | .array traits items => (ListOf.ofArray v.filters v.typed traits items).map fun c => (c, [])
  | .object .. | .reference .. =>
    .error (.unsupported definition.kindName definition.name .noTemplate)

/-- A class with the import that its kind calls for: enums import their exception. -/
def withException (filters : NameFilters) (c : ClassModel) : ClassModel :=
  match c.kind with
  | .valueObject (.enum sourceName) =>
    c.requireImport (EnumException.fqcn filters sourceName c.space)
  | _ => c

/-- The class of a definition under a name in a namespace. -/
def build (v : ValueObjects) (className space : String) (definition : TypeDef) :
    Except GenerateError (ClassModel × List Event) :=
  match v.template definition with
  | .error e => .error e
  | .ok (made, events) =>
    let named : ClassModel :=
      { made with name := className, space := space, isStrict := true, isFinal := true }
    let built := withException v.filters named
    .ok (built, events ++ [.valueObjectBuilt built.fqcn definition.kindName])

end ValueObjects

end SchemaClasses
