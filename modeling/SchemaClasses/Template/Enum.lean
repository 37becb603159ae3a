/-
Value objects over enumerated strings. Every allowed value is a private constant and has a named
constructor; `CHOICES` lists the constants in the order of the schema, and any other value is
refused with the exception that goes with the enum.
-/
import SchemaClasses.EnumException
import SchemaClasses.Event
import SchemaClasses.Template.Parts

namespace SchemaClasses.Template.Enum

/-- The constants of the allowed values. -/
def constants (filters : NameFilters) (values : List String) : List Constant :=
  values.map fun value => ⟨filters.constName value, .text value, .forSelf⟩

/-- The list of the allowed values. -/
def choices (filters : NameFilters) (values : List String) : Constant :=
  ⟨"CHOICES", .selfList (values.map filters.constName), .forAll⟩

/-- The named constructor of a value. -/
def choiceConstructor (filters : NameFilters) (value : String) : Method :=
  .namedConstructor (filters.constValue value) []
    [s!"return new self(self::{filters.constName value});"]

/-- Adds the named constructors of values. A value whose constructor would take the name of a method
that is there already is skipped. -/
def addChoices (filters : NameFilters) : List String → ClassModel → ClassModel × List Event
  | [], c => (c, [])
  | value :: rest, c =>
    let method := choiceConstructor filters value
    if c.hasMethod method.name then
      let (built, events) := addChoices filters rest c
      (built, .enumValueSkipped value method.name :: events)
    else addChoices filters rest (c.addMethod method)

/-- The methods that stand behind the named constructors. -/
def closingMethods (filters : NameFilters) (name field : String) : List Method :=
  let thrown := EnumException.className filters name
  let maker := EnumException.methodName filters name
  [{ name := "__construct"
     params := [.typed field "string"]
     body := [
       s!"if (false === in_array(${field}, self::CHOICES, true)) \x7b",
       s!"    throw {thrown}::{maker}(${field});",
       "\x7d",
       s!"$this->{field} = ${field};"]
     visibility := .forSelf },
   accessor "toString" "string" field,
   equalsField field,
   { name := "isOneOf"
     params := [(Param.typed "others" "self").many]
     returnType := some "bool"
     body := [
       "foreach ($others as $other) \x7b",
       "    if ($this->equals($other)) \x7b",
       "        return true;",
       "    \x7d",
       "\x7d",
       "return false;"] },
   textOf s!"$this->{field}"]

/-- The class of an enum with a raw name, and the values that got no named constructor. -/
def build (filters : NameFilters) (typed : Bool) (name : String) (values : List String) :
    ClassModel × List Event :=
  let field := filters.propertyName name
  let start := ClassModel.valueObject (.enum name) typed
  let withConstants := ((constants filters values).foldl ClassModel.addConstant start).addConstant
    (choices filters values)
  let held := (withConstants.addProperty { name := field, typeHint := "string" }).addMethod
    (fromNative "fromString" "string" field)
  let (withChoices, events) := addChoices filters values held
  (withChoices.addMethods (closingMethods filters name field), events)

end SchemaClasses.Template.Enum
