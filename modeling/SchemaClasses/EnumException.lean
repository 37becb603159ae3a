/-
The exceptions that enum value objects throw: one class for each enum, with a named constructor that
says which value was refused and which ones are allowed.
-/
import SchemaClasses.Class.Basic
import SchemaClasses.Error
import SchemaClasses.Names
import SchemaClasses.Schema.TypeDef

namespace SchemaClasses.EnumException

/-- The namespace of the exceptions for value objects of a namespace. -/
def space (valueObjectSpace : String) : String := qualify valueObjectSpace "Exception"

/-- The name of the exception for an enum with a raw name. -/
def className (filters : NameFilters) (sourceName : String) : String :=
  "Invalid" ++ filters.className sourceName

/-- The named constructor of that exception. -/
def methodName (filters : NameFilters) (sourceName : String) : String :=
  filters.methodName ("for_" ++ sourceName)

/-- The fully-qualified name of the exception for an enum in a namespace. -/
def fqcn (filters : NameFilters) (sourceName valueObjectSpace : String) : String :=
  qualify (space valueObjectSpace) (className filters sourceName)

/-- The exception for an enum with a raw name and the fully-qualified name of its class. -/
def build (filters : NameFilters) (typed : Bool) (sourceName valueObject : String) : ClassModel :=
  let short := shortName valueObject
  let arg := filters.propertyName sourceName
  let start : ClassModel := {
    name := className filters sourceName
    space := space (namespaceOf valueObject)
    kind := .exception
    typed := typed
    parent := some "InvalidArgumentException" }
  ((start.addImport valueObject).addImport "InvalidArgumentException").addMethod
    (.namedConstructor (methodName filters sourceName) [.typed arg "string"] [
      s!"return new self(sprintf('Invalid value for \"{short}\" given. Got \"%s\", " ++
        s!"but allowed values are ' . implode(', ', {short}::CHOICES), ${arg}));"])

/-- The exception for an enumerated string whose class is `valueObject`. -/
def ofDefinition (filters : NameFilters) (typed : Bool) (definition : TypeDef)
    (valueObject : String) : Except GenerateError ClassModel :=
  match definition with
  | .string traits _ (some _) => .ok (build filters typed (nameOr traits.name "text") valueObject)
  | other => .error (.unsupported other.kindName other.name .noException)

/-- The exception for the class of an enum. -/
def ofClass (filters : NameFilters) (typed : Bool) (c : ClassModel) :
    Except GenerateError ClassModel :=
  match c.kind with
  | .valueObject (.enum sourceName) => .ok (build filters typed sourceName c.fqcn)
  | _ => .error (.unsupported "class" c.fqcn .noException)

end SchemaClasses.EnumException
