/-
Value objects over universally unique identifiers. Texts that are none are refused by the library
that the generated class stands on.
-/
import SchemaClasses.Names
import SchemaClasses.Template.Parts

namespace SchemaClasses.Template.Uuid

def native : String := "UuidInterface"

/-- The class of an identifier with a raw name. -/
def build (filters : NameFilters) (typed : Bool) (name : String) : ClassModel :=
  let field := filters.propertyName name
  let start := ((ClassModel.valueObject .uuid typed).requireImport "Ramsey\\Uuid\\Uuid").requireImport
    "Ramsey\\Uuid\\UuidInterface"
  (start.addProperty { name := field, typeHint := native }).addMethods [
    .namedConstructor "fromString" [.typed field "string"]
      [s!"return new self(Uuid::fromString(${field}));"],
    storingConstructor native field,
    { name := "toString"
      returnType := some "string"
      body := [s!"return $this->{field}->toString();"] },
    equalsBy s!"$this->{field}->toString() === $other->{field}->toString()",
    textOf s!"$this->{field}->toString()"]

end SchemaClasses.Template.Uuid
