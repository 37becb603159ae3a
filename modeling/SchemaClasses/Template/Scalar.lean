/-
Value objects over plain strings, whole numbers, numbers and truth values. They differ in the native
type, in the names of the conversion and in how the value is written as text.
-/
import SchemaClasses.Names
import SchemaClasses.Template.Parts

namespace SchemaClasses.Template

/-- What tells one scalar template from another. -/
structure Scalar where
  kind : ValueObjectKind
  /-- The name of a definition that has none. -/
  defaultName : String
  /-- The text of the value that is kept in a field. -/
  textExpression : String → String

namespace Scalar

def text : Scalar := ⟨.string, "text", fun field => s!"$this->{field}"⟩
def integer : Scalar := ⟨.integer, "number", fun field => s!"(string) $this->{field}"⟩
def number : Scalar := ⟨.number, "number", fun field => s!"(string) $this->{field}"⟩
def boolean : Scalar := ⟨.boolean, "boolean", fun field => s!"$this->{field} ? 'TRUE' : 'FALSE'"⟩

/-- The class of a scalar with a raw name. -/
def build (scalar : Scalar) (filters : NameFilters) (typed : Bool) (name : String) : ClassModel :=
  let field := filters.propertyName name
  let conversion := scalar.kind.conversion
  let native := conversion.native
  ((ClassModel.valueObject scalar.kind typed).addProperty { name := field, typeHint := native }).addMethods [
    fromNative conversion.wrap native field,
    storingConstructor native field,
    accessor conversion.unwrap native field,
    equalsField field,
    textOf (scalar.textExpression field)]

end Scalar

end SchemaClasses.Template
