/-
Methods that several templates of value objects share. A value object keeps its raw value in one
private field, is made by a named constructor and never changes.
-/
import SchemaClasses.Class.Basic

namespace SchemaClasses.Template

/-- The named constructor that takes the raw value. -/
def fromNative (name native field : String) : Method :=
  .namedConstructor name [.typed field native] [s!"return new self(${field});"]

/-- The constructor that stores the raw value, reached through named constructors only. -/
def storingConstructor (native field : String) : Method where
  name := "__construct"
  params := [.typed field native]
  body := [s!"$this->{field} = ${field};"]
  visibility := .forSelf

/-- The accessor of a field. -/
def accessor (name native field : String) : Method where
  name := name
  returnType := some native
  body := [s!"return $this->{field};"]

/-- Equality: objects of another class differ, and those of the same class are compared by an
expression. -/
def equalsBy (comparison : String) : Method where
  name := "equals"
  params := [⟨"other", none, none, false⟩]
  returnType := some "bool"
  body := [
    "if (!$other instanceof self) \x7b",
    "    return false;",
    "\x7d",
    s!"return {comparison};"]

/-- Equality of a field. -/
def equalsField (field : String) : Method := equalsBy s!"$this->{field} === $other->{field}"

/-- The text of the object is an expression. -/
def textOf (expression : String) : Method where
  name := "__toString"
  returnType := some "string"
  body := [s!"return {expression};"]

end SchemaClasses.Template
