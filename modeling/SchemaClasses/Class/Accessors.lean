/-
Two additions to finished classes: a getter for each property, and a constant for each property that
holds its raw name. Value objects are left alone, and so are classes made by hand that carry a marker
method; a member that is there already is never replaced.
-/
import SchemaClasses.Class.Collection
import SchemaClasses.Names

namespace SchemaClasses

namespace ClassModel

/-- Whether a class is a value object or marked as one. -/
def isLikeValueObject (c : ClassModel) : Bool := c.isValueObject || c.hasMarkerMethod

/-- The getter of a property. -/
def getter (filters : NameFilters) (typed : Bool) (p : Property) : Method where
  name := filters.methodName p.name
  returnType := if typed then some p.typeHint else none
  returnDocHint := p.docHint
  body := [s!"return $this->{p.name};"]

/-- The getters that the class does not have. -/
def missingGetters (filters : NameFilters) (typed : Bool) (c : ClassModel) : List Method :=
  (c.properties.values.map (getter filters typed)).filter fun m => !c.hasMethod m.name

/-- The class with a getter for each property. -/
def withGetters (filters : NameFilters) (typed : Bool) (c : ClassModel) : ClassModel :=
  if c.isLikeValueObject then c else c.addMethods (c.missingGetters filters typed)

/-- The constant of a property. -/
def propertyConstant (filters : NameFilters) (p : Property) : Constant where
  name := filters.constName p.name
  value := .text (filters.constValue p.name)

/-- The constants of properties that the class does not have. -/
def missingConstants (filters : NameFilters) (c : ClassModel) : List Constant :=
  (c.properties.values.map (propertyConstant filters)).filter fun k => !c.hasConstant k.name

/-- The class with a constant for each property. -/
def withPropertyConstants (filters : NameFilters) (c : ClassModel) : ClassModel :=
  if c.isLikeValueObject then c else (c.missingConstants filters).foldl addConstant c

end ClassModel

namespace Collection

/-- Adds getters to every class. -/
def addGetters (filters : NameFilters) (typed : Bool) : Collection → Collection :=
  mapClasses (·.withGetters filters typed)

/-- Adds the constants of properties to every class. -/
def addPropertyConstants (filters : NameFilters) : Collection → Collection :=
  mapClasses (·.withPropertyConstants filters)

end Collection

end SchemaClasses
