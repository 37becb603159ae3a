/-
The class model: classes with their constants, properties and methods, as they are generated from a
schema and printed as source text.
-/
import SchemaClasses.Class.Name
import SchemaClasses.Entries

namespace SchemaClasses

/-! ## Kinds of classes and their raw values -/

/-- Who may use a member. -/
inductive Visibility where
  | forAll
  | forHeirs
  | forSelf
  deriving Repr, DecidableEq, Inhabited

/-- The word that declares a visibility. -/
def Visibility.keyword : Visibility → String
  | forAll => "public"
  | forHeirs => "protected"
  | forSelf => "private"

/-- The templates of value objects. An enum keeps the raw name that its exception is named after. -/
inductive ValueObjectKind where
  | string
  | integer
  | number
  | boolean
  | dateTime
  | uuid
  | bcp47
  | enum (sourceName : String)
  | array
  deriving Repr, DecidableEq, Inhabited

/-- What a class is: an entity with typed properties, a value object or an exception. -/
inductive ClassKind where
  | entity
  | valueObject (kind : ValueObjectKind)
  | exception
  deriving Repr, DecidableEq, Inhabited

/-- How a class is made from a raw value and turned back into it: the native type of the value, the
named constructor and the accessor. -/
structure Conversion where
  native : String
  wrap : String
  unwrap : String
  deriving Repr, DecidableEq, Inhabited

namespace Conversion

def string : Conversion := ⟨"string", "fromString", "toString"⟩
def int : Conversion := ⟨"int", "fromInt", "toInt"⟩
def float : Conversion := ⟨"float", "fromFloat", "toFloat"⟩
def bool : Conversion := ⟨"bool", "fromBool", "toBool"⟩
def array : Conversion := ⟨"array", "fromArray", "toArray"⟩

end Conversion

/-- The conversion of a value object. -/
def ValueObjectKind.conversion : ValueObjectKind → Conversion
  | string | dateTime | uuid | bcp47 | enum _ => Conversion.string
  | integer => Conversion.int
  | number => Conversion.float
  | boolean => Conversion.bool
  | array => Conversion.array

/-- Entities convert through arrays; exceptions have no raw value. -/
def ClassKind.conversion? : ClassKind → Option Conversion
  | entity => some Conversion.array
  | valueObject kind => some kind.conversion
  | exception => none

/-! ## Members -/

/-- A property. Its type hint begins with `?` when the property may be null. -/
structure Property where
  name : String
  /-- The schema key that the property was generated from. -/
  sourceName : Option String := none
  typeHint : String
  docHint : Option String := none
  initial : Option String := none
  visibility : Visibility := .forSelf
  deriving Repr, DecidableEq, Inhabited

/-- The key of the property in the raw array form of its class. -/
def Property.rawKey (p : Property) : String := p.sourceName.getD p.name

/-- Whether the property may be null. -/
def Property.isNullable (p : Property) : Bool := p.typeHint.toList.head? == some '?'

/-- A parameter of a method. -/
structure Param where
  name : String
  typeHint : Option String := none
  docHint : Option String := none
  variadic : Bool := false
  deriving Repr, DecidableEq, Inhabited

/-- A parameter with a type. -/
def Param.typed (name typeHint : String) : Param where
  name := name
  typeHint := some typeHint

/-- The parameter that takes any number of arguments. -/
def Param.many (p : Param) : Param := { p with variadic := true }

/-- A method; its body is a list of lines. -/
structure Method where
  name : String
  params : List Param := []
  returnType : Option String := none
  returnDocHint : Option String := none
  body : List String := []
  isStatic : Bool := false
  visibility : Visibility := .forAll
  deriving Repr, DecidableEq, Inhabited

/-- A static method that makes an instance of its own class. -/
def Method.namedConstructor (name : String) (params : List Param) (body : List String) : Method where
  name := name
  params := params
  returnType := some "self"
  body := body
  isStatic := true

/-- The value of a constant: a text, the list of other constants of the class, or an expression
that is written as it stands. -/
inductive ConstValue where
  | text (value : String)
  | selfList (names : List String)
  | raw (expression : String)
  deriving Repr, DecidableEq, Inhabited

/-- A constant. -/
structure Constant where
  name : String
  value : ConstValue
  visibility : Visibility := .forAll
  deriving Repr, DecidableEq, Inhabited

/-! ## Classes -/

/-- A class. Imports are a set in the order of their first mention, and members of each sort are
kept in the order in which their names first came. -/
structure ClassModel where
  name : String
  space : String
  kind : ClassKind
  isFinal : Bool := true
  isStrict : Bool := true
  typed : Bool := true
  parent : Option String := none
  interfaces : List String := []
  imports : List String := []
  constants : Entries Constant := []
  properties : Entries Property := []
  methods : Entries Method := []
  deriving Repr, Inhabited

/-- The methods that mark a class made by hand as a value object. -/
def markerMethods : List String := ["fromItems", "toString", "toInt", "toFloat", "toBool"]

namespace ClassModel

/-- An entity without members. -/
def entity (name space : String) : ClassModel where
  name := name
  space := space
  kind := .entity

/-- A value object without name and members. -/
def valueObject (kind : ValueObjectKind) (typed : Bool) : ClassModel where
  name := ""
  space := ""
  kind := .valueObject kind
  typed := typed

/-- The class with types written natively or not. -/
def setTyped (c : ClassModel) (typed : Bool) : ClassModel := { c with typed := typed }

/-- The fully-qualified name. -/
def fqcn (c : ClassModel) : String := qualify c.space c.name

/-- Whether the class is a value object. -/
def isValueObject (c : ClassModel) : Bool :=
  match c.kind with
  | .valueObject _ => true
  | _ => false

def hasMethod (c : ClassModel) (name : String) : Bool := c.methods.hasName name

def hasConstant (c : ClassModel) (name : String) : Bool := c.constants.hasName name

def hasProperty (c : ClassModel) (name : String) : Bool := c.properties.hasName name

/-- Whether the class has one of the marker methods. -/
def hasMarkerMethod (c : ClassModel) : Bool := markerMethods.any c.hasMethod

def addProperty (c : ClassModel) (p : Property) : ClassModel :=
  { c with properties := c.properties.put p.name p }

def addMethod (c : ClassModel) (m : Method) : ClassModel :=
  { c with methods := c.methods.put m.name m }

def addMethods (c : ClassModel) (ms : List Method) : ClassModel := ms.foldl addMethod c

def addConstant (c : ClassModel) (k : Constant) : ClassModel :=
  { c with constants := c.constants.put k.name k }

/-- Imports a class, whatever its namespace. -/
def requireImport (c : ClassModel) (fqcn : String) : ClassModel :=
  let fqcn := withoutLeadingBackslashes fqcn
  if fqcn ∈ c.imports then c else { c with imports := c.imports ++ [fqcn] }

/-- Imports a class unless it lies in the namespace of this one. -/
def addImport (c : ClassModel) (fqcn : String) : ClassModel :=
  if namespaceOf fqcn = c.space then c else c.requireImport fqcn

/-- Whether two lists without repetition have the same members. -/
def sameImports (a b : List String) : Bool := a.length == b.length && a.all (b.contains ·)

/-- Whether two classes are equal up to the order of imports and of members. -/
def sameShape (a b : ClassModel) : Bool :=
  a.name == b.name && a.space == b.space && a.kind == b.kind && a.isFinal == b.isFinal &&
    a.isStrict == b.isStrict && a.typed == b.typed && a.parent == b.parent &&
    a.interfaces == b.interfaces && sameImports a.imports b.imports &&
    a.constants.sameEntries b.constants && a.properties.sameEntries b.properties &&
    a.methods.sameEntries b.methods

end ClassModel

end SchemaClasses
