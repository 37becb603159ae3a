/-
The typed model of a schema: what the generator knows about a value that a schema describes.
-/
import SchemaClasses.Text.Blank
import SchemaClasses.Text.Segments

namespace SchemaClasses

/-! ## Alternatives -/

/-- One or more alternatives in order. -/
structure Alternatives (α : Type u) where
  first : α
  others : List α := []
  deriving Repr, DecidableEq, Inhabited

namespace Alternatives

variable {α : Type u} {β : Type v}

/-- All alternatives, the first one in front. -/
def toList (a : Alternatives α) : List α := a.first :: a.others

/-- The number of alternatives. -/
def count (a : Alternatives α) : Nat := a.others.length + 1

/-- Changes every alternative. -/
def map (f : α → β) (a : Alternatives α) : Alternatives β := ⟨f a.first, a.others.map f⟩

/-- Alternatives from a list that is not empty. -/
def ofList? : List α → Option (Alternatives α)
  | [] => none
  | first :: others => some ⟨first, others⟩

end Alternatives

/-! ## Type definitions -/

/-- What every type definition has. -/
structure Traits where
  name : String := ""
  required : Bool := false
  nullable : Bool := false
  /-- The value of the namespace keyword: segments that are added to the ambient namespace. -/
  segments : Option String := none
  deriving Repr, DecidableEq, Inhabited

/-- The type of a value. The properties of an object stand in the order of the schema. A reference
keeps the text that it was made by, and what that text leads to, if anything. -/
inductive TypeDef where
  | object (traits : Traits) (properties : List (String × Alternatives TypeDef))
  | array (traits : Traits) (items : List (Alternatives TypeDef))
  | string (traits : Traits) (format : Option String) (choices : Option (List String))
  | integer (traits : Traits)
  | number (traits : Traits)
  | boolean (traits : Traits)
  | reference (traits : Traits) (pointer : String) (resolved : Option (Alternatives TypeDef))
  deriving Repr, Inhabited

/-- The alternatives at one place of a schema. -/
abbrev TypeSet := Alternatives TypeDef

namespace TypeDef

def traits : TypeDef → Traits
  | object t _ | array t _ | string t _ _ | integer t | number t | boolean t | reference t _ _ => t

/-- The definition with other traits. -/
def withTraits (t : Traits) : TypeDef → TypeDef
  | object _ properties => object t properties
  | array _ items => array t items
  | string _ format choices => string t format choices
  | integer _ => integer t
  | number _ => number t
  | boolean _ => boolean t
  | reference _ pointer resolved => reference t pointer resolved

def name (d : TypeDef) : String := d.traits.name

def isRequired (d : TypeDef) : Bool := d.traits.required

def isNullable (d : TypeDef) : Bool := d.traits.nullable

/-- The namespace segments of the definition; segments of backslashes alone do not count. -/
def customNamespace? (d : TypeDef) : Option String :=
  d.traits.segments.filter fun segments => Text.trimBackslashes segments != ""

/-- The definition, marked as required or not. -/
def setRequired (required : Bool) (d : TypeDef) : TypeDef :=
  d.withTraits { d.traits with required := required }

/-- The word for the kind of the definition. -/
def kindName : TypeDef → String
  | object .. => "object"
  | array .. => "array"
  | string .. => "string"
  | integer _ => "integer"
  | number _ => "number"
  | boolean _ => "boolean"
  | reference .. => "reference"

end TypeDef

/-- What stands behind the last slash of a pointer. -/
def targetName (pointer : String) : String :=
  String.ofList (Text.afterLast '/' pointer.toList)

/-- A name, or another one if it is empty. -/
def nameOr (name default : String) : String := if name = "" then default else name

end SchemaClasses
