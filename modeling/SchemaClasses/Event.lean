/-
What a generation reports while it runs.
-/
namespace SchemaClasses

/-- How severe an event is, the least severe one first. -/
inductive Level where
  | debug
  | info
  | warn
  deriving Repr, DecidableEq, Inhabited

/-- The rank of a level. -/
def Level.rank : Level → Nat
  | debug => 0
  | info => 1
  | warn => 2

/-- Something that happened during a generation. -/
inductive Event where
  /-- A reference into another document was met. -/
  | foreignReference (pointer : String)
  /-- A reference to a target in progress was met. -/
  | recursiveReference (pointer : String)
  /-- Alternatives behind the first one were left out. -/
  | unionNarrowed (name : String) (alternatives : Nat)
  /-- A class took the place of another one of the same name. -/
  | classReplaced (fqcn : String)
  /-- An enum value got no named constructor, because there was a method of its name. -/
  | enumValueSkipped (value method : String)
  | valueObjectBuilt (fqcn kind : String)
  | entityBuilt (fqcn : String) (properties : Nat)
  | modelBuilt (root : String) (classes : Nat)
  deriving Repr, DecidableEq, Inhabited

/-- A field of a reported event. -/
inductive EventField where
  | text (value : String)
  | count (value : Nat)
  deriving Repr, DecidableEq, Inhabited

namespace Event

def level : Event → Level
  | foreignReference _ | recursiveReference _ | unionNarrowed .. | classReplaced _
  | enumValueSkipped .. => .warn
  | modelBuilt .. => .info
  | valueObjectBuilt .. | entityBuilt .. => .debug

/-- The wording of an event. -/
def message : Event → String
  | foreignReference _ => "only local references are resolved"
  | recursiveReference _ => "recursive reference left unresolved"
  | unionNarrowed .. => "only the first type of a union is generated"
  | classReplaced _ => "replaced previously generated class with a different shape"
  | enumValueSkipped .. => "enum value collides with an existing method; skipped"
  | valueObjectBuilt .. => "generated value object"
  | entityBuilt .. => "generated class"
  | modelBuilt .. => "generated class model"

/-- What an event says besides its message. -/
def fields : Event → List (String × EventField)
  | foreignReference pointer | recursiveReference pointer => [("pointer", .text pointer)]
  | unionNarrowed name alternatives => [("name", .text name), ("alternatives", .count alternatives)]
  | classReplaced fqcn => [("class", .text fqcn)]
  | enumValueSkipped value method => [("value", .text value), ("method", .text method)]
  | valueObjectBuilt fqcn kind => [("class", .text fqcn), ("kind", .text kind)]
  | entityBuilt fqcn properties => [("class", .text fqcn), ("properties", .count properties)]
  | modelBuilt root classes => [("root", .text root), ("classes", .count classes)]

/-- Whether an event is at least as severe as a level. -/
def reaches (least : Level) (e : Event) : Bool := least.rank ≤ e.level.rank

end Event

end SchemaClasses
