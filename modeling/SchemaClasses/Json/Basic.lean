/-
JSON documents. Objects keep the order of their entries; every key occurs once.
-/
namespace SchemaClasses

/-- A number is whole, within the range of signed and unsigned 64-bit words, or floating-point. -/
inductive Json.Number where
  | whole (value : Int)
  | float (value : Float)
  deriving Repr, Inhabited

/-- A JSON value. -/
inductive Json where
  | null
  | bool (value : Bool)
  | number (value : Json.Number)
  | string (text : String)
  | array (items : List Json)
  | object (entries : List (String × Json))
  deriving Repr, Inhabited

namespace Json

/-- The value under a key of an object. -/
def get? (key : String) : Json → Option Json
  | object entries => entries.lookup key
  | _ => none

/-- The text of a string value. -/
def text? : Json → Option String
  | string text => some text
  | _ => none

/-- The truth value of a Boolean. -/
def bool? : Json → Option Bool
  | bool value => some value
  | _ => none

/-- The items of an array. -/
def items? : Json → Option (List Json)
  | array items => some items
  | _ => none

/-- The entries of an object. -/
def entries? : Json → Option (List (String × Json))
  | object entries => some entries
  | _ => none

end Json

end SchemaClasses
