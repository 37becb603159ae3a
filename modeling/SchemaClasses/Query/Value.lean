/-
The values that filters work on. They are JSON values whose numbers keep more of their past: a
number that is no short whole number stays as it was written until something is computed with it.
-/
import SchemaClasses.Decimal.Nearest
import SchemaClasses.Entries
import SchemaClasses.Json.Reader
import SchemaClasses.Json.Text

namespace SchemaClasses.Query

/-! ## Values -/

/-- A number. -/
inductive Quantity where
  /-- A whole number within the range of signed 64-bit words. -/
  | whole (value : Int)
  | float (value : Float)
  /-- A number as it was written. -/
  | written (numeral : String)
  deriving Repr, Inhabited

/-- A value that filters work on. -/
inductive Value where
  | null
  | bool (value : Bool)
  | number (quantity : Quantity)
  | string (text : String)
  | array (items : List Value)
  | object (entries : List (String × Value))
  deriving Repr, Inhabited

/-- Whether a whole number is within the range of signed 64-bit words. -/
def isShort (i : Int) : Bool := -0x8000000000000000 ≤ i && i < 0x8000000000000000

/-- A number of a document; numbers that are not short and whole stay as they are written. -/
def Quantity.ofNumber (n : Json.Number) : Quantity :=
  match n with
  | .whole i => if isShort i then .whole i else .written n.text
  | .float _ => .written n.text

mutual

/-- The value of a document. -/
def Value.ofJson : Json → Value
  | .null => .null
  | .bool b => .bool b
  | .number n => .number (.ofNumber n)
  | .string text => .string text
  | .array items => .array (ofJsonItems items)
  | .object entries => .object (ofJsonEntries entries)

/-- The values of documents in an array. -/
def ofJsonItems : List Json → List Value
  | [] => []
  | item :: rest => Value.ofJson item :: ofJsonItems rest

/-- The values of documents in an object. -/
def ofJsonEntries : List (String × Json) → List (String × Value)
  | [] => []
  | (key, value) :: rest => (key, Value.ofJson value) :: ofJsonEntries rest

end

/-! ## Written values -/

/-- A number as written in documents; there is no way to write an infinite one. -/
def Quantity.text : Quantity → String
  | .whole value => toString value
  | .float value => if value.isFinite then Json.floatText value else "null"
  | .written numeral => numeral

mutual

/-- The value on one line. -/
def Value.text : Value → String
  | .null => "null"
  | .bool true => "true"
  | .bool false => "false"
  | .number quantity => quantity.text
  | .string text => Json.quoted text
  | .array items => "[" ++ ",".intercalate (itemTexts items) ++ "]"
  | .object entries => "\x7b" ++ ",".intercalate (entryTexts entries) ++ "\x7d"

/-- The items of an array, each on one line. -/
def itemTexts : List Value → List String
  | [] => []
  | item :: rest => item.text :: itemTexts rest

/-- The entries of an object, each on one line. -/
def entryTexts : List (String × Value) → List String
  | [] => []
  | (key, value) :: rest => (Json.quoted key ++ ":" ++ value.text) :: entryTexts rest

end

/-- The document that the text of a value is; absent if the text is no document, which happens to
values that are nested too deep and to numerals that documents do not allow. -/
def Value.toJson? (value : Value) : Option Json :=
  match Json.ofText value.text with
  | .ok document => some document
  | .error _ => none

/-! ## Numbers -/

/-- The value of a decimal digit. -/
def digit? (c : Char) : Option Nat := if c.isDigit then some (c.toNat - '0'.toNat) else none

/-- The number that decimal digits write; absent if some character is none. -/
def digitsValue? (digits : List Char) : Option Nat :=
  digits.foldlM (fun n c => (digit? c).map (n * 10 + ·)) 0

/-- The parts of a text before and behind the first character that satisfies a test. -/
def splitAt? (test : Char → Bool) (cs : List Char) : List Char × Option (List Char) :=
  (cs.takeWhile (!test ·), (cs.dropWhile (!test ·)).tail?)

/-- The number that digits with a sign write. -/
def signedValue? : List Char → Option Int
  | '-' :: digits => (digitsValue? digits).map fun n => -(n : Int)
  | '+' :: digits => (digitsValue? digits).map fun n => (n : Int)
  | digits => (digitsValue? digits).map fun n => (n : Int)

/-- The floating-point number nearest to a decimal without sign. -/
def unsignedFloat? (cs : List Char) : Option Float := do
  let (decimal, power) := splitAt? (fun c => c == 'e' || c == 'E') cs
  let (whole, places) := splitAt? (· == '.') decimal
  let digits := whole ++ places.getD []
  let coefficient ← digitsValue? digits
  let exponent ← signedValue? (power.getD ['0'])
  pure (Decimal.nearest coefficient digits.length (exponent - (places.getD []).length))

/-- The floating-point number nearest to a numeral; absent if it has digits that are not decimal. -/
def floatOf? (numeral : String) : Option Float :=
  match numeral.toList with
  | '-' :: cs => (unsignedFloat? cs).map (-·)
  | cs => unsignedFloat? cs

/-- A short whole number as a floating-point number. -/
def wholeFloat (i : Int) : Float := if i < 0 then -(Float.ofNat i.natAbs) else Float.ofNat i.natAbs

/-- A number as a floating-point number. -/
def Quantity.toFloat? : Quantity → Option Float
  | .whole i => some (wholeFloat i)
  | .float x => some x
  | .written numeral => floatOf? numeral

/-- Whether two numbers are equal: short whole numbers exactly, others as floating-point numbers. -/
def Quantity.same : Quantity → Quantity → Bool
  | .whole a, .whole b => a == b
  | a, b =>
    match a.toFloat?, b.toFloat? with
    | some x, some y => x == y
    | none, none => true
    | _, _ => false

/-- The negative of a number. -/
def Quantity.negative? : Quantity → Option Quantity
  | .whole i => some (.whole (-i))
  | other => other.toFloat?.map fun x => .float (-x)

/-- Whether a value is `null`, or a numeral whose digits are not decimal: it counts as `null` where
values are compared. -/
def Value.isNull : Value → Bool
  | .null => true
  | .number quantity => quantity.toFloat?.isNone
  | _ => false

/-! ## Equality -/

mutual

/-- Whether two values are equal; the order of entries does not count. -/
def same : Value → Value → Bool
  | .number a, .number b => a.same b
  | .bool a, .bool b => a == b
  | .string a, .string b => a == b
  | .array a, .array b => sameItems a b
  | .object a, .object b => a.length == b.length && sameEntries a b
  | a, b => a.isNull && b.isNull

/-- Whether items are equal one by one. -/
def sameItems : List Value → List Value → Bool
  | [], [] => true
  | a :: as, b :: bs => same a b && sameItems as bs
  | _, _ => false

/-- Whether every entry has an equal one under its key. -/
def sameEntries : List (String × Value) → List (String × Value) → Bool
  | [], _ => true
  | (key, value) :: rest, others =>
    (match Entries.at? others key with
      | some other => same value other
      | none => false) && sameEntries rest others

end

/-- Whether a value counts as true: all do but `null` and `false`. -/
def Value.isTrue : Value → Bool
  | .null | .bool false => false
  | _ => true

/-! ## Looking into values -/

/-- A place counted from the front, or from the end if it is negative. -/
def place (i : Int) (size : Nat) : Int := if i < 0 then size + i else i

/-- The value under a key of an object or at a place of an array; `null` if there is none. Other
values cannot be looked into. -/
def Value.look? : Value → Value → Option Value
  | .array items, .number (.whole i) =>
    let position := place i items.length
    some (if position < 0 then .null else items[position.toNat]?.getD .null)
  | .object entries, .string key => some ((Entries.at? entries key).getD .null)
  | _, _ => none

/-- A bound of a slice, kept within the size. -/
def bound (size usual : Nat) : Option Value → Option Nat
  | none => some usual
  | some (.number (.whole i)) => some (min size (place i size).toNat)
  | some _ => none

/-- The part of a list between two bounds. -/
def sliceList? {α : Type} (items : List α) (lower upper : Option Value) : Option (List α) := do
  let low ← bound items.length 0 lower
  let high ← bound items.length items.length upper
  pure ((items.take high).drop low)

/-- The part of an array or text between two bounds. -/
def Value.slice? (lower upper : Option Value) : Value → Option Value
  | .array items => (sliceList? items lower upper).map .array
  | .string text => (sliceList? text.toList lower upper).map (.string ∘ String.ofList)
  | _ => none

/-- The items of an array or the values of an object. -/
def Value.items? : Value → Option (List Value)
  | .array items => some items
  | .object entries => some (Entries.values entries)
  | _ => none

end SchemaClasses.Query
