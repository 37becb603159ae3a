/-
How JSON documents are written: on one line, or with every item on a line of its own.
-/
import SchemaClasses.Decimal.Shortest
import SchemaClasses.Json.Basic

namespace SchemaClasses.Json

/-! ## Strings -/

/-- The two lower-case hexadecimal digits of a control character. -/
def hexPair (n : Nat) : List Char := [Nat.digitChar (n / 16), Nat.digitChar (n % 16)]

/-- A character as it stands inside a quoted string: quotes, backslashes and control characters are
escaped, all others stand for themselves. -/
def escapeChar (c : Char) : List Char :=
  match c with
  | '"' => ['\\', '"']
  | '\\' => ['\\', '\\']
  | '\x08' => ['\\', 'b']
  | '\x0c' => ['\\', 'f']
  | '\n' => ['\\', 'n']
  | '\r' => ['\\', 'r']
  | '\t' => ['\\', 't']
  | c => if c.toNat < 0x20 then ['\\', 'u', '0', '0'] ++ hexPair c.toNat else [c]

/-- A text in quotes. -/
def quoted (text : String) : String :=
  String.ofList ('"' :: (text.toList.flatMap escapeChar ++ ['"']))

/-! ## Numbers -/

/-- Where numbers change from positional to exponential notation, as decimal exponents of their
first digit. -/
structure Notation10 where
  least : Int
  greatest : Int

/-- Numbers from `0.00001` up to below `10 ^ 16` are written positionally. -/
def positional : Notation10 := ⟨-5, 15⟩

/-- The digits with a point behind the first `n` of them; zeros fill up on either side, and a
number without fraction ends in `.0`. -/
def placePoint (digits : List Char) (n : Int) : List Char :=
  if n ≤ 0 then ['0', '.'] ++ List.replicate (-n).toNat '0' ++ digits
  else if digits.length ≤ n.toNat then
    digits ++ List.replicate (n.toNat - digits.length) '0' ++ ['.', '0']
  else digits.take n.toNat ++ '.' :: digits.drop n.toNat

/-- The digits with a point behind the first, and the exponent with its sign. -/
def withExponent (digits : List Char) (e : Int) : List Char :=
  let sign := if e < 0 then '-' else '+'
  let power := 'e' :: sign :: (toString e.natAbs).toList
  match digits with
  | [] => power
  | [d] => d :: power
  | d :: rest => d :: '.' :: rest ++ power

/-- A finite floating-point number with the fewest digits that read back as it. -/
def floatText (x : Float) : String :=
  let s := Decimal.shortest x
  let digits := (toString s.coefficient).toList
  let first : Int := digits.length + s.exponent - 1
  let body :=
    if s.coefficient = 0 then ['0', '.', '0']
    else if positional.least ≤ first ∧ first ≤ positional.greatest then placePoint digits (first + 1)
    else withExponent digits first
  String.ofList (if Decimal.isNegative x then '-' :: body else body)

/-- A number as written in documents. -/
def Number.text : Number → String
  | whole value => toString value
  | float value => floatText value

/-! ## Documents -/

mutual

/-- The document on one line without spaces. -/
def compact : Json → String
  | null => "null"
  | bool true => "true"
  | bool false => "false"
  | number n => n.text
  | string text => quoted text
  | array items => "[" ++ ",".intercalate (compactItems items) ++ "]"
  | object entries => "\x7b" ++ ",".intercalate (compactEntries entries) ++ "\x7d"

/-- The items of an array, each on one line. -/
def compactItems : List Json → List String
  | [] => []
  | item :: rest => compact item :: compactItems rest

/-- The entries of an object, each on one line. -/
def compactEntries : List (String × Json) → List String
  | [] => []
  | (key, value) :: rest => (quoted key ++ ":" ++ compact value) :: compactEntries rest

end

/-- Parts in brackets, each on a line of its own behind the indent; nothing stands between the
brackets when there are none. -/
def block (opening closing indent : String) (parts : List String) : String :=
  if parts.isEmpty then opening ++ closing
  else opening ++ "\n" ++ ",\n".intercalate (parts.map (indent ++ "  " ++ ·)) ++ "\n" ++ indent ++ closing

mutual

/-- The document with two more spaces of indent at each level. -/
def prettyAt (indent : String) : Json → String
  | array items => block "[" "]" indent (prettyItems (indent ++ "  ") items)
  | object entries => block "\x7b" "\x7d" indent (prettyEntries (indent ++ "  ") entries)
  | other => compact other

/-- The items of an array at an indent. -/
def prettyItems (indent : String) : List Json → List String
  | [] => []
  | item :: rest => prettyAt indent item :: prettyItems indent rest

/-- The entries of an object at an indent. -/
def prettyEntries (indent : String) : List (String × Json) → List String
  | [] => []
  | (key, value) :: rest => (quoted key ++ ": " ++ prettyAt indent value) :: prettyEntries indent rest

end

/-- The document with every item and entry on a line of its own. -/
def pretty (document : Json) : String := prettyAt "" document

end SchemaClasses.Json
