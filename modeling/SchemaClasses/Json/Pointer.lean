/-
Pointers into JSON documents: a path of keys and array positions, each behind a slash.
-/
import SchemaClasses.Json.Basic
import SchemaClasses.Text.Segments

namespace SchemaClasses.Json

/-! ## Tokens -/

/-- A key as a token of a pointer: `~` is written `~0` and `/` is written `~1`. -/
def escapeToken (key : String) : String :=
  String.ofList (key.toList.flatMap fun c =>
    if c = '~' then ['~', '0'] else if c = '/' then ['~', '1'] else [c])

/-- Reads each `~1` as a slash. -/
def readSlashes : List Char → List Char
  | '~' :: '1' :: rest => '/' :: readSlashes rest
  | c :: rest => c :: readSlashes rest
  | [] => []

/-- Reads each `~0` as a tilde. -/
def readTildes : List Char → List Char
  | '~' :: '0' :: rest => '~' :: readTildes rest
  | c :: rest => c :: readTildes rest
  | [] => []

/-- The key that a token stands for; slashes are read first, and other tildes stay. -/
def unescapeToken (token : List Char) : List Char := readTildes (readSlashes token)

/-- The position that a token stands for: digits without a leading zero. -/
def position? (token : List Char) : Option Nat :=
  if token.isEmpty || !token.all Char.isDigit then none
  else if token.head? == some '0' && token.length != 1 then none
  else some (token.foldl (fun n d => n * 10 + (d.toNat - '0'.toNat)) 0)

/-! ## Selection -/

/-- One step into a document. -/
def step? (token : List Char) : Json → Option Json
  | object entries => entries.lookup (String.ofList token)
  | array items => (position? token).bind (items[·]?)
  | _ => none

/-- The tokens of a pointer. A pointer that is not empty begins with a slash. -/
def pointerTokens? (pointer : String) : Option (List (List Char)) :=
  match pointer.toList with
  | [] => some []
  | '/' :: rest => some ((Text.segments '/' rest).map unescapeToken)
  | _ => none

/-- Follows tokens into a document. -/
def follow? : List (List Char) → Json → Option Json
  | [], document => some document
  | token :: rest, document => (step? token document).bind (follow? rest)

/-- The value that a pointer selects. -/
def select? (pointer : String) (document : Json) : Option Json :=
  (pointerTokens? pointer).bind (follow? · document)

/-- The part of a document that a user asks for: a pointer that is empty or a single slash means
the whole document. -/
def choose? (pointer : String) (document : Json) : Option Json :=
  if pointer = "" ∨ pointer = "/" then some document else document.select? pointer

end SchemaClasses.Json
