/-
The words of a filter text.
-/
import SchemaClasses.Json.Scan
import SchemaClasses.Text.Blank
import SchemaClasses.Text.Numeric
import SchemaClasses.Query.Value

namespace SchemaClasses.Query

/-- A word of a filter text. -/
inductive Token where
  | dot
  /-- A name directly behind a dot. -/
  | field (name : String)
  | name (name : String)
  | variable (name : String)
  /-- A number as it is written. -/
  | number (numeral : String)
  | text (value : String)
  /-- Characters of operators that stand together. -/
  | operator (symbol : String)
  /-- A bracket or another mark that stands by itself. -/
  | mark (c : Char)
  deriving Repr, Inhabited

/-! ## Blanks and comments -/

/-- Whether a line of a comment ends in an odd number of backslashes, by which the next line belongs
to the comment too. -/
def isContinued (line : List Char) : Bool :=
  let ending := match line.reverse with
    | '\r' :: cs => cs
    | cs => cs
  (ending.takeWhile (· == '\\')).length % 2 == 1

/-- The text behind a comment. -/
def skipComment : Nat → List Char → List Char
  | 0, cs => cs
  | fuel + 1, cs =>
    let (line, rest) := splitAt? (· == '\n') cs
    if isContinued line then skipComment fuel (rest.getD []) else rest.getD []

/-- The text without blanks and comments at the front. -/
def skipComments : Nat → List Char → List Char
  | 0, cs => cs
  | fuel + 1, cs =>
    match cs.dropWhile Text.isBlank with
    | '#' :: rest => skipComments fuel (skipComment cs.length rest)
    | other => other

/-! ## Words -/

def isNameStart (c : Char) : Bool := c.isAlpha || c == '_'

def isNameChar (c : Char) : Bool := c.isAlphanum || c == '_'

def isOperatorChar (c : Char) : Bool := "|=!<>+-*/%".toList.contains c

def isMark (c : Char) : Bool := "[](),:;?\x7b\x7d".toList.contains c

/-- Reads a name. -/
def readName? (cs : List Char) : Option (List Char × List Char) :=
  match cs with
  | c :: _ => if isNameStart c then some (cs.span isNameChar) else none
  | [] => none

/-- Reads a name that may have the name of a library before it. -/
def readLongName? (cs : List Char) : Option (List Char × List Char) := do
  let (first, rest) ← readName? cs
  match rest with
  | ':' :: ':' :: rest =>
    let (second, rest) ← readName? rest
    pure (first ++ [':', ':'] ++ second, rest)
  | rest => pure (first, rest)

/-- Reads the digits of an exponent, of which there is at least one. -/
def readPower? (cs : List Char) : Option (List Char × List Char) :=
  match cs.span Text.isNumeric with
  | ([], _) => none
  | found => some found

/-- Reads a number; zeros may stand at its front, and no digit need stand behind the point. -/
def readNumber? (cs : List Char) : Option (List Char × List Char) := do
  let (whole, rest) := cs.span Text.isNumeric
  let (decimal, rest) := match rest with
    | '.' :: rest =>
      let (places, rest) := rest.span Text.isNumeric
      (whole ++ '.' :: places, rest)
    | rest => (whole, rest)
  match rest with
  | c :: rest =>
    if c == 'e' || c == 'E' then
      let (sign, rest) := match rest with
        | '+' :: rest => (['+'], rest)
        | '-' :: rest => (['-'], rest)
        | rest => ([], rest)
      let (power, rest) ← readPower? rest
      pure (decimal ++ c :: sign ++ power, rest)
    else pure (decimal, c :: rest)
  | [] => pure (decimal, [])

/-- The character that a letter behind a backslash stands for. -/
def escaped? : Char → Option Char
  | '"' => some '"'
  | '\\' => some '\\'
  | '/' => some '/'
  | 'b' => some '\x08'
  | 'f' => some '\x0c'
  | 'n' => some '\n'
  | 'r' => some '\r'
  | 't' => some '\t'
  | _ => none

/-- The character with a code point; halves of surrogate pairs are none. -/
def character? (code : Nat) : Option Char := if code.isValidChar then some (Char.ofNat code) else none

/-- Reads a text behind its opening quote. All characters but quotes and backslashes stand for
themselves. -/
def readText? : List Char → Option (List Char × List Char)
  | [] => none
  | '"' :: rest => some ([], rest)
  | '\\' :: 'u' :: a :: b :: c :: d :: rest => do
    let c ← character? (← Json.hexValue? a b c d)
    let (text, rest) ← readText? rest
    pure (c :: text, rest)
  | '\\' :: letter :: rest => do
    let c ← escaped? letter
    let (text, rest) ← readText? rest
    pure (c :: text, rest)
  | c :: rest => do
    if c == '\\' then none
    let (text, rest) ← readText? rest
    pure (c :: text, rest)

/-- The word made of characters that were read, and what follows them. -/
def wordOf (make : String → Token) : List Char × List Char → Token × List Char
  | (cs, rest) => (make (String.ofList cs), rest)

/-- The first word of a text that begins with neither blank nor comment. A minus sign begins a word
of its own. -/
def firstToken? (cs : List Char) : Option (Token × List Char) :=
  match cs with
  | [] => none
  | '.' :: rest =>
    match readName? rest with
    | some found => some (wordOf .field found)
    | none => if rest.head? = some '.' then none else some (.dot, rest)
  | '$' :: rest => (readLongName? rest).map (wordOf .variable)
  | '"' :: rest => (readText? rest).map (wordOf .text)
  | c :: rest =>
    if isNameStart c then (readLongName? cs).map (wordOf .name)
    else if c.isDigit then (readNumber? cs).map (wordOf .number)
    else if isOperatorChar c then
      let (others, rest) := rest.span fun c => isOperatorChar c && c != '-'
      some (.operator (String.ofList (c :: others)), rest)
    else if isMark c then some (.mark c, rest)
    else none

/-- The words of a text, the first `fuel` of them. -/
def tokensOf : Nat → List Char → Option (List Token)
  | 0, _ => none
  | fuel + 1, cs =>
    match skipComments cs.length cs with
    | [] => some []
    | rest => do
      let (token, left) ← firstToken? rest
      let others ← tokensOf fuel left
      pure (token :: others)

/-- The words of a filter text; absent if some part of it is no word. -/
def tokens? (source : String) : Option (List Token) :=
  tokensOf (source.length + 1) source.toList

end SchemaClasses.Query
