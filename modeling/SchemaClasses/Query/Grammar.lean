/-
The grammar of filter texts. From the weakest to the strongest: the pipe, the comma, the equals sign,
and look-ups behind a term.
-/
import SchemaClasses.Query.Filter
import SchemaClasses.Query.Token

namespace SchemaClasses.Query

/-- The filter that a name with arguments stands for. -/
def named (name : String) (args : List Filter) : Filter :=
  match name, args with
  | "empty", [] => .nothing
  | "error", [] => .fail .identity
  | "error", [message] => .fail message
  | "null", [] => .literal .null
  | "true", [] => .literal (.bool true)
  | "false", [] => .literal (.bool false)
  | "map", [f] => .array (some (.pipe (.path .identity [.each false]) f))
  | "select", [condition] => .select condition
  | name, _ => .unknown name

/-- Names that belong to the grammar and cannot be called. -/
def reserved : List String :=
  ["def", "if", "then", "elif", "else", "end", "try", "catch", "reduce", "foreach", "as", "label",
    "break", "import", "include", "and", "or", "__loc__"]

/-- Reads a mark. -/
def readMark (c : Char) : List Token → Option (List Token)
  | .mark d :: rest => if c = d then some rest else none
  | _ => none

/-- The value of a numeral: a whole number if it is written with decimal digits alone and is not too
long. -/
def literalOf (numeral : String) : Filter :=
  .literal (.number (match digitsValue? numeral.toList with
    | some n => if isShort n then .whole n else .written numeral
    | none => .written numeral))

/-- Reads question marks; says whether there are any. -/
def readLenient : List Token → Bool × List Token
  | .mark '?' :: rest => (true, (readLenient rest).2)
  | rest => (false, rest)

/-- The step to what stands under a name, which is lenient if question marks follow. -/
def readKeyStep (name : String) (tokens : List Token) : Step × List Token :=
  let (lenient, rest) := readLenient tokens
  (.look lenient (.literal (.string name)), rest)

mutual

/-- Reads filters joined by pipes; a comma joins them too where `commas` says so. -/
def readPipe (commas : Bool) : Nat → List Token → Option (Filter × List Token)
  | 0, _ => none
  | fuel + 1, tokens => do
    let (first, rest) ← readCommas commas fuel tokens
    match rest with
    | .operator "|" :: rest =>
      let (second, rest) ← readPipe commas fuel rest
      pure (.pipe first second, rest)
    | rest => pure (first, rest)

/-- Reads filters joined by commas. -/
def readCommas (commas : Bool) : Nat → List Token → Option (Filter × List Token)
  | 0, _ => none
  | fuel + 1, tokens => do
    let (first, rest) ← readEquals fuel tokens
    match commas, rest with
    | true, .mark ',' :: rest =>
      let (second, rest) ← readCommas commas fuel rest
      pure (.both first second, rest)
    | _, rest => pure (first, rest)

/-- Reads terms joined by equals signs. -/
def readEquals : Nat → List Token → Option (Filter × List Token)
  | 0, _ => none
  | fuel + 1, tokens => do
    let (first, rest) ← readTerm fuel tokens
    readEqualTerms fuel first rest

/-- Reads the equals signs behind a filter with the terms that they compare it to, from the left. -/
def readEqualTerms : Nat → Filter → List Token → Option (Filter × List Token)
  | 0, _, _ => none
  | fuel + 1, left, tokens =>
    match tokens with
    | .operator "==" :: rest => do
      let (right, rest) ← readTerm fuel rest
      readEqualTerms fuel (.equal left right) rest
    | rest => some (left, rest)

/-- Reads a term with the steps behind it. -/
def readTerm : Nat → List Token → Option (Filter × List Token)
  | 0, _ => none
  | fuel + 1, tokens =>
    match tokens with
    | .operator "-" :: rest => do
      let (body, rest) ← readTerm fuel rest
      pure (.negative body, rest)
    | tokens => do
      let (start, rest) ← readAtom fuel tokens
      let (lenient, rest) := readLenient rest
      let target := if lenient then .attempt start else start
      let (steps, rest) ← readSteps fuel rest
      pure (if steps.isEmpty then target else .path target steps, rest)

/-- Reads the steps behind a term. -/
def readSteps : Nat → List Token → Option (List Step × List Token)
  | 0, _ => none
  | fuel + 1, tokens => do
    let step ← match tokens with
      | .field name :: rest => pure (some (readKeyStep name rest))
      | .dot :: .text name :: rest => pure (some (readKeyStep name rest))
      | .mark '[' :: rest => (readBracket fuel rest).map some
      | _ => pure none
    match step with
    | none => pure ([], tokens)
    | some (step, rest) =>
      let (steps, rest) ← readSteps fuel rest
      pure (step :: steps, rest)

/-- Reads the rest of a bracketed step. -/
def readBracket : Nat → List Token → Option (Step × List Token)
  | 0, _ => none
  | fuel + 1, tokens =>
    match tokens with
    | .mark ']' :: rest =>
      let (lenient, rest) := readLenient rest
      some (.each lenient, rest)
    | .mark ':' :: rest => do
      let (upper, rest) ← readPipe true fuel rest
      let (lenient, rest) := readLenient (← readMark ']' rest)
      pure (.slice lenient none (some upper), rest)
    | tokens => do
      let (key, rest) ← readPipe true fuel tokens
      match rest with
      | .mark ']' :: rest =>
        let (lenient, rest) := readLenient rest
        pure (.look lenient key, rest)
      | .mark ':' :: .mark ']' :: rest =>
        let (lenient, rest) := readLenient rest
        pure (.slice lenient (some key) none, rest)
      | .mark ':' :: rest =>
        let (upper, rest) ← readPipe true fuel rest
        let (lenient, rest) := readLenient (← readMark ']' rest)
        pure (.slice lenient (some key) (some upper), rest)
      | _ => none

/-- Reads a term without steps. A name behind a dot is left to be the first step. -/
def readAtom : Nat → List Token → Option (Filter × List Token)
  | 0, _ => none
  | fuel + 1, tokens =>
    match tokens with
    | .field _ :: _ => some (.identity, tokens)
    | .dot :: .text _ :: _ => some (.identity, tokens)
    | .dot :: rest => some (.identity, rest)
    | .number numeral :: rest => some (literalOf numeral, rest)
    | .text value :: rest => some (.literal (.string value), rest)
    | .variable name :: rest => some (.unknown ("$" ++ name), rest)
    | .name name :: rest =>
      if reserved.contains name then none
      else
        match rest with
        | .mark '(' :: rest => do
          let (args, rest) ← readArguments fuel rest
          pure (named name args, rest)
        | rest => some (named name [], rest)
    | .mark '(' :: rest => do
      let (body, rest) ← readPipe true fuel rest
      let rest ← readMark ')' rest
      pure (body, rest)
    | .mark '[' :: .mark ']' :: rest => some (.array none, rest)
    | .mark '[' :: rest => do
      let (items, rest) ← readPipe true fuel rest
      let rest ← readMark ']' rest
      pure (.array (some items), rest)
    | .mark '\x7b' :: .mark '\x7d' :: rest => some (.object [], rest)
    | .mark '\x7b' :: rest => do
      let (entries, rest) ← readEntries fuel rest
      pure (.object entries, rest)
    | _ => none

/-- Reads the arguments of a call up to the closing parenthesis. -/
def readArguments : Nat → List Token → Option ((List Filter) × List Token)
  | 0, _ => none
  | fuel + 1, tokens => do
    let (first, rest) ← readPipe true fuel tokens
    match rest with
    | .mark ')' :: rest => pure ([first], rest)
    | .mark ';' :: rest =>
      let (others, rest) ← readArguments fuel rest
      pure (first :: others, rest)
    | _ => none

/-- Reads the key of an entry, and the look-up that it stands for where no value is given. -/
def readKey : Nat → List Token → Option ((Filter × Option Filter) × List Token)
  | 0, _ => none
  | fuel + 1, tokens =>
    let plain (name : String) : Filter × Option Filter :=
      (.literal (.string name), some (.path .identity [.look false (.literal (.string name))]))
    match tokens with
    | .name name :: rest => some (plain name, rest)
    | .text name :: rest => some (plain name, rest)
    | .variable name :: rest =>
      some ((.literal (.string name), some (.unknown ("$" ++ name))), rest)
    | .mark '(' :: rest => do
      let (key, rest) ← readPipe true fuel rest
      let rest ← readMark ')' rest
      pure ((key, none), rest)
    | _ => none

/-- Reads the entries of an object up to the closing brace. -/
def readEntries : Nat → List Token → Option ((List (Filter × Filter)) × List Token)
  | 0, _ => none
  | fuel + 1, tokens => do
    let ((key, short), rest) ← readKey fuel tokens
    let (value, rest) ← match rest with
      | .mark ':' :: rest => readPipe false fuel rest
      | rest => short.map fun value => (value, rest)
    match rest with
    | .mark '\x7d' :: rest => pure ([(key, value)], rest)
    | .mark ',' :: .mark '\x7d' :: rest => pure ([(key, value)], rest)
    | .mark ',' :: rest =>
      let (others, rest) ← readEntries fuel rest
      pure ((key, value) :: others, rest)
    | _ => none

end

/-- The filter that a text stands for. -/
def Filter.ofText? (source : String) : Option Filter := do
  let tokens ← tokens? source
  match ← readPipe true (8 * tokens.length + 8) tokens with
  | (filter, []) => some filter
  | _ => none

end SchemaClasses.Query
