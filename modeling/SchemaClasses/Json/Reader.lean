/-
Reading a text as one JSON document.
-/
import SchemaClasses.Entries
import SchemaClasses.Json.Scan

namespace SchemaClasses.Json

open Text (Source)

/-- Reads a colon between a key and its value. -/
def scanColon (input : Source) : Except SyntaxFault Source :=
  match skipBlanks input with
  | some ':' :: rest => .ok rest
  | [] => .error .endInObject
  | _ => .error .expectedColon

/-- What follows in an array: its end, or an item. -/
inductive ItemStep where
  | done (rest : Source)
  | item (rest : Source)

/-- Finds the next item of an array; a comma stands before every item but the first. -/
def nextItem (first : Bool) (input : Source) : Except SyntaxFault ItemStep :=
  match skipBlanks input with
  | [] => .error .endInArray
  | some ']' :: rest => .ok (.done rest)
  | some ',' :: rest =>
    -- the comma is left in place and refused as a value
    if first then .ok (.item (some ',' :: rest))
    else
      match skipBlanks rest with
      | [] => .error .endInValue
      | some ']' :: _ => .error .trailingComma
      | input => .ok (.item input)
  | input => if first then .ok (.item input) else .error .expectedCommaOrBracket

/-- What follows in an object: its end, or the text behind the opening quote of a key. -/
inductive EntryStep where
  | done (rest : Source)
  | key (rest : Source)

/-- Finds the next key of an object; a comma stands before every key but the first. -/
def nextKey (first : Bool) (input : Source) : Except SyntaxFault EntryStep :=
  match skipBlanks input with
  | [] => .error .endInObject
  | some '\x7d' :: rest => .ok (.done rest)
  | some ',' :: rest =>
    if first then .error .keyNotString
    else
      match skipBlanks rest with
      | [] => .error .endInValue
      | some '"' :: rest => .ok (.key rest)
      | some '\x7d' :: _ => .error .trailingComma
      | _ => .error .keyNotString
  | some '"' :: rest => if first then .ok (.key rest) else .error .expectedCommaOrBrace
  | _ => .error (if first then .keyNotString else .expectedCommaOrBrace)

mutual

/-- Reads a value that is nested less than `depth` deep. -/
def readValue : Nat → Nat → Source → Except SyntaxFault (Json × Source)
  | 0, _, _ => .error .tooDeep
  | fuel + 1, depth, input =>
    match skipBlanks input with
    | [] => .error .endInValue
    | none :: _ => .error .expectedValue
    | some c :: rest =>
      if c = 'n' then do
        let rest ← scanWord ['u', 'l', 'l'] rest
        pure (null, rest)
      else if c = 't' then do
        let rest ← scanWord ['r', 'u', 'e'] rest
        pure (bool true, rest)
      else if c = 'f' then do
        let rest ← scanWord ['a', 'l', 's', 'e'] rest
        pure (bool false, rest)
      else if c = '-' then do
        let (n, rest) ← scanNumber true rest
        pure (number n, rest)
      else if c.isDigit then do
        let (n, rest) ← scanNumber false (some c :: rest)
        pure (number n, rest)
      else if c = '"' then do
        let (text, rest) ← scanString false [] rest
        pure (string text, rest)
      else if c = '[' then
        if depth ≤ 1 then .error .tooDeep
        else do
          let (items, rest) ← readItems fuel (depth - 1) true rest
          pure (array items, rest)
      else if c = '\x7b' then
        if depth ≤ 1 then .error .tooDeep
        else do
          let (entries, rest) ← readEntries fuel (depth - 1) [] true rest
          pure (object entries, rest)
      else .error .expectedValue

/-- Reads the items of an array up to its end. -/
def readItems : Nat → Nat → Bool → Source → Except SyntaxFault (List Json × Source)
  | 0, _, _, _ => .error .tooDeep
  | fuel + 1, depth, first, input => do
    match ← nextItem first input with
    | .done rest => pure ([], rest)
    | .item rest =>
      let (item, rest) ← readValue fuel depth rest
      let (items, rest) ← readItems fuel depth false rest
      pure (item :: items, rest)

/-- Reads the entries of an object up to its end and adds them to those already read. -/
def readEntries : Nat → Nat → List (String × Json) → Bool → Source →
    Except SyntaxFault (List (String × Json) × Source)
  | 0, _, _, _, _ => .error .tooDeep
  | fuel + 1, depth, entries, first, input => do
    match ← nextKey first input with
    | .done rest => pure (entries, rest)
    | .key rest =>
      let (key, rest) ← scanString false [] rest
      let rest ← scanColon rest
      let (value, rest) ← readValue fuel depth rest
      readEntries fuel depth (Entries.put entries key value) false rest

end

/-- The number of levels to which values may be nested, and one more. -/
def depthLimit : Nat := 128

/-- Reads a text as one document with nothing but blanks around it. -/
def ofText (text : String) : Except SyntaxFault Json := do
  let input := Source.ofString text
  let (document, rest) ← readValue (2 * input.length + 2) depthLimit input
  if (skipBlanks rest).isEmpty then pure document else .error .trailingCharacters

end SchemaClasses.Json
