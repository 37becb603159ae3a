/-
Reading settings from a JSON text: an object with any of the fields, or an array of their values in
order. What follows that value is not looked at.
-/
import SchemaClasses.Error
import SchemaClasses.Json.Reader
import SchemaClasses.Settings.Basic

namespace SchemaClasses.Settings

open Json
open Text (Source)

/-! ## Values of fields -/

/-- A step of reading: what was read and what follows, or what is wrong. -/
abbrev Reading (α : Type) := Except SettingsFault (α × Source)

/-- The result of a step on words. -/
def ofScan {α : Type} (scanned : Except SyntaxFault α) : Except SettingsFault α :=
  scanned.mapError .malformed

/-- The fault of a value that stands in the place of another type. The value is read as far as it
takes to name it. -/
def mismatch (expected : ExpectedValue) (c : Char) (rest : Source) : SettingsFault :=
  let found : Except SyntaxFault FoundValue :=
    if c = 'n' then (scanWord ['u', 'l', 'l'] rest).map fun _ => .null
    else if c = 't' then (scanWord ['r', 'u', 'e'] rest).map fun _ => .bool true
    else if c = 'f' then (scanWord ['a', 'l', 's', 'e'] rest).map fun _ => .bool false
    else if c = '-' then (scanNumber true rest).map fun read => .number read.1
    else if c.isDigit then (scanNumber false (some c :: rest)).map fun read => .number read.1
    else if c = '"' then (scanString false [] rest).map fun read => .text read.1
    else if c = '[' then .ok .sequence
    else if c = '\x7b' then .ok .map
    else .error .expectedValue
  match found with
  | .ok value => .wrongType value expected
  | .error fault => .malformed fault

/-- Reads a truth value. -/
def readBool (input : Source) : Reading Bool :=
  match skipBlanks input with
  | [] => .error (.malformed .endInValue)
  | some 't' :: rest => (ofScan (scanWord ['r', 'u', 'e'] rest)).map fun left => (true, left)
  | some 'f' :: rest => (ofScan (scanWord ['a', 'l', 's', 'e'] rest)).map fun left => (false, left)
  | some c :: rest => .error (mismatch .boolean c rest)
  | none :: _ => .error (.malformed .expectedValue)

/-- Reads a text. -/
def readText (expected : ExpectedValue) (input : Source) : Reading String :=
  match skipBlanks input with
  | [] => .error (.malformed .endInValue)
  | some '"' :: rest => ofScan (scanString false [] rest)
  | some c :: rest => .error (mismatch expected c rest)
  | none :: _ => .error (.malformed .expectedValue)

/-- Reads a text or `null`. -/
def readText? (input : Source) : Reading (Option String) :=
  match skipBlanks input with
  | some 'n' :: rest => (ofScan (scanWord ['u', 'l', 'l'] rest)).map fun left => (none, left)
  | input => (readText .text input).map fun (text, left) => (some text, left)

/-- Reads the value of a field and puts it into settings. -/
def readField (s : Settings) (name : String) (input : Source) : Reading Settings :=
  match name with
  | "namespace" => (readText .text input).map fun (v, left) => ({ s with space := v }, left)
  | "root_class" => (readText? input).map fun (v, left) => ({ s with rootClass := v }, left)
  | "src_root" => (readText .path input).map fun (v, left) => ({ s with sourceRoot := v }, left)
  | "typed" => (readBool input).map fun (v, left) => ({ s with typed := v }, left)
  | "getters" => (readBool input).map fun (v, left) => ({ s with getters := v }, left)
  | "constants" => (readBool input).map fun (v, left) => ({ s with constants := v }, left)
  | "exceptions" => (readBool input).map fun (v, left) => ({ s with exceptions := v }, left)
  | "date_time_format" =>
    (readText? input).map fun (v, left) => ({ s with dateTimeFormat := v }, left)
  | other => .error (.unknownField other)

/-! ## Objects and arrays of fields -/

/-- A fault with its place. -/
abbrev Misplaced := SettingsPlace × SettingsFault

/-- Reads the fields of an object up to its end. `remaining` are the fields not given so far. -/
def readFields (remaining : List String) (first : Bool) (s : Settings) (input : Source) :
    Except Misplaced Settings := do
  match (nextKey first input).mapError fun fault => (.unknown, .malformed fault) with
  | .error e => .error e
  | .ok (.done _) => .ok s
  | .ok (.key rest) =>
    let (key, rest) ← (scanString false [] rest).mapError fun fault => (.unknown, .malformed fault)
    if settingsFields.contains key then
      if h : key ∈ remaining then
        have : (remaining.erase key).length < remaining.length := by
          have := List.length_erase_of_mem h
          have := List.length_pos_of_mem h
          omega
        let rest ← (scanColon rest).mapError fun fault => (.whole, .malformed fault)
        let (s, rest) ← (readField s key rest).mapError fun fault => (.field key, fault)
        readFields (remaining.erase key) false s rest
      else .error (.whole, .duplicateField key)
    else .error (.field key, .unknownField key)
termination_by remaining.length

/-- Checks that an array ends behind the last field. -/
def readArrayEnd (input : Source) : Except SyntaxFault Unit :=
  match skipBlanks input with
  | [] => .error .endInArray
  | some ']' :: _ => .ok ()
  | some ',' :: rest =>
    match skipBlanks rest with
    | some ']' :: _ => .error .trailingComma
    | _ => .error .trailingCharacters
  | _ => .error .trailingCharacters

/-- Reads the values of fields up to the end of an array; the first one stands at `index`. -/
def readPositions : List String → Nat → Settings → Source → Except Misplaced Settings
  | [], _, s, input => do
    (readArrayEnd input).mapError fun fault => (.whole, .malformed fault)
    pure s
  | name :: others, index, s, input => do
    match ← (nextItem (index == 0) input).mapError fun fault => (.whole, .malformed fault) with
    | .done _ => pure s
    | .item rest =>
      let (s, rest) ← (readField s name rest).mapError fun fault => (.position index, fault)
      readPositions others (index + 1) s rest

/-- Reads settings. -/
def read (input : Source) : Except Misplaced Settings :=
  match skipBlanks input with
  | [] => .error (.whole, .malformed .endInValue)
  | some '\x7b' :: rest => readFields settingsFields true {} rest
  | some '[' :: rest => readPositions settingsFields 0 {} rest
  | some c :: rest => .error (.whole, mismatch .settings c rest)
  | none :: _ => .error (.whole, .malformed .expectedValue)

/-! ## Texts and files -/

/-- Reads settings that stand in a file, if a name of one is given. -/
def ofSource (origin : Option String) (input : Source) : Except GenerateError Settings :=
  (read input).mapError fun (place, fault) => .settings origin place fault

/-- Reads settings from a text. -/
def ofText (text : String) : Except GenerateError Settings := ofSource none (Source.ofString text)

/-- Reads settings from bytes. -/
def ofBytes (bytes : List UInt8) : Except GenerateError Settings :=
  ofSource none (Source.ofBytes bytes)

end SchemaClasses.Settings
