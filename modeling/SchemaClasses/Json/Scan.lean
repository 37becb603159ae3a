/-
The words of a JSON text: blanks, strings, numbers and the three names, read off the front of a
source.
-/
import SchemaClasses.Decimal.Scaled
import SchemaClasses.Json.Basic
import SchemaClasses.Json.Fault
import SchemaClasses.Text.Utf8

namespace SchemaClasses.Json

open Text (Source)

/-- What is left of a source behind something that was read off its front. -/
abbrev Rest (input : Source) := { rest : Source // rest.length < input.length }

/-- The source without blanks at the front. -/
def skipBlanks : Source → Source
  | some c :: rest =>
    if c = ' ' ∨ c = '\n' ∨ c = '\t' ∨ c = '\r' then skipBlanks rest else some c :: rest
  | input => input

/-- Reads the remaining letters of a name. -/
def scanWord : List Char → Source → Except SyntaxFault Source
  | [], input => .ok input
  | _ :: _, [] => .error .endInValue
  | w :: word, unit :: rest => if unit = some w then scanWord word rest else .error .expectedWord

/-! ## Strings -/

/-- The value of a hexadecimal digit. -/
def hexDigit? (c : Char) : Option Nat :=
  if c.isDigit then some (c.toNat - '0'.toNat)
  else if 'a' ≤ c ∧ c ≤ 'f' then some (c.toNat - 'a'.toNat + 10)
  else if 'A' ≤ c ∧ c ≤ 'F' then some (c.toNat - 'A'.toNat + 10)
  else none

/-- The value of four hexadecimal digits. -/
def hexValue? (a b c d : Char) : Option Nat := do
  let a ← hexDigit? a
  let b ← hexDigit? b
  let c ← hexDigit? c
  let d ← hexDigit? d
  pure (((a * 16 + b) * 16 + c) * 16 + d)

/-- Reads four hexadecimal digits. -/
def scanHex (input : Source) : Except SyntaxFault (Nat × Rest input) :=
  match input with
  | some a :: some b :: some c :: some d :: rest =>
    match hexValue? a b c d with
    | some n => .ok (n, ⟨rest, by simp only [List.length_cons]; omega⟩)
    | none => .error .invalidEscape
  | input => .error (if input.byteCount < 4 then .endInString else .invalidEscape)

/-- Reads the second half of a surrogate pair whose first half is `high`. -/
def scanLowSurrogate (high : Nat) (input : Source) : Except SyntaxFault (Char × Rest input) :=
  match input with
  | some '\\' :: some 'u' :: rest =>
    match scanHex rest with
    | .error fault => .error fault
    | .ok (low, left) =>
      if 0xDC00 ≤ low ∧ low ≤ 0xDFFF then
        .ok (Char.ofNat ((high - 0xD800) * 0x400 + (low - 0xDC00) + 0x10000),
          ⟨left.1, by have := left.2; simp only [List.length_cons]; omega⟩)
      else .error .loneSurrogate
  | [] => .error .endInString
  | [some '\\'] => .error .endInString
  | _ => .error .shortSurrogatePair

/-- Reads what follows a backslash. -/
def scanEscape (input : Source) : Except SyntaxFault (Char × Rest input) :=
  match input with
  | [] => .error .endInString
  | some 'u' :: rest =>
    match scanHex rest with
    | .error fault => .error fault
    | .ok (unit, left) =>
      if 0xDC00 ≤ unit ∧ unit ≤ 0xDFFF then .error .loneSurrogate
      else if 0xD800 ≤ unit ∧ unit ≤ 0xDBFF then
        match scanLowSurrogate unit left.1 with
        | .error fault => .error fault
        | .ok (c, last) =>
          .ok (c, ⟨last.1, by
            have := left.2
            have := last.2
            simp only [List.length_cons]
            omega⟩)
      else .ok (Char.ofNat unit, ⟨left.1, by have := left.2; simp only [List.length_cons]; omega⟩)
  | unit :: rest =>
    let plain : Option Char := match unit with
      | some '"' => some '"'
      | some '\\' => some '\\'
      | some '/' => some '/'
      | some 'b' => some '\x08'
      | some 'f' => some '\x0c'
      | some 'n' => some '\n'
      | some 'r' => some '\r'
      | some 't' => some '\t'
      | _ => none
    match plain with
    | some c => .ok (c, ⟨rest, by simp only [List.length_cons]; omega⟩)
    | none => .error .invalidEscape

/-- Reads a string behind its opening quote. `done` holds the characters read so far, last one
first, and `broken` says whether there was a byte among them that is part of no character; such a
string is refused when its end is found. -/
def scanString (broken : Bool) (done : List Char) : Source → Except SyntaxFault (String × Source)
  | [] => .error .endInString
  | none :: rest => scanString true done rest
  | some c :: rest =>
    if c = '"' then
      if broken then .error .invalidCodePoint else .ok (String.ofList done.reverse, rest)
    else if c = '\\' then
      match scanEscape rest with
      | .error fault => .error fault
      | .ok (escaped, left) =>
        have := left.2
        scanString broken (escaped :: done) left.1
    else if c.toNat < 0x20 then .error .controlCharacter
    else scanString broken (c :: done) rest
termination_by input => input.length

/-! ## Numbers -/

/-- A number as it is written. -/
structure Numeral where
  negative : Bool
  whole : List Nat
  /-- The digits behind the point. -/
  fraction : Option (List Nat)
  /-- Whether the exponent is negative, and its digits. -/
  exponent : Option (Bool × List Nat)
  deriving Repr, DecidableEq

/-- The value of decimal digits. -/
def digitsValue (digits : List Nat) : Nat := digits.foldl (fun n d => n * 10 + d) 0

/-- The number with a sign put before it. -/
def withSign (negative : Bool) (x : Float) : Float := if negative then -x else x

/-- A numeral's value. It is whole if it is written without point and exponent and fits a 64-bit
word, signed for negative numbers; negative zero is not whole. -/
def Numeral.value (n : Numeral) : Except SyntaxFault Number :=
  let (word, dropped) := Decimal.absorb 0 n.whole
  match n.fraction, n.exponent, dropped with
  | none, none, [] =>
    if !n.negative then .ok (.whole word)
    else if word = 0 ∨ 0x8000000000000000 < word then .ok (.float (-word.toUInt64.toFloat))
    else .ok (.whole (-word))
  | fraction, exponent, dropped =>
    let places := fraction.getD []
    let (word, unread) := Decimal.absorb word places
    -- digits that no longer fit the word count as places before the point
    let shift : Int := dropped.length - (places.length - unread.length : Nat)
    let float (power : Int) : Except SyntaxFault Number :=
      match Decimal.scaled word power with
      | some x => .ok (.float (withSign n.negative x))
      | none => .error .numberOutOfRange
    match exponent with
    | none => float shift
    | some (down, digits) =>
      -- beyond 31 bits the exponent alone decides: out of range or zero
      let size := digitsValue digits
      if size < 0x80000000 then float (if down then shift - size else shift + size)
      else if word ≠ 0 ∧ !down then .error .numberOutOfRange
      else .ok (.float (withSign n.negative 0))

/-- The digits at the front of a source, and what follows them. -/
def takeDigits : Source → List Nat × Source
  | some c :: rest =>
    if c.isDigit then
      let (digits, left) := takeDigits rest
      ((c.toNat - '0'.toNat) :: digits, left)
    else ([], some c :: rest)
  | input => ([], input)

/-- The fault of a number in which a digit is missing before `rest`. -/
def missingDigit (rest : Source) : SyntaxFault :=
  if rest.isEmpty then .endInValue else .invalidNumber

/-- Reads the digits before the point; a leading zero stands alone. -/
def scanWhole (input : Source) : Except SyntaxFault (List Nat × Source) :=
  match takeDigits input with
  | ([], rest) => .error (missingDigit rest)
  | (0 :: _ :: _, _) => .error .invalidNumber
  | found => .ok found

/-- Reads a point with digits behind it, if there is a point. -/
def scanFraction : Source → Except SyntaxFault (Option (List Nat) × Source)
  | some '.' :: rest =>
    match takeDigits rest with
    | ([], left) => .error (missingDigit left)
    | (digits, left) => .ok (some digits, left)
  | input => .ok (none, input)

/-- Reads the sign of an exponent; says whether it is negative. -/
def scanExponentSign : Source → Bool × Source
  | some '+' :: rest => (false, rest)
  | some '-' :: rest => (true, rest)
  | input => (false, input)

/-- Reads an exponent, if there is one. -/
def scanExponent : Source → Except SyntaxFault (Option (Bool × List Nat) × Source)
  | some c :: rest =>
    if c = 'e' ∨ c = 'E' then
      let (down, unsigned) := scanExponentSign rest
      match takeDigits unsigned with
      | ([], left) => .error (missingDigit left)
      | (digits, left) => .ok (some (down, digits), left)
    else .ok (none, some c :: rest)
  | input => .ok (none, input)

/-- Reads a number behind its sign. -/
def scanNumber (negative : Bool) (input : Source) : Except SyntaxFault (Number × Source) := do
  let (whole, rest) ← scanWhole input
  let (fraction, rest) ← scanFraction rest
  let (exponent, rest) ← scanExponent rest
  let value ← (Numeral.mk negative whole fraction exponent).value
  pure (value, rest)

end SchemaClasses.Json
