/-
Bytes read as UTF-8. Bytes that are part of no character are kept as such, so that a reader can say
where a text is broken.
-/
namespace SchemaClasses.Text

/-- A text that may be broken: `none` stands for a byte that is part of no character. -/
abbrev Source := List (Option Char)

/-- A text without broken places. -/
def Source.ofString (text : String) : Source := text.toList.map some

/-- The number of bytes that a source takes. -/
def Source.byteCount (source : Source) : Nat :=
  source.foldl (fun n unit => n + unit.elim 1 Char.utf8Size) 0

/-- The six low bits of a continuation byte. -/
def continuation? (byte : UInt8) : Option Nat :=
  if 0x80 ≤ byte.toNat ∧ byte.toNat < 0xC0 then some (byte.toNat - 0x80) else none

/-- The character with a code point that needs at least `least`, if it is one. -/
def charFrom? (least code : Nat) : Option Char :=
  if least ≤ code ∧ code.isValidChar then some (Char.ofNat code) else none

/-- The character at the front of a byte sequence, and how many bytes it takes. -/
def firstChar? : List UInt8 → Option (Char × Nat)
  | [] => none
  | a :: rest =>
    let lead := a.toNat
    if lead < 0x80 then some (Char.ofNat lead, 1)
    else if lead < 0xC0 then none
    else if lead < 0xE0 then do
      let b ← rest[0]?.bind continuation?
      let c ← charFrom? 0x80 ((lead - 0xC0) * 64 + b)
      pure (c, 2)
    else if lead < 0xF0 then do
      let b ← rest[0]?.bind continuation?
      let c ← rest[1]?.bind continuation?
      let c ← charFrom? 0x800 (((lead - 0xE0) * 64 + b) * 64 + c)
      pure (c, 3)
    else if lead < 0xF8 then do
      let b ← rest[0]?.bind continuation?
      let c ← rest[1]?.bind continuation?
      let d ← rest[2]?.bind continuation?
      let c ← charFrom? 0x10000 ((((lead - 0xF0) * 64 + b) * 64 + c) * 64 + d)
      pure (c, 4)
    else none

/-- Reads bytes, the first `skip` of them being part of a character already read. -/
def Source.ofBytesSkipping : Nat → List UInt8 → Source
  | _, [] => []
  | skip + 1, _ :: rest => ofBytesSkipping skip rest
  | 0, byte :: rest =>
    match firstChar? (byte :: rest) with
    | some (c, size) => some c :: ofBytesSkipping (size - 1) rest
    | none => none :: ofBytesSkipping 0 rest

/-- Reads bytes as UTF-8. -/
def Source.ofBytes (bytes : List UInt8) : Source := ofBytesSkipping 0 bytes

end SchemaClasses.Text
