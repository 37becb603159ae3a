/-
Members that were written by hand into a generated file. They stand between two marker lines and are
read back from there, so that they survive when the file is generated anew. Comment lines go with
the member behind them.
-/
import SchemaClasses.Text.Blank
import SchemaClasses.Text.Segments
import SchemaClasses.Text.WordChar

namespace SchemaClasses

/-- A member written by hand: the name of the method, property or constant, and its source text with
its own indentation. -/
structure Member where
  name : String
  source : String
  deriving Repr, DecidableEq, Inhabited

/-- The line in front of members written by hand. -/
def customStart : String := "// @custom-start"

/-- The line behind members written by hand. -/
def customEnd : String := "// @custom-end"

namespace Member

/-! ## Lines -/

/-- A line without the carriage return at its end. -/
def dropReturn (line : List Char) : List Char :=
  if line.getLast? = some '\r' then line.dropLast else line

/-- Lines from the parts between line feeds: each but the last one is ended by a line feed, and the
last one is a line only if there is something in it. -/
def linesOfParts : List (List Char) → List (List Char)
  | [] => []
  | [last] => if last.isEmpty then [] else [last]
  | part :: rest => dropReturn part :: linesOfParts rest

/-- The lines of a text; a carriage return before a line feed belongs to the end of the line. -/
def lines (source : String) : List String :=
  (linesOfParts (Text.segments '\n' source.toList)).map String.ofList

/-! ## How a member begins -/

/-- The words that can stand before a declaration. -/
def modifiers : List String :=
  ["public", "protected", "private", "static", "final", "abstract", "var"]

/-- What stands behind a word and the blanks that must follow it. -/
def behindWord? (word : List Char) : List Char → Option (List Char)
  | [] => none
  | c :: cs =>
    match word with
    | [] => if Text.isBlank c then some (cs.dropWhile Text.isBlank) else none
    | w :: word => if c = w then behindWord? word cs else none

/-- What stands behind a modifier. -/
def behindModifier? (cs : List Char) : Option (List Char) :=
  modifiers.findSome? fun word => behindWord? word.toList cs

/-- What stands behind all modifiers; each of them is longer than nothing. -/
def behindModifiers : Nat → List Char → List Char
  | 0, cs => cs
  | steps + 1, cs =>
    match behindModifier? cs with
    | some rest => behindModifiers steps rest
    | none => cs

/-- The word at the front, if there is one. -/
def word? (cs : List Char) : Option String :=
  match cs.takeWhile Text.isWordChar with
  | [] => none
  | word => some (String.ofList word)

/-- The name of a function declared at the front; an ampersand may stand before it. -/
def functionName? (cs : List Char) : Option String :=
  match behindWord? "function".toList cs with
  | some ('&' :: rest) => word? rest
  | some rest => word? rest
  | none => none

/-- The name of a constant declared at the front. -/
def constantName? (cs : List Char) : Option String :=
  (behindWord? "const".toList cs).bind word?

/-- The name of a variable at the front. -/
def variableName? : List Char → Option String
  | '$' :: rest => word? rest
  | _ => none

/-- What stands behind a type and the blanks that must follow it. -/
def behindType? (cs : List Char) : Option (List Char) :=
  let isTypeChar (c : Char) := Text.isWordChar c || c == '\\'
  let plain := if cs.head? = some '?' then cs.drop 1 else cs
  match plain.takeWhile isTypeChar, plain.dropWhile isTypeChar with
  | _ :: _, c :: rest => if Text.isBlank c then some (rest.dropWhile Text.isBlank) else none
  | _, _ => none

/-- The name of a property declared at the front; a type may stand before it. -/
def propertyName? (cs : List Char) : Option String :=
  ((behindType? cs).bind variableName?).or (variableName? cs)

/-- The name that a line declares, if a member begins on it: modifiers, and a function, a constant or
a property behind them. -/
def declaredName? (line : String) : Option String :=
  match behindModifier? (line.toList.dropWhile Text.isBlank) with
  | none => none
  | some rest =>
    let cs := behindModifiers rest.length rest
    ((functionName? cs).or (constantName? cs)).or (propertyName? cs)

/-! ## Reading members -/

/-- Whether a text begins with another. -/
def beginsWith (text front : String) : Bool := front.toList.isPrefixOf text.toList

/-- Whether a line without blank ends is a comment. -/
def isComment (trimmed : String) : Bool :=
  ["/**", "*", "//", "#"].any (beginsWith trimmed)

/-- Lines, each ended by a line feed. -/
def endedLines (lines : List String) : String := String.join (lines.map (· ++ "\n"))

/-- How often a character occurs in lines. -/
def countIn (c : Char) (lines : List String) : Nat := (lines.flatMap String.toList).count c

/-- A member as it is read: its name and the lines of its source. -/
structure Block where
  name : String
  lines : List String
  deriving Repr, DecidableEq, Inhabited

/-- Whether the braces that a member opens are not all closed. -/
def Block.isOpen (b : Block) : Bool := countIn '\x7d' b.lines < countIn '\x7b' b.lines

/-- The member that a block stands for. -/
def Block.toMember (b : Block) : Member := ⟨b.name, endedLines b.lines⟩

/-- The state of reading a file: the members so far, comment lines that wait for the next member,
and whether the line is between markers. -/
structure Reading where
  blocks : List Block := []
  waiting : List String := []
  inside : Bool := false
  deriving Repr, DecidableEq, Inhabited

/-- Adds lines to the last block; tells when there is none. -/
def extendLast (blocks : List Block) (lines : List String) : Option (List Block) :=
  match blocks.getLast? with
  | some last => some (blocks.dropLast ++ [{ last with lines := last.lines ++ lines }])
  | none => none

namespace Reading

/-- Ends a custom region: comment lines that still wait go to the last member, or make a member
without a name. -/
def close (r : Reading) : Reading :=
  if r.waiting.isEmpty then { r with inside := false }
  else ⟨(extendLast r.blocks r.waiting).getD [⟨"", r.waiting⟩], [], false⟩

/-- Reads a line between markers. -/
def take (r : Reading) (line : String) : Reading :=
  match declaredName? line with
  | some name => { r with blocks := r.blocks ++ [⟨name, r.waiting ++ [line]⟩], waiting := [] }
  | none =>
    if isComment (Text.trimBlank line) && !r.blocks.getLast?.any (·.isOpen) then
      { r with waiting := r.waiting ++ [line] }
    else
      match extendLast r.blocks [line] with
      | some blocks => { r with blocks := blocks }
      | none => { r with waiting := r.waiting ++ [line] }

/-- Reads a line of a file. -/
def step (r : Reading) (line : String) : Reading :=
  let trimmed := Text.trimBlank line
  if trimmed = customStart then { r with inside := true }
  else if trimmed = customEnd then r.close
  else if r.inside then r.take line
  else r

end Reading

/-- The members written by hand in the text of a file. -/
def ofSource (source : String) : List Member :=
  ((lines source).foldl Reading.step {}).blocks.map Block.toMember

end Member

end SchemaClasses
