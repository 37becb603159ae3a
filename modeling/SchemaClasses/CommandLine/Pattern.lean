/-
Patterns for file names: a star stands for any characters, a question mark for one, brackets for one
of a set, and two stars as a whole part of a path for any folders.
-/
import SchemaClasses.Text.Segments

namespace SchemaClasses.CommandLine

/-- A character or a range of characters in brackets. -/
inductive CharChoice where
  | one (c : Char)
  | range (low high : Char)
  deriving Repr, DecidableEq, Inhabited

/-- Whether a character is among choices. -/
def CharChoice.admits (choices : List CharChoice) (c : Char) : Bool :=
  choices.any fun choice => match choice with
    | one d => c == d
    | range low high => low ≤ c && c ≤ high

/-- A part of a pattern. -/
inductive PatternItem where
  | char (c : Char)
  | anyChar
  | anyText
  /-- Any folders, also none. -/
  | anyFolders
  | oneOf (choices : List CharChoice)
  | noneOf (choices : List CharChoice)
  deriving Repr, DecidableEq, Inhabited

/-- What is wrong with a pattern. -/
inductive PatternFault where
  | manyStars
  | starsInName
  | brokenRange
  deriving Repr, DecidableEq, Inhabited

/-- The wording of a fault. -/
def PatternFault.message : PatternFault → String
  | manyStars => "wildcards are either regular `*` or recursive `**`"
  | starsInName => "recursive wildcards must form a single path component"
  | brokenRange => "invalid range pattern"

/-- The choices between brackets. -/
def charChoices : List Char → List CharChoice
  | a :: '-' :: b :: rest => .range a b :: charChoices rest
  | a :: rest => .one a :: charChoices rest
  | [] => []

/-- The characters before the first closing bracket behind the first one, and those behind it. At
least one character stands in brackets. -/
def untilBracket : List Char → Option (List Char × List Char)
  | [] => none
  | first :: rest =>
    match rest.dropWhile (· != ']') with
    | [] => none
    | _ :: left => some (first :: rest.takeWhile (· != ']'), left)

/-- The set behind an opening bracket, and what stands behind it. -/
def bracketSet : List Char → Option (PatternItem × List Char)
  | '!' :: rest => (untilBracket rest).map fun (inner, left) => (.noneOf (charChoices inner), left)
  | cs => (untilBracket cs).map fun (inner, left) => (.oneOf (charChoices inner), left)

/-- Reads a pattern from a position on, `left` being the character before it. A fault has its
position. -/
def patternFrom : Nat → Nat → Option Char → List Char → Except (Nat × PatternFault) (List PatternItem)
  | 0, _, _, _ => .ok []
  | _ + 1, _, _, [] => .ok []
  | fuel + 1, position, left, c :: rest =>
    if c = '?' then (patternFrom fuel (position + 1) (some c) rest).map (.anyChar :: ·)
    else if c = '*' then
      let more := rest.takeWhile (· == '*')
      let behind := rest.dropWhile (· == '*')
      match more with
      | [] => (patternFrom fuel (position + 1) (some c) rest).map (.anyText :: ·)
      | [_] =>
        if left = none ∨ left = some '/' then
          match behind with
          | [] => .ok [.anyFolders]
          | '/' :: behind =>
            (patternFrom fuel (position + 3) (some '/') behind).map (.anyFolders :: ·)
          | _ => .error (position + 2, .starsInName)
        else .error (position - 1, .starsInName)
      | _ => .error (position + 2, .manyStars)
    else if c = '[' then
      match bracketSet rest with
      | some (item, behind) =>
        (patternFrom fuel (position + 1 + (rest.length - behind.length)) (some ']') behind).map
          (item :: ·)
      | none => .error (position, .brokenRange)
    else (patternFrom fuel (position + 1) (some c) rest).map (.char c :: ·)

/-- Reads a pattern. -/
def pattern (cs : List Char) : Except (Nat × PatternFault) (List PatternItem) :=
  patternFrom (cs.length + 1) 0 none cs

/-- The text that a pattern without wildcards stands for. -/
def plainText : List PatternItem → Option (List Char)
  | [] => some []
  | .char c :: rest => (plainText rest).map (c :: ·)
  | _ :: _ => none

/-- Whether a pattern stands for folders at any depth. -/
def isAnyFolders (items : List PatternItem) : Bool := items.contains .anyFolders

/-- Whether a name matches a pattern. -/
def matchesName (items : List PatternItem) (name : List Char) : Bool :=
  match items, name with
  | [], name => name.isEmpty
  | .anyText :: rest, [] | .anyFolders :: rest, [] => matchesName rest []
  | .anyText :: rest, c :: cs => matchesName rest (c :: cs) || matchesName (.anyText :: rest) cs
  | .anyFolders :: rest, c :: cs => matchesName rest (c :: cs) || matchesName (.anyFolders :: rest) cs
  | _ :: _, [] => false
  | .char d :: rest, c :: cs => c == d && matchesName rest cs
  | .anyChar :: rest, _ :: cs => matchesName rest cs
  | .oneOf choices :: rest, c :: cs => CharChoice.admits choices c && matchesName rest cs
  | .noneOf choices :: rest, c :: cs => !CharChoice.admits choices c && matchesName rest cs
termination_by items.length + name.length

/-- The parts of a path pattern; an ending slash makes no part. -/
def patternParts (cs : List Char) : List (List Char) :=
  match (Text.segments '/' cs).reverse with
  | [] :: others => others.reverse
  | parts => parts.reverse

end SchemaClasses.CommandLine
