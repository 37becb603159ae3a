/-
Names as sequences of words: where a text falls into words, and the usual ways of writing the words
as one name again. A word ends at a space, a hyphen or an underscore, where a small letter meets a
capital, where a letter meets a digit, and before the last capital of a run that small letters
follow.
-/
import SchemaClasses.Text.LetterCase

namespace SchemaClasses.Text

/-! ## Where words begin -/

/-- A letter with two cases that is in its upper case. -/
def isCapital (c : Char) : Bool := upperChar c != lowerChar c && upperChar c == [c]

/-- A letter with two cases that is in its lower case. -/
def isSmall (c : Char) : Bool := upperChar c != lowerChar c && lowerChar c == [c]

/-- The characters that stand between words and belong to none. -/
def isSeparator (c : Char) : Bool := c == '_' || c == '-' || c == ' '

/-- Whether a word ends between two characters for what these two are. -/
def partsPair (left right : Char) : Bool :=
  (isSmall left && (isCapital right || right.isDigit)) ||
    (isCapital left && right.isDigit) ||
    (left.isDigit && (isCapital right || isSmall right))

/-- Whether `c` opens a word by being the last capital of a run: a capital stands before it and a
small letter follows. -/
def endsCapitals (left c : Char) (next : Option Char) : Bool :=
  isCapital left && isCapital c && next.any isSmall

/-- Whether a new word begins at `c`, given the characters on either side. -/
def opensWord (left : Option Char) (c : Char) (next : Option Char) : Bool :=
  left.any fun l => partsPair l c || endsCapitals l c next

/-- The words of `cs` behind the character `left`, the first of them continuing `word`. Words may
come out empty. -/
def wordsAfter (left : Option Char) (word : List Char) : List Char → List (List Char)
  | [] => [word]
  | c :: rest =>
    if isSeparator c then word :: wordsAfter (some c) [] rest
    else if opensWord left c rest.head? then word :: wordsAfter (some c) [c] rest
    else wordsAfter (some c) (word ++ [c]) rest

/-- The words of a text. -/
def words (cs : List Char) : List (List Char) :=
  (wordsAfter none [] cs).filter fun word => !word.isEmpty

/-! ## How words are written as a name -/

/-- The word with a capital at the front and small letters behind it. -/
def capitalize : List Char → List Char
  | [] => []
  | c :: rest => upperChar c ++ lowerText rest

/-- Every word capitalized, with nothing in between. -/
def pascalCase (cs : List Char) : List Char := (words cs).flatMap capitalize

/-- The first word in small letters, the others capitalized, with nothing in between. -/
def camelCase (cs : List Char) : List Char :=
  match words cs with
  | [] => []
  | first :: others => lowerText first ++ others.flatMap capitalize

/-- The words in small letters with underscores in between. -/
def snakeCase (cs : List Char) : List Char := ['_'].intercalate ((words cs).map lowerText)

/-- The words in capitals with underscores in between. -/
def upperSnakeCase (cs : List Char) : List Char := ['_'].intercalate ((words cs).map upperText)

end SchemaClasses.Text
