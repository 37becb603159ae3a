/-
The keywords of a schema node, each read by itself: what a node declares before anything below it is
looked at.
-/
import SchemaClasses.Error
import SchemaClasses.Json.Pointer
import SchemaClasses.Schema.TypeDef

namespace SchemaClasses.Schema

/-- The entries of a schema node. -/
abbrev Node := List (String × Json)

/-- The value of the namespace keyword. Its short form counts only where the long one is absent. -/
def segments? (node : Node) : Option String :=
  ((node.lookup "namespace").or (node.lookup "ns")).bind Json.text?

/-- The texts of the entries of `type`. -/
def kindTexts : List Json → Except SchemaFault (List String)
  | [] => .ok []
  | .string kind :: rest => (kindTexts rest).map (kind :: ·)
  | _ :: _ => .error .typeEntryNotString

/-- The kinds that a node names. Without `type`, properties make an object, items an array and
enumerated values a string. -/
def namedKinds (node : Node) : Except SchemaFault (List String) :=
  match node.lookup "type" with
  | some (.string kind) => .ok [kind]
  | some (.array kinds) => kindTexts kinds
  | some _ => .error .typeNotStringOrArray
  | none =>
    if (node.lookup "properties").isSome then .ok ["object"]
    else if (node.lookup "items").isSome then .ok ["array"]
    else if (node.lookup "enum").isSome then .ok ["string"]
    else .error .missingType

/-- The kinds of a node other than `null`, and whether `null` is among the named ones. -/
def declaredKinds (node : Node) : Except SchemaFault (Alternatives String × Bool) :=
  match namedKinds node with
  | .error fault => .error fault
  | .ok kinds =>
    match kinds.filter (· != "null") with
    | [] => .error .nullOnly
    | first :: others => .ok (⟨first, others⟩, kinds.contains "null")

/-- The keys that an object requires; entries that are no strings do not count. -/
def requiredKeys (node : Node) : Except SchemaFault (List String) :=
  match node.lookup "required" with
  | none => .ok []
  | some (.array keys) => .ok (keys.filterMap Json.text?)
  | some _ => .error .requiredNotArray

/-- The texts among enumerated values; nulls are left out. -/
def choiceTexts : List Json → Except SchemaFault (List String)
  | [] => .ok []
  | .string text :: rest => (choiceTexts rest).map (text :: ·)
  | .null :: rest => choiceTexts rest
  | value :: _ => .error (.enumValueNotString value)

/-- The values that a string may have, if they are enumerated. -/
def choices (node : Node) : Except SchemaFault (Option (List String)) :=
  match node.lookup "enum" with
  | none => .ok none
  | some (.array values) => (choiceTexts values).map some
  | some _ => .error .enumNotArray

/-- The format of a string. -/
def format? (node : Node) : Option String := (node.lookup "format").bind Json.text?

/-- The name of an array's item: its title, else a name made from the array's. -/
def itemName (item : Json) (arrayName : String) : String :=
  match (item.get? "title").bind Json.text? with
  | some title => title
  | none => if arrayName = "" then "" else arrayName ++ "_item"

mutual

/-- The texts of all references in a document. -/
def refTexts : Json → List String
  | .array items => refTextsOfItems items
  | .object entries => refTextsOfEntries entries
  | _ => []

/-- The texts of all references in the items of an array. -/
def refTextsOfItems : List Json → List String
  | [] => []
  | item :: rest => refTexts item ++ refTextsOfItems rest

/-- The texts of all references in the entries of an object, its own one included. -/
def refTextsOfEntries : List (String × Json) → List String
  | [] => []
  | (key, value) :: rest =>
    (if key = "$ref" then value.text?.toList else []) ++ refTexts value ++ refTextsOfEntries rest

end

/-- The pointer of a reference into the same document. -/
def localPointer? (target : String) : Option String :=
  match target.toList with
  | '#' :: pointer => some (String.ofList pointer)
  | _ => none

/-- The name of what a pointer leads to: the key that its last token stands for. -/
def pointerName (pointer : String) : String :=
  String.ofList (Json.unescapeToken (Text.afterLast '/' pointer.toList))

end SchemaClasses.Schema
