/-
Paths of source files: how a class name becomes a path, and when two paths are the same.
-/
import SchemaClasses.Class.Basic

namespace SchemaClasses

/-! ## Paths -/

namespace Path

/-- Goes on from a path: an absolute path replaces it, and any other is appended behind a slash. -/
def join (path next : String) : String :=
  if next.toList.head? = some '/' then next
  else if path = "" ∨ path.toList.getLast? = some '/' then path ++ next
  else path ++ "/" ++ next

/-- Goes on from a path, part by part. -/
def joinAll (path : String) (parts : List String) : String := parts.foldl join path

/-- A path without what does not tell it from others: whether it begins at the root, and its parts.
Repeated and trailing slashes do not count, nor do single dots except at the front of a path that is
not absolute. -/
structure Normal where
  absolute : Bool
  parts : List String
  deriving Repr, DecidableEq, Inhabited

/-- The normal form of a path. -/
def normal (path : String) : Normal :=
  let absolute := path.toList.head? = some '/'
  let parts := (Text.segments '/' path.toList).map String.ofList
  let leading := if parts.head? = some "." then ["."] else []
  ⟨absolute, leading ++ parts.filter fun part => part != "" && part != "."⟩

/-- Whether two paths are the same. -/
def same (a b : String) : Bool := normal a == normal b

/-- A normal form written as a path. -/
def Normal.text (n : Normal) : String :=
  (if n.absolute then "/" else "") ++ "/".intercalate n.parts

/-- The last part of a path, if it is a name. -/
def fileName? (path : String) : Option String :=
  match (normal path).parts.getLast? with
  | some ".." | some "." | none => none
  | some name => some name

/-- The last part of a path up to its last dot; a dot at the front does not count. -/
def stem? (path : String) : Option String :=
  (fileName? path).map fun name =>
    let front := Text.beforeLast '.' name.toList
    if front.isEmpty then name else String.ofList front

end Path

/-! ## Where classes lie -/

/-- Classes of the root namespace lie in a directory, and those below it in directories below, one
for each segment. -/
structure SourceLayout where
  sourceRoot : String := "src"
  rootNamespace : String := ""
  deriving Repr, DecidableEq, Inhabited

namespace SourceLayout

/-- A layout; backslashes around the namespace do not count. -/
def ofNamespace (sourceRoot rootNamespace : String) : SourceLayout :=
  ⟨sourceRoot, Text.trimBackslashes rootNamespace⟩

/-- What stands behind a beginning of a list. -/
def dropFront? : List Char → List Char → Option (List Char)
  | [], cs => some cs
  | _ :: _, [] => none
  | a :: front, b :: cs => if a = b then dropFront? front cs else none

/-- The part of a namespace below the root namespace; the whole of one that lies elsewhere. -/
def relative (layout : SourceLayout) (space : String) : List Char :=
  let space := (Text.trimBackslashes space).toList
  let root := layout.rootNamespace.toList
  if root = [] then space
  else if space = root then []
  else (dropFront? (root ++ ['\\']) space).getD space

/-- The path of a class. -/
def pathOf (layout : SourceLayout) (c : ClassModel) : String :=
  let segments := (Text.segments '\\' (layout.relative c.space)).filter (!·.isEmpty)
  Path.join (Path.joinAll layout.sourceRoot (segments.map String.ofList)) (c.name ++ ".php")

end SourceLayout

end SchemaClasses
