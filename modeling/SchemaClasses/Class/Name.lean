/-
Fully-qualified class names: a namespace and a short name with a backslash in between.
-/
import SchemaClasses.Text.Blank
import SchemaClasses.Text.Segments

namespace SchemaClasses

open Text

/-- The fully-qualified name of `name` in a namespace. -/
def qualify (space name : String) : String :=
  let space := trimBackslashes space
  if space = "" then name else space ++ "\\" ++ name

/-- A fully-qualified name without backslashes at the front. -/
def withoutLeadingBackslashes (fqcn : String) : String :=
  String.ofList (trimStart (· == '\\') fqcn.toList)

/-- The namespace and the short name of a fully-qualified name: `Acme\Geo\City` falls into
`Acme\Geo` and `City`. -/
def splitFqcn (fqcn : String) : String × String :=
  let cs := trimStart (· == '\\') fqcn.toList
  (String.ofList (beforeLast '\\' cs), String.ofList (afterLast '\\' cs))

/-- The namespace of a fully-qualified name. -/
def namespaceOf (fqcn : String) : String := (splitFqcn fqcn).1

/-- The short name of a fully-qualified name. -/
def shortName (fqcn : String) : String := (splitFqcn fqcn).2

end SchemaClasses
