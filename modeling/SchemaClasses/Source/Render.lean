/-
Classes as source text: one class in a file, members in their order (constants, properties, methods),
an indent of four spaces, and comments only where a type cannot be written natively.
-/
import SchemaClasses.Class.RawArray
import SchemaClasses.Source.Member
import SchemaClasses.Source.Path

namespace SchemaClasses.Source

/-- One step of indentation. -/
def indent : String := "    "

/-- A comment block over a member; nothing if there is nothing to say. -/
def docblock (lines : List String) : List String :=
  if lines.isEmpty then []
  else [indent ++ "/**"] ++ lines.map (fun line => indent ++ " * " ++ line) ++ [indent ++ " */"]

/-! ## Members -/

/-- The value of a constant as source text. -/
def constValue : ConstValue → String
  | .text value => singleQuoted value
  | .selfList names => "[" ++ ", ".intercalate (names.map ("self::" ++ ·)) ++ "]"
  | .raw expression => expression

def constantLines (k : Constant) : List String :=
  [indent ++ k.visibility.keyword ++ " const " ++ k.name ++ " = " ++ constValue k.value ++ ";"]

/-- What the comment over a property says about its type. -/
def propertyDoc (typed : Bool) (p : Property) : List String :=
  match p.docHint with
  | some hint => ["@var " ++ hint]
  | none => if typed then [] else ["@var " ++ p.typeHint]

def propertyLines (typed : Bool) (p : Property) : List String :=
  let hint := if typed then p.typeHint ++ " " else ""
  let initial := p.initial.elim "" (" = " ++ ·)
  docblock (propertyDoc typed p) ++
    [indent ++ p.visibility.keyword ++ " " ++ hint ++ "$" ++ p.name ++ initial ++ ";"]

/-- The dots before a parameter that takes any number of arguments. -/
def dots (p : Param) : String := if p.variadic then "..." else ""

/-- What the comment over a method says about a parameter. -/
def paramDoc (typed : Bool) (p : Param) : Option String :=
  (p.docHint.or (if typed then none else p.typeHint)).map fun hint =>
    "@param " ++ hint ++ " " ++ dots p ++ "$" ++ p.name

/-- What the comment over a method says. The type of the result is told when types are not written
natively, and also when there is something to say about a parameter. -/
def methodDoc (typed : Bool) (m : Method) : List String :=
  let params := m.params.filterMap (paramDoc typed)
  let result := m.returnDocHint.or (if typed && params.isEmpty then none else m.returnType)
  params ++ (result.map ("@return " ++ ·)).toList

/-- A parameter in the head of a method. -/
def param (typed : Bool) (p : Param) : String :=
  let hint := if typed then p.typeHint.elim "" (· ++ " ") else ""
  hint ++ dots p ++ "$" ++ p.name

/-- The head of a method. -/
def methodHead (typed : Bool) (m : Method) : String :=
  let modifier := if m.isStatic then "static " else ""
  let result := if typed then m.returnType.elim "" (" : " ++ ·) else ""
  indent ++ m.visibility.keyword ++ " " ++ modifier ++ "function " ++ m.name ++ "(" ++
    ", ".intercalate (m.params.map (param typed)) ++ ")" ++ result

/-- A line of a body; empty lines are not indented. -/
def bodyLine (line : String) : String := if line = "" then "" else indent ++ indent ++ line

def methodLines (typed : Bool) (m : Method) : List String :=
  docblock (methodDoc typed m) ++
    [methodHead typed m, indent ++ "\x7b"] ++ m.body.map bodyLine ++ [indent ++ "\x7d"]

/-! ## Files -/

/-- The imports that are written: those from other namespaces. -/
def usedImports (c : ClassModel) : List String :=
  c.imports.filter fun fqcn => namespaceOf fqcn != c.space

/-- What stands before the class. -/
def preamble (c : ClassModel) : List String :=
  ["<?php", ""] ++
    (if c.isStrict then ["declare (strict_types=1);"] else []) ++
    (if c.space = "" then [] else ["namespace " ++ c.space ++ ";"]) ++
    (if c.isStrict || c.space != "" then [""] else []) ++
    (usedImports c).map fun fqcn => "use " ++ fqcn ++ ";"

/-- The head of the class. -/
def classHead (c : ClassModel) : String :=
  (if c.isFinal then "final " else "") ++ "class " ++ c.name ++
    c.parent.elim "" (" extends " ++ ·) ++
    (if c.interfaces.isEmpty then "" else " implements " ++ ", ".intercalate c.interfaces)

/-- The generated members of the class. -/
def memberLines (c : ClassModel) : List String :=
  c.constants.values.flatMap constantLines ++
    c.properties.values.flatMap (propertyLines c.typed) ++
    c.methods.values.flatMap (methodLines c.typed)

/-- Whether the class has a member of a name. -/
def declares (c : ClassModel) (name : String) : Bool :=
  c.hasMethod name || c.hasProperty name || c.hasConstant name

/-- The members written by hand that the class does not declare itself. -/
def keptMembers (c : ClassModel) (members : List Member) : List Member :=
  members.filter fun m => !declares c m.name

/-- A text without line feeds at its end. -/
def dropLineFeeds (text : String) : String :=
  String.ofList (Text.trimEnd (· == '\n') text.toList)

/-- The region of members written by hand. -/
def customLines (members : List Member) : List String :=
  if members.isEmpty then []
  else [indent ++ customStart] ++ members.map (fun m => dropLineFeeds m.source) ++
    [indent ++ customEnd]

/-- The parts of a file, each of which is ended by a line feed. -/
def fileLines (c : ClassModel) (members : List Member) : List String :=
  preamble c ++ [classHead c, "\x7b"] ++ memberLines c ++ customLines (keptMembers c members) ++
    ["\x7d"]

/-- The text of the file of a class, with members written by hand carried over. -/
def renderClass (c : ClassModel) (members : List Member) : String :=
  Member.endedLines (fileLines c members)

/-! ## Collections -/

/-- Source texts by path. -/
abbrev Files := List (String × String)

/-- Puts a text under a path: in the place of an earlier text under the same path, else at the
end. -/
def putFile (files : Files) (path text : String) : Files :=
  match files with
  | [] => [(path, text)]
  | (p, t) :: rest => if Path.same p path then (p, text) :: rest else (p, t) :: putFile rest path text

/-- The files of classes, added to those that there are. `existing` tells the members written by hand
that the file of a class holds so far. -/
def renderFrom (layout : SourceLayout)
    (existing : ClassModel → String → Except GenerateError (List Member)) :
    List ClassModel → Files → Except GenerateError Files
  | [], files => .ok files
  | c :: rest, files => do
    let path := layout.pathOf c
    let members ← existing c path
    renderFrom layout existing rest (putFile files path (renderClass c members))

/-- The files of a collection in its order. -/
def render (layout : SourceLayout)
    (existing : ClassModel → String → Except GenerateError (List Member)) (c : Collection) :
    Except GenerateError Files :=
  renderFrom layout existing c.toList []

end SchemaClasses.Source
