/-
The class model as JSON documents, for users who want to look at it.
-/
import SchemaClasses.Class.Basic
import SchemaClasses.Json.Basic

namespace SchemaClasses

/-- A text that may be absent. -/
def Json.ofText? : Option String → Json
  | some text => .string text
  | none => .null

/-- Texts in order. -/
def Json.ofTexts (texts : List String) : Json := .array (texts.map .string)

def Visibility.toJson (v : Visibility) : Json := .string v.keyword

/-- The word for a template, and for an enum the name it came from. -/
def ValueObjectKind.toJson (kind : ValueObjectKind) : Json :=
  let word (w : String) : Json := .object [("kind", .string w)]
  match kind with
  | .string => word "string"
  | .integer => word "integer"
  | .number => word "number"
  | .boolean => word "boolean"
  | .dateTime => word "date_time"
  | .uuid => word "uuid"
  | .bcp47 => word "bcp47"
  | .enum sourceName => .object [("kind", .string "enum"), ("source_name", .string sourceName)]
  | .array => word "array"

def ClassKind.toJson : ClassKind → Json
  | .entity => .string "entity"
  | .valueObject kind => .object [("value_object", kind.toJson)]
  | .exception => .string "exception"

def ConstValue.toJson : ConstValue → Json
  | .text value => .object [("type", .string "string"), ("value", .string value)]
  | .selfList names => .object [("type", .string "self_list"), ("value", Json.ofTexts names)]
  | .raw expression => .object [("type", .string "raw"), ("value", .string expression)]

def Constant.toJson (k : Constant) : Json :=
  .object [("name", .string k.name), ("value", k.value.toJson), ("visibility", k.visibility.toJson)]

def Property.toJson (p : Property) : Json :=
  .object [
    ("name", .string p.name),
    ("source_name", Json.ofText? p.sourceName),
    ("type_hint", .string p.typeHint),
    ("doc_hint", Json.ofText? p.docHint),
    ("default", Json.ofText? p.initial),
    ("visibility", p.visibility.toJson)]

def Param.toJson (p : Param) : Json :=
  .object [
    ("name", .string p.name),
    ("type_hint", Json.ofText? p.typeHint),
    ("doc_hint", Json.ofText? p.docHint),
    ("variadic", .bool p.variadic)]

def Method.toJson (m : Method) : Json :=
  .object [
    ("name", .string m.name),
    ("params", .array (m.params.map Param.toJson)),
    ("return_type", Json.ofText? m.returnType),
    ("return_doc_hint", Json.ofText? m.returnDocHint),
    ("body", Json.ofTexts m.body),
    ("is_static", .bool m.isStatic),
    ("visibility", m.visibility.toJson)]

/-- A class, with a choice of how named members are laid out. -/
def ClassModel.toJsonWith (members : Entries Json → Json) (c : ClassModel) : Json :=
  .object [
    ("name", .string c.name),
    ("namespace", .string c.space),
    ("kind", c.kind.toJson),
    ("is_final", .bool c.isFinal),
    ("is_strict", .bool c.isStrict),
    ("typed", .bool c.typed),
    ("extends", Json.ofText? c.parent),
    ("implements", Json.ofTexts c.interfaces),
    ("namespace_imports", Json.ofTexts c.imports),
    ("constants", members (c.constants.map fun entry => (entry.1, entry.2.toJson))),
    ("properties", members (c.properties.map fun entry => (entry.1, entry.2.toJson))),
    ("methods", members (c.methods.map fun entry => (entry.1, entry.2.toJson)))]

/-- A class, its members keyed by their names. -/
def ClassModel.toJson (c : ClassModel) : Json := c.toJsonWith .object

end SchemaClasses
