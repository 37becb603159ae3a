/-
Value objects over language tags (BCP 47), which also tell their language and region.
-/
import SchemaClasses.Names
import SchemaClasses.Template.Parts

namespace SchemaClasses.Template.LanguageTag

/-- The class of a language tag with a raw name. -/
def build (filters : NameFilters) (typed : Bool) (name : String) : ClassModel :=
  let field := filters.propertyName name
  let start := ClassModel.valueObject .bcp47 typed
  let held := ((start.addProperty { name := field, typeHint := "string" }).addProperty
    { name := "language", typeHint := "?string" }).addProperty
    { name := "region", typeHint := "?string" }
  held.addMethods [
    fromNative "fromString" "string" field,
    { name := "__construct"
      params := [.typed field "string"]
      body := [
        s!"$this->{field} = ${field};",
        s!"$parsed = locale_parse(${field}) ?: [];",
        "$this->language = $parsed['language'] ?? null;",
        "$this->region = $parsed['region'] ?? null;"]
      visibility := .forSelf },
    accessor "toString" "string" field,
    accessor "language" "?string" "language",
    accessor "region" "?string" "region",
    equalsField field,
    textOf s!"$this->{field}"]

end SchemaClasses.Template.LanguageTag
