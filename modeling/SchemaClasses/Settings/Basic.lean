/-
The settings of a generation. Every field has a default.
-/
namespace SchemaClasses

/-- What users can choose about the generated classes. -/
structure Settings where
  /-- The ambient namespace of the generated classes. -/
  space : String := "App"
  /-- The name of the top-level class; when absent, that of the input file. -/
  rootClass : Option String := none
  /-- The directory that the ambient namespace stands for. -/
  sourceRoot : String := "src"
  /-- Whether types are written natively or in comments. -/
  typed : Bool := true
  getters : Bool := true
  constants : Bool := false
  /-- Whether each enum gets an exception of its own. -/
  exceptions : Bool := true
  /-- The format in which dates are written out, or the name of a predefined constant. -/
  dateTimeFormat : Option String := none
  deriving Repr, DecidableEq, Inhabited

end SchemaClasses
