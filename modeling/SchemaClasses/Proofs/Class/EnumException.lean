/-
Enums and their exceptions. The class of an enum imports the exception that goes with it and refuses values
by a named constructor that the exception declares; the exception imports the class of the enum.
-/
import SchemaClasses.Proofs.Class.Imports
import SchemaClasses.Source.Render

namespace SchemaClasses

open Template

/-! ## Throwing -/

/-- The constructor of a class refuses values with what a static method `maker` of the class `thrown` makes. -/
def Throws (c : ClassModel) (thrown maker : String) : Prop :=
  ∃ field : String, (c.methods.at? "__construct").map (·.body) = some [
    s!"if (false === in_array(${field}, self::CHOICES, true)) \x7b",
    s!"    throw {thrown}::{maker}(${field});",
    "\x7d",
    s!"$this->{field} = ${field};"]

/-- A class with a static method of a name. -/
def ClassModel.Declares (c : ClassModel) (maker : String) : Prop :=
  ∃ method, c.methods.at? maker = some method ∧ method.isStatic = true

/-- An enum and its exception. The enum imports the exception and throws it by a static method that it
declares; the exception imports the enum from outside its own namespace. -/
structure Companions (enum exception : ClassModel) : Prop where
  kind : exception.kind = .exception
  imports : exception.fqcn ∈ enum.imports
  throws : ∃ maker, Throws enum (shortName exception.fqcn) maker ∧ exception.Declares maker
  imported : enum.fqcn ∈ Source.usedImports exception

/-! ## Exceptions -/

namespace EnumException

variable {filters : NameFilters} {typed : Bool} {source valueObject : String}

theorem length_space (s : String) : (Text.trimBackslashes s).length + "Exception".length ≤ (space s).length := by
  unfold space qualify
  simp only
  split
  · rename_i empty
    rw [empty]
    decide
  · rw [String.length_append, String.length_append]
    omega

theorem space_ne (s : String) : space s ≠ Text.trimBackslashes s := by
  intro h
  have length := length_space s
  have positive : "Exception".length = 9 := by decide
  rw [h] at length
  omega

theorem space_ne_empty (s : String) : space s ≠ "" := by
  intro h
  have length := length_space s
  have positive : "Exception".length = 9 := by decide
  have none : "".length = 0 := by decide
  rw [h] at length
  omega

theorem isTrimmed_space (s : String) : IsTrimmed (space s) := isTrimmed_qualify (isTrimmed_of_isShort (by decide)) (by decide)

/-- An exception as it is made for an enum of a raw name whose class is `valueObject`. -/
structure IsException (filters : NameFilters) (source valueObject : String) (e : ClassModel) : Prop where
  name : e.name = className filters source
  space : e.space = space (namespaceOf valueObject)
  kind : e.kind = .exception
  tidy : e.Tidy
  imports : ∀ fqcn, fqcn ∈ e.imports ↔ fqcn = valueObject ∨ fqcn = "InvalidArgumentException"
  declares : e.Declares (methodName filters source)

/-- The namespace of an enum is another one than that of its exception. -/
theorem namespaceOf_ne (space : String) {name : String} (short : IsShort name) :
    namespaceOf (qualify space name) ≠ EnumException.space (namespaceOf (qualify space name)) := by
  intro he
  rw [namespaceOf_qualify short] at he
  exact space_ne _ (he.symm.trans (isTrimmed_trimBackslashes _).symm)

/-- The global namespace is another one than that of an exception. -/
theorem global_ne (s : String) : namespaceOf "InvalidArgumentException" ≠ space s := by
  intro he
  exact space_ne_empty s (he.symm.trans (by decide +kernel))

/-- The class of an exception before its named constructor is added. -/
def imported (filters : NameFilters) (typed : Bool) (source valueObject : String) : ClassModel :=
  let start : ClassModel := {
    name := className filters source
    space := space (namespaceOf valueObject)
    kind := .exception
    typed := typed
    parent := some "InvalidArgumentException" }
  (start.addImport valueObject).addImport "InvalidArgumentException"

theorem exists_build_eq (filters : NameFilters) (typed : Bool) (source valueObject : String) :
    ∃ method, build filters typed source valueObject = (imported filters typed source valueObject).addMethod method ∧
      method.name = methodName filters source ∧ method.isStatic = true :=
  ⟨_, rfl, rfl, rfl⟩

theorem isException_build (filters : NameFilters) (typed : Bool) (source : String) {space name : String}
    (short : IsShort name) : IsException filters source (qualify space name)
      (build filters typed source (qualify space name)) := by
  have imports : ∀ fqcn, fqcn ∈ (imported filters typed source (qualify space name)).imports ↔
      fqcn = qualify space name ∨ fqcn = "InvalidArgumentException" := by
    have outside := namespaceOf_ne space short
    have global := global_ne (namespaceOf (qualify space name))
    intro fqcn
    unfold imported
    simp only
    rw [ClassModel.mem_addImport (by decide +kernel), ClassModel.mem_addImport (withoutLeadingBackslashes_qualify short),
      ClassModel.space_addImport]
    simp [outside, global]
  have tidy : (imported filters typed source (qualify space name)).Tidy :=
    .addImport (.addImport ⟨List.nodup_nil, Entries.distinct_nil, Entries.distinct_nil⟩)
  have same : (imported filters typed source (qualify space name)).name = className filters source ∧
      (imported filters typed source (qualify space name)).space =
        EnumException.space (namespaceOf (qualify space name)) ∧
      (imported filters typed source (qualify space name)).kind = .exception := by simp [imported]
  obtain ⟨method, hb, hn, static⟩ := exists_build_eq filters typed source (qualify space name)
  rw [hb]
  generalize imported filters typed source (qualify space name) = e at *
  constructor
  · exact same.1
  · exact same.2.1
  · exact same.2.2
  · exact tidy.addMethod method
  · exact imports
  · refine ⟨method, ?_, static⟩
    rw [ClassModel.at?_addMethod, if_pos hn.symm]

/-- The exception of an enum has the name that the enum imports. -/
theorem fqcn_build (filters : NameFilters) (typed : Bool) (source : String) {space name : String}
    (short : IsShort name) :
    (build filters typed source (qualify space name)).fqcn = fqcn filters source space := by
  have exception : IsException filters source (qualify space name) (build filters typed source (qualify space name)) :=
    isException_build filters typed source short
  have trimmed : EnumException.space (Text.trimBackslashes space) = EnumException.space space :=
    qualify_trimBackslashes space "Exception"
  rw [ClassModel.fqcn, exception.name, exception.space, namespaceOf_qualify short, trimmed]
  rfl

end EnumException

/-! ## Enums -/

variable {v : ValueObjects} {className space source : String} {traits : Traits} {format : Option String}
  {values : List String} {d : TypeDef} {c : ClassModel} {events : List Event}

theorem throws_build (filters : NameFilters) (typed : Bool) (source : String) (values : List String) :
    Throws (Enum.build filters typed source values).1 (EnumException.className filters source)
      (EnumException.methodName filters source) := by
  refine ⟨filters.propertyName source, ?_⟩
  -- nothing is added behind the closing methods, the first of which is the constructor
  rw [Enum.build, ClassModel.at?_addMethods]
  rfl

/-- What the class of an enumerated string is. -/
structure IsEnum (filters : NameFilters) (source : String) (c : ClassModel) : Prop where
  kind : c.kind = .valueObject (.enum source)
  imports : c.imports = [EnumException.fqcn filters source c.space]
  throws : Throws c (EnumException.className filters source) (EnumException.methodName filters source)

theorem isEnum_build (short : ∀ raw, IsShort (v.filters.className raw))
    (h : v.build className space (.string traits format (some values)) = .ok (c, events)) :
    c.name = className ∧ c.space = space ∧ IsEnum v.filters (nameOr traits.name "text") c := by
  have scalar : IsScalar (.string traits format (some values)) := trivial
  obtain ⟨called, placed, -⟩ := build_scalar scalar h
  obtain ⟨kind, hk, imports⟩ := imports_build short scalar h
  obtain ⟨made, reported, ht, rfl⟩ := build_eq h
  obtain rfl : (Enum.build v.filters v.typed (nameOr traits.name "text") values).1 = made :=
    congrArg Prod.fst (Except.ok.inj ht)
  have throws := throws_build v.filters v.typed (nameOr traits.name "text") values
  have template := importsOfKind_enum v.filters v.typed (nameOr traits.name "text") values
  generalize (Enum.build v.filters v.typed (nameOr traits.name "text") values).1 = made at *
  -- naming and importing leave the kind and the methods of the template
  have kept : (ValueObjects.withException v.filters (named made className space)).kind = made.kind ∧
      (ValueObjects.withException v.filters (named made className space)).methods = made.methods := by
    rw [withException_eq]
    exact ⟨rfl, rfl⟩
  generalize ValueObjects.withException v.filters (named made className space) = c at *
  obtain rfl : kind = .enum (nameOr traits.name "text") :=
    ClassKind.valueObject.inj (hk.symm.trans (kept.1.trans template.made))
  refine ⟨called, placed, hk, ?_, ?_⟩
  · rw [placed]
    exact imports
  · unfold Throws
    rw [kept.2]
    exact throws

/-- Only enumerated strings become enums. -/
theorem exists_choices_of_enum (hd : IsScalar d) (h : v.build className space d = .ok (c, events))
    (hk : c.kind = .valueObject (.enum source)) :
    ∃ traits format values, d = .string traits format (some values) ∧ source = nameOr traits.name "text" := by
  obtain ⟨made, reported, ht, rfl⟩ := build_eq h
  have hk : made.kind = .valueObject (.enum source) := by
    rw [withException_eq] at hk
    exact hk
  cases templateOf_template hd ht with
  | enum traits format values =>
    have enum := (assembled_enum v.filters v.typed (nameOr traits.name "text") values).kind_eq
    obtain rfl : nameOr traits.name "text" = source :=
      ValueObjectKind.enum.inj (ClassKind.valueObject.inj (enum.symm.trans hk))
    exact ⟨traits, format, values, rfl, rfl⟩
  | dateTime => cases (assembled_dateTime ..).kind_eq.symm.trans hk
  | uuid => cases (assembled_uuid ..).kind_eq.symm.trans hk
  | languageTag => cases (assembled_languageTag ..).kind_eq.symm.trans hk
  | scalar d scalar name among =>
    have kind : scalar.kind = .enum source :=
      ClassKind.valueObject.inj ((assembled_scalar ..).kind_eq.symm.trans hk)
    rw [kind] at among
    simp at among

/-- An enum and its exception are companions. -/
theorem IsEnum.companions {filters : NameFilters} (h : IsEnum filters source c) (short : IsShort c.name)
    (shortException : IsShort (filters.className source)) (typed : Bool) :
    Companions c (EnumException.build filters typed source c.fqcn) := by
  have exception : EnumException.IsException filters source c.fqcn (EnumException.build filters typed source c.fqcn) :=
    EnumException.isException_build filters typed source short
  have fqcn : (EnumException.build filters typed source c.fqcn).fqcn = EnumException.fqcn filters source c.space :=
    EnumException.fqcn_build filters typed source short
  generalize EnumException.build filters typed source c.fqcn = e at *
  constructor
  · exact exception.kind
  · rw [h.imports, fqcn]
    exact List.mem_singleton_self _
  · refine ⟨EnumException.methodName filters source, ?_, exception.declares⟩
    rw [fqcn, EnumException.fqcn, shortName_qualify (isShort_exceptionName shortException)]
    exact h.throws
  · have outside : namespaceOf c.fqcn ≠ e.space := by
      rw [exception.space]
      exact EnumException.namespaceOf_ne c.space short
    exact List.mem_filter.2 ⟨(exception.imports _).2 (.inl rfl), bne_iff_ne.2 outside⟩

/-- An enumerated string always has a class, and the exception made for the class is the one made for the
string. -/
theorem exists_companions (short : ∀ raw, IsShort (v.filters.className raw)) (hn : IsShort className) (space : String)
    (traits : Traits) (format : Option String) (values : List String) : ∃ c events,
      v.build className space (.string traits format (some values)) = .ok (c, events) ∧ ∀ typed, ∃ exception,
        EnumException.ofClass v.filters typed c = .ok exception ∧
        EnumException.ofDefinition v.filters typed (.string traits format (some values)) c.fqcn = .ok exception ∧
        Companions c exception := by
  obtain ⟨c, events, hb⟩ : ∃ c events, v.build className space (.string traits format (some values)) = .ok (c, events) :=
    ⟨_, _, rfl⟩
  obtain ⟨name, -, enum⟩ := isEnum_build short hb
  refine ⟨c, events, hb, fun typed => ⟨_, ?_, rfl, enum.companions (name ▸ hn) (short _) typed⟩⟩
  unfold EnumException.ofClass
  rw [enum.kind]

end SchemaClasses
