/-
Which classes of a result can have their use lines together. The names that a class calls are chosen apart
from its own: it depends on what the class was made for which of them get in each other's way.
-/
import SchemaClasses.Proofs.Class.Properties
import SchemaClasses.Proofs.Generator.EnumException

namespace SchemaClasses

/-! ## Conditions -/

section Conditions

variable (v : ValueObjects) (ambient : String) (built : TypeDef → Prop) (m : ClassModel)

/-- The exact condition for the use lines of a class to be usable together, by what it was made for. -/
inductive UsableWhen : Prop → Prop
  | plain {kind : ValueObjectKind} : m.kind = .valueObject kind →
      kind ∈ [.string, .integer, .number, .boolean, .bcp47] → UsableWhen True
  | dateTime : m.kind = .valueObject .dateTime → UsableWhen
      (m.space = "" ∨ m.name ∉ ["DateTimeImmutable", "DateTimeZone", "InvalidArgumentException"])
  | uuid : m.kind = .valueObject .uuid → UsableWhen (m.space = "Ramsey\\Uuid" ∨ m.name ∉ ["Uuid", "UuidInterface"])
  | enum {traits : Traits} {format : Option String} {values : List String} :
      m.kind = .valueObject (.enum (nameOr traits.name "text")) → built (.string traits format (some values)) →
      UsableWhen (m.name ≠ "Invalid" ++ v.filters.className (nameOr traits.name "text"))
  | list {traits : Traits} {items : List TypeSet} {item : Template.ItemType} {d target : TypeDef} {source : String} :
      m.kind = .valueObject .array → built (.array traits items) → HasItems items item d target source →
      m.space = extractNamespace ambient (.array traits items) →
      UsableWhen (extractNamespace ambient target = m.space ∨ v.filters.className item.sourceName ≠ m.name)
  | entity {traits : Traits} {properties : List (String × TypeSet)} :
      m.kind = .entity → built (.object traits properties) → m.properties = schemaProperties v ambient properties →
      UsableWhen (Apart m.space m.name (properties.map fun entry => promisedName v ambient entry.1 entry.2.first))
  | exception {traits : Traits} {format : Option String} {values : List String} {space enum : String} :
      m.kind = .exception → built (.string traits format (some values)) →
      space = extractNamespace ambient (.string traits format (some values)) →
      m.space = EnumException.space space → m.name = "Invalid" ++ v.filters.className (nameOr traits.name "text") →
      IsShort enum → qualify space enum ∈ m.imports → UsableWhen (m.name ≠ enum ∧ m.name ≠ "InvalidArgumentException" ∧
        (space = "" ∨ enum ≠ "InvalidArgumentException"))

end Conditions

section Classes

variable {v : ValueObjects} {ambient : String} {built : TypeDef → Prop} {m made : ClassModel} {condition : Prop}

/-- The condition of a class does not change with its methods. -/
theorem Gained.usableWhen (gained : Gained made m) (h : UsableWhen v ambient built made condition) :
    UsableWhen v ambient built m condition := by
  rw [gained.same]
  cases h with
  | plain hk hm => exact .plain hk hm
  | dateTime hk => exact .dateTime hk
  | uuid hk => exact .uuid hk
  | enum hk hb => exact .enum hk hb
  | list hk hb items space => exact .list hk hb items space
  | entity hk hb properties => exact .entity hk hb properties
  | exception hk hb hs space name short imported => exact .exception hk hb hs space name short imported

theorem Gained.usable_iff (gained : Gained made m) : Usable m ↔ Usable made := by
  have same : Source.usedImports m = Source.usedImports made ∧ m.name = made.name := by
    rw [gained.same]
    exact ⟨rfl, rfl⟩
  constructor
  · rintro ⟨distinct, other⟩
    rw [same.1] at distinct other
    exact ⟨distinct, same.2 ▸ other⟩
  · rintro ⟨distinct, other⟩
    rw [← same.1] at distinct other
    exact ⟨distinct, same.2 ▸ other⟩

/-- Value objects call what their kind imports. -/
theorem usable_value {className space : String} {d : TypeDef} {reported : List Event}
    (short : ∀ raw, IsShort (v.filters.className raw)) (trimmed : IsTrimmed space) (hd : IsScalar d) (hb : built d)
    (h : v.build className space d = .ok (made, reported)) :
    ∃ condition, UsableWhen v ambient built made condition ∧ (Usable made ↔ condition) := by
  obtain ⟨-, placed, conversion, -, value⟩ := build_scalar hd h
  obtain ⟨kind, hk, imports⟩ := imports_build short hd h
  have apart : Usable made ↔ Apart made.space made.name (kind.importsIn v.filters space) := by
    rw [← imports]
    exact usable_iff value.tidy.imports fun _ _ => Iff.rfl
  cases kind with
  | dateTime =>
    have placed : ∀ fqcn ∈ ValueObjectKind.dateTime.imports, namespaceOf fqcn = "" := by decide +kernel
    have names : ValueObjectKind.dateTime.imports.map shortName =
        ["DateTimeImmutable", "DateTimeZone", "InvalidArgumentException"] := by decide +kernel
    refine ⟨_, .dateTime hk, apart.trans ((apart_of_namespace placed (names ▸ by decide)).trans ?_)⟩
    rw [names, eq_comm]
  | uuid =>
    have placed : ∀ fqcn ∈ ValueObjectKind.uuid.imports, namespaceOf fqcn = "Ramsey\\Uuid" := by decide +kernel
    have names : ValueObjectKind.uuid.imports.map shortName = ["Uuid", "UuidInterface"] := by decide +kernel
    refine ⟨_, .uuid hk, apart.trans ((apart_of_namespace placed (names ▸ by decide)).trans ?_)⟩
    rw [names, eq_comm]
  | enum source =>
    obtain ⟨traits, format, values, rfl, rfl⟩ := exists_choices_of_enum hd h hk
    refine ⟨_, .enum hk hb, apart.trans (apart_singleton.trans ?_)⟩
    have elsewhere : namespaceOf (EnumException.fqcn v.filters (nameOr traits.name "text") space) ≠ made.space := by
      rw [EnumException.fqcn, namespaceOf_qualify (isShort_exceptionName (short _)), EnumException.isTrimmed_space, placed]
      have other := EnumException.space_ne space
      rwa [trimmed] at other
    have name : shortName (EnumException.fqcn v.filters (nameOr traits.name "text") space) =
        "Invalid" ++ v.filters.className (nameOr traits.name "text") :=
      shortName_qualify (isShort_exceptionName (short _))
    rw [name, or_iff_right elsewhere, ne_comm]
  | array =>
    obtain ⟨kind, hk', -, other⟩ := value.kind
    exact absurd (ClassKind.valueObject.inj (hk'.symm.trans hk)) other
  | string | integer | number | boolean | bcp47 =>
    exact ⟨_, .plain hk (by decide), apart.trans (iff_true_intro (apart_nil _ _))⟩

/-- Lists call the class of their items. -/
theorem usable_list {className : String} {traits : Traits} {items : List TypeSet} {item : Template.ItemType}
    {d target : TypeDef} {source : String} {c : ClassModel} {reported : List Event}
    (short : ∀ raw, IsShort (v.filters.className raw)) (hi : HasItems items item d target source)
    (hb : built (.array traits items))
    (h : v.build className (extractNamespace ambient (.array traits items)) (.array traits items) = .ok (c, reported)) :
    ∃ condition, UsableWhen v ambient built
        (c.addImport (qualify (extractNamespace ambient target) (v.filters.className item.sourceName))) condition ∧
      (Usable (c.addImport (qualify (extractNamespace ambient target) (v.filters.className item.sourceName))) ↔
        condition) := by
  obtain ⟨-, placed, list⟩ := build_array hi h
  have itemShort := short item.sourceName
  have kind : (c.addImport (qualify (extractNamespace ambient target) (v.filters.className item.sourceName))).kind =
      .valueObject .array := by rw [ClassModel.kind_addImport, list.kind]
  have space : (c.addImport (qualify (extractNamespace ambient target) (v.filters.className item.sourceName))).space =
      extractNamespace ambient (.array traits items) := by rw [ClassModel.space_addImport, placed]
  have apart : Usable (c.addImport (qualify (extractNamespace ambient target) (v.filters.className item.sourceName))) ↔
      Apart (c.addImport (qualify (extractNamespace ambient target) (v.filters.className item.sourceName))).space
        (c.addImport (qualify (extractNamespace ambient target) (v.filters.className item.sourceName))).name
        [qualify (extractNamespace ambient target) (v.filters.className item.sourceName)] := by
    refine usable_iff list.tidy.addImport.imports fun fqcn hn => ?_
    -- a list has no other import
    rw [ClassModel.space_addImport] at hn
    rw [ClassModel.mem_addImport (withoutLeadingBackslashes_qualify itemShort), list.imports, List.mem_singleton]
    constructor
    · rintro (own | ⟨he, -⟩)
      · cases own
      · exact he
    · rintro rfl
      exact .inr ⟨rfl, hn⟩
  have itemSpace : namespaceOf (qualify (extractNamespace ambient target) (v.filters.className item.sourceName)) =
      extractNamespace ambient target := by
    rw [namespaceOf_qualify itemShort, isTrimmed_extractNamespace]
  refine ⟨_, .list kind hb hi space, apart.trans (apart_singleton.trans ?_)⟩
  rw [itemSpace, shortName_qualify itemShort]

/-- What holds of a class as it is made. -/
theorem Made.usable (short : ∀ raw, IsShort (v.filters.className raw)) (h : Made v ambient built made) :
    ∃ condition, UsableWhen v ambient built made condition ∧ (Usable made ↔ condition) := by
  cases h with
  | @entity name space traits properties _ hb =>
    exact ⟨_, .entity (kind_entityOf name space properties) hb (properties_entityOf name space properties),
      usable_entityOf short name space properties⟩
  | value hd hb h => exact usable_value short (isTrimmed_extractNamespace ambient _) hd hb h
  | list hi hb h => exact usable_list short hi hb h

/-- Exceptions call their enum and the class that they extend. -/
theorem usable_exception {enum : ClassModel} {traits : Traits} {format : Option String}
    {values : List String} (short : IsShort enum.name)
    (exception : EnumException.IsException v.filters (nameOr traits.name "text") enum.fqcn m)
    (hb : built (.string traits format (some values)))
    (placed : enum.space = extractNamespace ambient (.string traits format (some values))) :
    ∃ condition, UsableWhen v ambient built m condition ∧ (Usable m ↔ condition) := by
  have trimmed := isTrimmed_extractNamespace ambient (.string traits format (some values))
  rw [← placed] at trimmed
  have space : m.space = EnumException.space enum.space := by
    rw [exception.space, ClassModel.fqcn, namespaceOf_qualify short, trimmed]
  refine ⟨_, .exception exception.kind hb placed space exception.name short ((exception.imports _).2 (.inl rfl)), ?_⟩
  have apart : Usable m ↔ Apart m.space m.name [enum.fqcn, "InvalidArgumentException"] := by
    refine usable_iff exception.tidy.imports fun fqcn _ => ?_
    rw [exception.imports, List.mem_cons, List.mem_singleton]
  -- neither of the two lies where the exception does
  have outside : namespaceOf enum.fqcn ≠ m.space := by
    rw [exception.space]
    exact EnumException.namespaceOf_ne enum.space short
  have global : namespaceOf "InvalidArgumentException" ≠ m.space := by
    rw [exception.space]
    exact EnumException.global_ne _
  have name : shortName enum.fqcn = enum.name := shortName_qualify short
  have parent : shortName "InvalidArgumentException" = "InvalidArgumentException" := by decide +kernel
  rw [apart, apart_pair outside global, name, parent]
  refine and_congr ne_comm (and_congr ne_comm ?_)
  -- of that name there is one class in each namespace
  constructor
  · intro same
    by_cases he : enum.name = "InvalidArgumentException"
    · have here := congrArg namespaceOf (same he)
      rw [ClassModel.fqcn, namespaceOf_qualify short, trimmed] at here
      exact .inl (here.trans (by decide +kernel))
    · exact .inr he
  · rintro (here | other) he
    · rw [ClassModel.fqcn, here, he]
      decide +kernel
    · exact absurd he other

end Classes

/-! ## Results -/

namespace Generator

variable {g : Generator} {schema : Json} {rootName : String} {c : Collection}

/-- The use lines of every class of a result are usable together under the condition that goes with what the
class was made for, and under no other one. -/
theorem generate_imports (short : ∀ raw, IsShort (g.filters.className raw))
    (h : (g.generate schema rootName).1 = .ok c) : ∃ set, (Schema.parse schema rootName).1 = .ok set ∧
      ∀ fqcn m, c.get? fqcn = some m → ∃ condition,
        UsableWhen g.valueObjects g.ambient (Builds set) m condition ∧ (Usable m ↔ condition) := by
  obtain ⟨set, before, hp, keyed, origin, hc⟩ := generate_originates h
  refine ⟨set, hp, fun fqcn m hf => ?_⟩
  have built : ∀ {m}, before.get? fqcn = some m → ∃ condition,
      UsableWhen g.valueObjects g.ambient (Builds set) m condition ∧ (Usable m ↔ condition) := by
    intro m hf
    obtain ⟨made, origin, gained⟩ := origin fqcn m hf
    obtain ⟨condition, exact, usable⟩ := origin.usable short
    exact ⟨condition, gained.usableWhen exact, gained.usable_iff.trans usable⟩
  rw [hc] at hf
  split at hf
  · rcases Collection.of_get?_addAll _ hf with ⟨added, -⟩ | ⟨-, hf⟩
    · obtain ⟨source, enum, name, exception, traits, format, values, hb, rfl, placed⟩ :=
        exists_source_of_mem_exceptions short keyed origin added
      exact usable_exception name exception hb placed
    · exact built hf
  · exact built hf

section Identifier

open Build

/-! An identifier whose class has the name of the one that it is backed by. -/

def identifier : Json := .object [("type", .string "string"), ("format", .string "uuid")]

def identifierDefinition : TypeDef := .string { name := "uuid", required := true } (some "uuid") none

theorem parse_identifier : Schema.parse identifier "uuid" = (.ok ⟨identifierDefinition, []⟩, []) := by
  unfold identifierDefinition
  cbv

def identifierClass : ClassModel :=
  named (Template.Uuid.build conventionalNames true "uuid")
    (conventionalNames.className (conventionalNames.className "uuid"))
    (extractNamespace (ambient {}) identifierDefinition)

def identifierState : BuildState :=
  (BuildState.report {} [.valueObjectBuilt identifierClass.fqcn "string"]).add identifierClass

theorem build_identifier : build {} ⟨identifierDefinition, []⟩ "uuid" = (.ok (), identifierState) :=
  buildSet_value trivial rfl

def identifierClasses : Collection := (finish {} identifierState.collection).1

theorem generate_identifier : (generate {} identifier "uuid").1 = .ok identifierClasses :=
  congrArg Prod.fst (generate_of_build parse_identifier build_identifier)

theorem class_identifier : (identifierClasses.get? "App\\Uuid").map (fun m => (m.kind, m.space, m.name)) =
    some (.valueObject .uuid, "App", "Uuid") := by
  decide +kernel

/-- The class and one of its imports have the same short name. -/
theorem generate_imports_identifier : ∃ c m, (generate {} identifier "uuid").1 = .ok c ∧
    c.get? "App\\Uuid" = some m ∧ ¬ Usable m := by
  obtain ⟨m, hm, he⟩ := Option.map_eq_some_iff.1 class_identifier
  simp only [Prod.mk.injEq] at he
  obtain ⟨kind, space, name⟩ := he
  obtain ⟨set, -, all⟩ := @generate_imports {} _ _ _ plainNames_conventional.short generate_identifier
  obtain ⟨condition, exact, usable⟩ := all "App\\Uuid" m hm
  refine ⟨identifierClasses, m, generate_identifier, hm, fun together => ?_⟩
  have holds := usable.1 together
  cases exact with
  | uuid =>
    rw [space, name] at holds
    exact absurd holds (by decide)
  | plain hk among =>
    obtain rfl := ClassKind.valueObject.inj (hk.symm.trans kind)
    exact absurd among (by decide)
  | dateTime hk | enum hk | list hk | entity hk | exception hk => cases hk.symm.trans kind

end Identifier

end Generator

end SchemaClasses
