/-
Imports that are usable together: those that are written for a class have short names of their own, none of
them that of the class. What value objects import is what the template of their kind calls for, and an enum
imports its exception; an entity imports the classes of its properties.
-/
import SchemaClasses.Proofs.Class.Hints
import SchemaClasses.Source.Render

namespace SchemaClasses

open Template

/-! ## Imports together -/

/-- The imports that are written for a class have different short names, and none has that of the class. -/
structure Usable (m : ClassModel) : Prop where
  distinct : ((Source.usedImports m).map shortName).Nodup
  other : m.name ∉ (Source.usedImports m).map shortName

instance (m : ClassModel) : Decidable (Usable m) :=
  decidable_of_iff (((Source.usedImports m).map shortName).Nodup ∧ m.name ∉ (Source.usedImports m).map shortName)
    ⟨fun h => ⟨h.1, h.2⟩, fun h => ⟨h.distinct, h.other⟩⟩

/-- Classes that the class `name` in a namespace can call by their short names: those from elsewhere differ in
them from each other and from it. -/
def Apart (space name : String) (called : List String) : Prop :=
  ∀ fqcn ∈ called, namespaceOf fqcn ≠ space → shortName fqcn ≠ name ∧
    ∀ other ∈ called, namespaceOf other ≠ space → shortName other = shortName fqcn → other = fqcn

/-- What a class imports from elsewhere is all that counts. -/
theorem usable_iff {m : ClassModel} {called : List String} (nodup : m.imports.Nodup)
    (imports : ∀ fqcn, namespaceOf fqcn ≠ m.space → (fqcn ∈ m.imports ↔ fqcn ∈ called)) :
    Usable m ↔ Apart m.space m.name called := by
  have used : ∀ fqcn, fqcn ∈ Source.usedImports m ↔ fqcn ∈ called ∧ namespaceOf fqcn ≠ m.space := by
    intro fqcn
    unfold Source.usedImports
    rw [List.mem_filter, bne_iff_ne]
    constructor
    · exact fun ⟨hi, hn⟩ => ⟨(imports fqcn hn).1 hi, hn⟩
    · exact fun ⟨hc, hn⟩ => ⟨(imports fqcn hn).2 hc, hn⟩
  have distinct : ((Source.usedImports m).map shortName).Nodup ↔ ∀ fqcn ∈ Source.usedImports m,
      ∀ other ∈ Source.usedImports m, shortName fqcn = shortName other → fqcn = other :=
    List.nodup_map_iff_inj_on (nodup.filter _)
  constructor
  · rintro ⟨different, other⟩ fqcn hc hn
    have hu := (used fqcn).2 ⟨hc, hn⟩
    refine ⟨fun he => other (he ▸ List.mem_map_of_mem hu), fun other' hc' hn' he => ?_⟩
    exact distinct.1 different other' ((used other').2 ⟨hc', hn'⟩) fqcn hu he
  · intro apart
    refine ⟨distinct.2 fun fqcn hu other hu' he => ?_, fun hm => ?_⟩
    · obtain ⟨hc, hn⟩ := (used fqcn).1 hu
      obtain ⟨hc', hn'⟩ := (used other).1 hu'
      exact ((apart other hc' hn').2 fqcn hc hn he)
    · obtain ⟨fqcn, hu, he⟩ := List.mem_map.1 hm
      obtain ⟨hc, hn⟩ := (used fqcn).1 hu
      exact (apart fqcn hc hn).1 he

theorem apart_nil (space name : String) : Apart space name [] := by
  intro fqcn hc
  cases hc

/-- Only its own name can be in the way of a single class. -/
theorem apart_singleton {space name fqcn : String} :
    Apart space name [fqcn] ↔ namespaceOf fqcn = space ∨ shortName fqcn ≠ name := by
  constructor
  · intro apart
    by_cases here : namespaceOf fqcn = space
    · exact .inl here
    · exact .inr (apart fqcn (List.mem_singleton_self _) here).1
  · rintro free fqcn' hc hn
    obtain rfl := List.mem_singleton.1 hc
    refine ⟨free.resolve_left hn, fun other ho _ _ => ?_⟩
    exact List.mem_singleton.1 ho

theorem apart_pair {space name fqcn other : String} (hf : namespaceOf fqcn ≠ space) (ho : namespaceOf other ≠ space) :
    Apart space name [fqcn, other] ↔
      shortName fqcn ≠ name ∧ shortName other ≠ name ∧ (shortName fqcn = shortName other → fqcn = other) := by
  have first : fqcn ∈ [fqcn, other] := List.mem_cons_self
  have second : other ∈ [fqcn, other] := List.mem_cons_of_mem _ (List.mem_singleton_self _)
  constructor
  · intro apart
    exact ⟨(apart fqcn first hf).1, (apart other second ho).1, fun he => (apart other second ho).2 fqcn first hf he⟩
  · rintro ⟨free, free', same⟩ a ha -
    rcases List.mem_cons.1 ha with rfl | ha
    · refine ⟨free, fun b hb _ he => ?_⟩
      rcases List.mem_cons.1 hb with rfl | hb
      · rfl
      · obtain rfl := List.mem_singleton.1 hb
        exact (same he.symm).symm
    · obtain rfl := List.mem_singleton.1 ha
      refine ⟨free', fun b hb _ he => ?_⟩
      rcases List.mem_cons.1 hb with rfl | hb
      · exact same he
      · exact List.mem_singleton.1 hb

/-- Classes of one other namespace have different short names anyway. -/
theorem apart_of_namespace {space name from' : String} {called : List String}
    (placed : ∀ fqcn ∈ called, namespaceOf fqcn = from') (distinct : (called.map shortName).Nodup) :
    Apart space name called ↔ from' = space ∨ name ∉ called.map shortName := by
  constructor
  · intro apart
    by_cases here : from' = space
    · exact .inl here
    · refine .inr fun hm => ?_
      obtain ⟨fqcn, hc, he⟩ := List.mem_map.1 hm
      exact (apart fqcn hc (placed fqcn hc ▸ here)).1 he
  · rintro free fqcn hc hn
    have elsewhere : from' ≠ space := placed fqcn hc ▸ hn
    refine ⟨fun he => free.resolve_left elsewhere (he ▸ List.mem_map_of_mem hc), fun other ho _ he => ?_⟩
    exact List.inj_on_of_nodup_map distinct ho hc he

/-! ## Templates -/

/-- The imports that the template of a kind calls for. -/
def ValueObjectKind.imports : ValueObjectKind → List String
  | dateTime => ["DateTimeImmutable", "DateTimeZone", "InvalidArgumentException"]
  | uuid => ["Ramsey\\Uuid\\Uuid", "Ramsey\\Uuid\\UuidInterface"]
  | string | integer | number | boolean | bcp47 | enum _ | array => []

/-- A template of some kind, with the imports of that kind. -/
structure ImportsOfKind (c : ClassModel) (kind : ValueObjectKind) : Prop where
  made : c.kind = .valueObject kind
  only : c.imports = kind.imports

section Templates

variable (filters : NameFilters) (typed : Bool) (name : String)

theorem imports_addMethods (ms : List Method) (c : ClassModel) : (c.addMethods ms).imports = c.imports := by
  rw [ClassModel.addMethods_eq]

theorem imports_addChoices (values : List String) (c : ClassModel) :
    (Enum.addChoices filters values c).1.imports = c.imports := by
  rw [addChoices_eq]

theorem importsOfKind_scalar (scalar : Scalar) (none : scalar.kind.imports = []) :
    ImportsOfKind (scalar.build filters typed name) scalar.kind := by
  refine ⟨(assembled_scalar filters typed name scalar).kind_eq, ?_⟩
  rw [Scalar.build, imports_addMethods, none]
  rfl

theorem importsOfKind_dateTime (format : String) : ImportsOfKind (DateTime.build filters typed format name) .dateTime := by
  refine ⟨(assembled_dateTime filters typed name format).kind_eq, ?_⟩
  rw [DateTime.build, imports_addMethods]
  rfl

theorem importsOfKind_uuid : ImportsOfKind (Uuid.build filters typed name) .uuid := by
  refine ⟨(assembled_uuid filters typed name).kind_eq, ?_⟩
  rw [Uuid.build, imports_addMethods]
  rfl

theorem importsOfKind_languageTag : ImportsOfKind (LanguageTag.build filters typed name) .bcp47 := by
  refine ⟨(assembled_languageTag filters typed name).kind_eq, ?_⟩
  rw [LanguageTag.build, imports_addMethods]
  rfl

theorem importsOfKind_enum (values : List String) :
    ImportsOfKind (Enum.build filters typed name values).1 (.enum name) := by
  refine ⟨(assembled_enum filters typed name values).kind_eq, ?_⟩
  rw [Enum.build, imports_addMethods, imports_addChoices]
  show ClassModel.imports (List.foldl ClassModel.addConstant _ _) = _
  rw [ClassModel.foldl_addConstant_eq]
  rfl

end Templates

theorem TemplateOf.importsOfKind {v : ValueObjects} {d : TypeDef} {made : ClassModel} (h : TemplateOf v d made) :
    ∃ kind, ImportsOfKind made kind := by
  cases h with
  | enum traits format values => exact ⟨_, importsOfKind_enum v.filters v.typed _ values⟩
  | dateTime traits format name => exact ⟨_, importsOfKind_dateTime v.filters v.typed name _⟩
  | uuid traits format name => exact ⟨_, importsOfKind_uuid v.filters v.typed name⟩
  | languageTag traits format name => exact ⟨_, importsOfKind_languageTag v.filters v.typed name⟩
  | scalar d scalar name among =>
    have none : scalar.kind.imports = [] := by
      generalize scalar.kind = kind at among
      revert kind
      decide
    exact ⟨_, importsOfKind_scalar v.filters v.typed name scalar none⟩

/-! ## Named classes -/

/-- What a value object imports under its name in a namespace. -/
def ValueObjectKind.importsIn (filters : NameFilters) (space : String) : ValueObjectKind → List String
  | enum source => [EnumException.fqcn filters source space]
  | kind => kind.imports

theorem isShort_exceptionName {filters : NameFilters} {source : String} (h : IsShort (filters.className source)) :
    IsShort (EnumException.className filters source) := by
  unfold IsShort EnumException.className
  rw [String.toList_append, List.mem_append, not_or]
  exact ⟨by decide, h⟩

theorem imports_build {v : ValueObjects} (short : ∀ raw, IsShort (v.filters.className raw)) {className space : String}
    {d : TypeDef} {c : ClassModel} {events : List Event} (hd : IsScalar d)
    (h : v.build className space d = .ok (c, events)) :
    ∃ kind, c.kind = .valueObject kind ∧ c.imports = kind.importsIn v.filters space := by
  obtain ⟨made, reported, ht, rfl⟩ := build_eq h
  obtain ⟨kind, made_kind, only⟩ := (templateOf_template hd ht).importsOfKind
  refine ⟨kind, ?_, ?_⟩
  · rw [withException_eq]
    exact made_kind
  · unfold ValueObjects.withException
    rw [show (named made className space).kind = .valueObject kind from made_kind]
    cases kind with
    | enum source =>
      have bare : withoutLeadingBackslashes (EnumException.fqcn v.filters source space) =
          EnumException.fqcn v.filters source space :=
        withoutLeadingBackslashes_qualify (isShort_exceptionName (short source))
      have none : (named made className space).imports = [] := only
      show (ClassModel.requireImport _ (EnumException.fqcn v.filters source space)).imports = [_]
      rw [ClassModel.imports_requireImport none, bare]
    | _ => exact only

/-! ## Entities -/

section Entities

variable {v : ValueObjects} {ambient : String}

theorem space_withSchemaProperty (into : ClassModel) (entry : String × TypeSet) :
    (withSchemaProperty v ambient into entry).space = into.space := by
  unfold withSchemaProperty ClassModel.addProperty
  simp only
  rw [ClassModel.space_addImport]

theorem mem_imports_withSchemaProperty (short : ∀ raw, IsShort (v.filters.className raw)) (into : ClassModel)
    (entry : String × TypeSet) {fqcn : String} : fqcn ∈ (withSchemaProperty v ambient into entry).imports ↔
      fqcn ∈ into.imports ∨ fqcn = promisedName v ambient entry.1 entry.2.first ∧ namespaceOf fqcn ≠ into.space := by
  obtain ⟨space, raw, -, he⟩ := promisedName_eq v ambient entry.1 entry.2.first
  unfold withSchemaProperty ClassModel.addProperty
  simp only
  rw [he, ClassModel.mem_addImport (withoutLeadingBackslashes_qualify (short raw))]
  refine or_congr_right (and_congr_right fun same => ?_)
  rw [same]

theorem space_foldl : ∀ (entries : List (String × TypeSet)) (into : ClassModel),
    (entries.foldl (withSchemaProperty v ambient) into).space = into.space
  | [], _ => rfl
  | entry :: rest, into => by rw [List.foldl_cons, space_foldl rest, space_withSchemaProperty]

/-- The classes that were promised for properties, those in the namespace of the entity apart. -/
theorem mem_imports_foldl (short : ∀ raw, IsShort (v.filters.className raw)) {fqcn : String} :
    ∀ (entries : List (String × TypeSet)) (into : ClassModel),
      fqcn ∈ (entries.foldl (withSchemaProperty v ambient) into).imports ↔ fqcn ∈ into.imports ∨
        fqcn ∈ entries.map (fun entry => promisedName v ambient entry.1 entry.2.first) ∧ namespaceOf fqcn ≠ into.space
  | [], _ => by simp
  | entry :: rest, into => by
    rw [List.foldl_cons, mem_imports_foldl short rest, mem_imports_withSchemaProperty short, space_withSchemaProperty,
      List.map_cons, List.mem_cons, or_and_right, or_assoc]

/-- An entity can use the classes of its properties if those from elsewhere are apart. -/
theorem usable_entityOf (short : ∀ raw, IsShort (v.filters.className raw)) (name space : String)
    (properties : List (String × TypeSet)) : Usable (entityOf v ambient name space properties) ↔
      Apart (entityOf v ambient name space properties).space (entityOf v ambient name space properties).name
        (properties.map fun entry => promisedName v ambient entry.1 entry.2.first) := by
  refine usable_iff (tidy_entityOf name space properties).imports fun fqcn hn => ?_
  have placed : (entityOf v ambient name space properties).space = space := space_foldl properties _
  rw [placed] at hn
  refine (mem_imports_foldl short properties _).trans ?_
  constructor
  · rintro (own | ⟨hm, -⟩)
    · cases own
    · exact hm
  · exact fun hm => .inr ⟨hm, hn⟩

end Entities

end SchemaClasses
