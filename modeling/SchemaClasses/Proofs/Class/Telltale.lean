/-
What tells the kinds of classes apart. Only entities have properties with a raw key of their own, or neither
properties nor imports, and only lists have a property with a hint of its own in the docblock. So classes
with the same properties and imports are both entities or none is, and both lists or none is.
-/
import SchemaClasses.Proofs.Class.Closure
import SchemaClasses.Proofs.Class.EnumException
import SchemaClasses.Proofs.Class.Origin
import SchemaClasses.Proofs.Class.Properties

namespace SchemaClasses

open Template

/-! ## Properties of templates -/

/-- There are properties, and none has a key or a hint in the docblock. -/
structure PlainProperties (properties : Entries Property) : Prop where
  some : properties ≠ []
  plain : ∀ p ∈ properties.values, p.sourceName = none ∧ p.docHint = none

theorem plainProperties_put {properties : Entries Property} {name : String} {p : Property}
    (h : ∀ p ∈ properties.values, p.sourceName = none ∧ p.docHint = none)
    (hp : p.sourceName = none ∧ p.docHint = none) : PlainProperties (properties.put name p) where
  some := properties.put_ne_nil name p
  plain := fun found hf => by
    rcases Entries.mem_values_put hf with rfl | hf
    · exact hp
    · exact h found hf

namespace ClassModel

theorem properties_addMethods (ms : List Method) (c : ClassModel) : (c.addMethods ms).properties = c.properties := by
  rw [addMethods_eq]

theorem properties_requireImport (fqcn : String) (c : ClassModel) : (c.requireImport fqcn).properties = c.properties := by
  rw [requireImport_eq]

theorem properties_addChoices (filters : NameFilters) (values : List String) (c : ClassModel) :
    (Enum.addChoices filters values c).1.properties = c.properties := by
  rw [addChoices_eq]

end ClassModel

open ClassModel

/-- The field of a value object is its first property. -/
theorem plainProperties_field {start : ClassModel} {p : Property} (bare : start.properties = [])
    (hp : p.sourceName = none ∧ p.docHint = none) : PlainProperties (start.addProperty p).properties := by
  refine plainProperties_put (fun found hf => ?_) hp
  rw [bare] at hf
  cases hf

theorem TemplateOf.plainProperties {v : ValueObjects} {d : TypeDef} {made : ClassModel} (h : TemplateOf v d made) :
    PlainProperties made.properties := by
  cases h with
  | enum traits format values =>
    unfold Enum.build
    simp only
    rw [properties_addMethods, properties_addChoices]
    refine plainProperties_field ?_ ⟨rfl, rfl⟩
    show (List.foldl addConstant _ _).properties = []
    rw [foldl_addConstant_eq]
    rfl
  | dateTime traits format name =>
    unfold DateTime.build
    simp only
    rw [properties_addMethods]
    refine plainProperties_field ?_ ⟨rfl, rfl⟩
    unfold addConstant
    simp only [properties_requireImport]
    rfl
  | uuid traits format name =>
    unfold Uuid.build
    simp only
    rw [properties_addMethods]
    refine plainProperties_field ?_ ⟨rfl, rfl⟩
    simp only [properties_requireImport]
    rfl
  | languageTag traits format name =>
    unfold LanguageTag.build
    simp only
    rw [properties_addMethods]
    have field := @plainProperties_field (.valueObject .bcp47 v.typed)
      { name := v.filters.propertyName name, typeHint := "string" } rfl ⟨rfl, rfl⟩
    exact plainProperties_put (plainProperties_put field.plain ⟨rfl, rfl⟩).plain ⟨rfl, rfl⟩
  | scalar d scalar name =>
    unfold Scalar.build
    simp only
    rw [properties_addMethods]
    exact plainProperties_field rfl ⟨rfl, rfl⟩

/-- The field of a list has a hint in the docblock, and neither it nor the position has a key. -/
theorem properties_list (filters : NameFilters) (typed : Bool) (name : String) (item : ItemType) :
    (∃ p ∈ (ListOf.build filters typed name item).properties.values, p.docHint ≠ none) ∧
      ∀ p ∈ (ListOf.build filters typed name item).properties.values, p.sourceName = none := by
  have same : (ListOf.build filters typed name item).properties =
      (Entries.put [(positionProperty, { name := positionProperty, typeHint := "int", initial := some "0" })]
        (filters.propertyName name)
        { name := filters.propertyName name
          typeHint := "array"
          docHint := some (filters.className item.sourceName ++ "[]") } : Entries Property) := by
    unfold ListOf.build walkable addMethod
    simp only [properties_addMethods]
    rfl
  rw [same]
  refine ⟨⟨_, Entries.mem_values_put_self _ _ _, nofun⟩, fun p hp => ?_⟩
  · rcases Entries.mem_values_put hp with rfl | hp
    · rfl
    · obtain rfl := List.mem_singleton.1 hp
      rfl

/-! ## Kinds -/

/-- A static `fromArray`, and `toArray`. -/
def ClassModel.HasPair (m : ClassModel) : Prop :=
  (∃ method, m.methods.at? "fromArray" = some method ∧ method.isStatic = true) ∧ m.hasMethod "toArray" = true

/-- A class whose properties and imports tell whether it is an entity or a list; a list has the pair. -/
structure Telltale (m : ClassModel) : Prop where
  entity : m.kind = .entity ↔
    (∃ p ∈ m.properties.values, p.sourceName ≠ none) ∨ m.properties = [] ∧ m.imports = []
  list : m.kind = .valueObject .array ↔ ∃ p ∈ m.properties.values, p.docHint ≠ none
  pair : m.kind = .valueObject .array → m.HasPair

variable {v : ValueObjects} {ambient : String} {built : TypeDef → Prop} {m made : ClassModel}

theorem ClassModel.HasPair.keeps {m' : ClassModel} (h : m.HasPair)
    (keeps : ∀ {name method}, m.methods.at? name = some method → m'.methods.at? name = some method) : m'.HasPair := by
  obtain ⟨⟨method, hm, static⟩, hu⟩ := h
  obtain ⟨other, ho⟩ := Option.isSome_iff_exists.1 hu
  exact ⟨⟨method, keeps hm, static⟩, Entries.hasName_of_at? (keeps ho)⟩

/-- Methods, constants and flags tell nothing. -/
theorem Telltale.gained (h : Telltale made) (gained : Gained made m) : Telltale m := by
  have kind : m.kind = made.kind := by rw [gained.same]
  have properties : m.properties = made.properties := by rw [gained.same]
  have imports : m.imports = made.imports := by rw [gained.same]
  constructor
  · rw [kind, properties, imports]
    exact h.entity
  · rw [kind, properties]
    exact h.list
  · intro hk
    exact (h.pair (kind ▸ hk)).keeps gained.keeps

theorem telltale_entityOf (name space : String) (entries : List (String × TypeSet)) :
    Telltale (entityOf v ambient name space entries) := by
  have kind := @kind_entityOf v ambient name space entries
  have keyed : ∀ p ∈ (entityOf v ambient name space entries).properties.values,
      p.sourceName ≠ none ∧ p.docHint = none := by
    rw [properties_entityOf]
    intro p hp
    obtain ⟨⟨key, found⟩, hf, rfl⟩ := List.mem_map.1 hp
    obtain ⟨entry, -, -, rfl⟩ := exists_entry hf
    exact ⟨nofun, rfl⟩
  constructor
  · refine iff_of_true kind ?_
    cases entries with
    | nil => exact .inr ⟨rfl, rfl⟩
    -- the key of the first entry has a property, be it that of another entry
    | cons entry rest =>
      have there : ((entityOf v ambient name space (entry :: rest)).properties.at?
          (v.filters.propertyName entry.1)).isSome = true := by
        rw [properties_entityOf, at?_schemaProperties, Option.isSome_map, List.find?_isSome]
        exact ⟨entry, by simp, by simp⟩
      obtain ⟨p, hp⟩ := Option.isSome_iff_exists.1 there
      have hp := Entries.mem_values_of_at? hp
      exact .inl ⟨p, hp, (keyed p hp).1⟩
  · rw [kind]
    refine iff_of_false nofun ?_
    rintro ⟨p, hp, hint⟩
    exact hint (keyed p hp).2
  · intro hk
    rw [kind] at hk
    cases hk

theorem telltale_value {c : ClassModel} {className space : String} {d : TypeDef} {reported : List Event}
    (hd : IsScalar d) (h : v.build className space d = .ok (c, reported)) : Telltale c := by
  obtain ⟨-, -, conversion, -, value⟩ := build_scalar hd h
  obtain ⟨kind, hk, -, other⟩ := value.kind
  obtain ⟨made, reported, ht, rfl⟩ := build_eq h
  have properties : PlainProperties (ValueObjects.withException v.filters (named made className space)).properties := by
    rw [withException_eq]
    exact (templateOf_template hd ht).plainProperties
  generalize ValueObjects.withException v.filters (named made className space) = c at *
  have other : c.kind ≠ .valueObject .array := by
    rw [hk]
    exact fun he => other (ClassKind.valueObject.inj he)
  constructor
  · refine iff_of_false value.ne_entity ?_
    rintro (⟨p, hp, keyed⟩ | ⟨none, -⟩)
    · exact keyed (properties.plain p hp).1
    · exact properties.some none
  · refine iff_of_false other ?_
    rintro ⟨p, hp, hint⟩
    exact hint (properties.plain p hp).2
  · exact fun he => absurd he other

theorem telltale_list {c : ClassModel} {className space : String} {traits : Traits} {items : List TypeSet}
    {item : ItemType} {d target : TypeDef} {source : String} {reported : List Event} (fqcn : String)
    (hi : HasItems items item d target source) (h : v.build className space (.array traits items) = .ok (c, reported)) :
    Telltale (c.addImport fqcn) := by
  obtain ⟨-, -, list⟩ := build_array hi h
  obtain ⟨made, reported, ht, rfl⟩ := build_eq h
  simp only [ValueObjects.template, ListOf.ofArray, itemType_ok.2 ⟨d, target, source, hi⟩] at ht
  cases ht
  have properties := properties_list v.filters v.typed (nameOr traits.name "items") item
  have methods : ((ListOf.build v.filters v.typed (nameOr traits.name "items") item).methods.at? "fromArray").map
      (·.isStatic) = some true := by
    rw [ListOf.build, ClassModel.at?_addMethod, ClassModel.at?_addMethods]
    rfl
  generalize ListOf.build v.filters v.typed (nameOr traits.name "items") item = made at *
  have same := withException_eq v.filters (named made className space)
  have properties : (∃ p ∈ (ValueObjects.withException v.filters (named made className space)).properties.values,
      p.docHint ≠ none) ∧ ∀ p ∈ (ValueObjects.withException v.filters (named made className space)).properties.values,
      p.sourceName = none := by
    rw [same]
    exact properties
  have methods : ((ValueObjects.withException v.filters (named made className space)).methods.at? "fromArray").map
      (·.isStatic) = some true := by
    rw [same]
    exact methods
  generalize ValueObjects.withException v.filters (named made className space) = c at *
  obtain ⟨⟨p, hp, hint⟩, keyless⟩ := properties
  have kind : (c.addImport fqcn).kind = .valueObject .array := (ClassModel.kind_addImport ..).trans list.kind
  constructor
  · rw [ClassModel.properties_addImport]
    refine iff_of_false (fun entity => by cases kind.symm.trans entity) ?_
    rintro (⟨p', hp', keyed⟩ | ⟨none, -⟩)
    · exact keyed (keyless p' hp')
    · rw [none] at hp
      cases hp
  · rw [ClassModel.properties_addImport]
    exact iff_of_true kind ⟨p, hp, hint⟩
  · intro _
    obtain ⟨method, hm, static⟩ := Option.map_eq_some_iff.1 methods
    obtain ⟨_, _, unwraps⟩ := list.lines.unwraps
    unfold ClassModel.HasPair ClassModel.hasMethod
    rw [ClassModel.methods_addImport]
    exact ⟨⟨method, hm, static⟩, hasMethod_of_body unwraps⟩

theorem telltale_made (h : Made v ambient built made) : Telltale made := by
  cases h with
  | entity => exact telltale_entityOf _ _ _
  | value hd _ hb => exact telltale_value hd hb
  | list hi _ hb => exact telltale_list _ hi hb

/-- An exception has an import but no properties. -/
theorem telltale_exception (filters : NameFilters) (typed : Bool) (source valueObject : String) :
    Telltale (EnumException.build filters typed source valueObject) := by
  obtain ⟨method, hb, -⟩ := EnumException.exists_build_eq filters typed source valueObject
  have kind : (EnumException.imported filters typed source valueObject).kind = .exception := by
    simp [EnumException.imported]
  have properties : (EnumException.imported filters typed source valueObject).properties = [] := by
    simp [EnumException.imported]
  have imports : "InvalidArgumentException" ∈ (EnumException.imported filters typed source valueObject).imports := by
    have global := EnumException.global_ne (namespaceOf valueObject)
    unfold EnumException.imported
    simp only
    rw [ClassModel.mem_addImport (by decide +kernel), ClassModel.space_addImport]
    simp [global]
  rw [hb]
  generalize EnumException.imported filters typed source valueObject = e at *
  have none : (e.addMethod method).properties = [] := properties
  have kind : (e.addMethod method).kind = .exception := kind
  constructor
  · refine iff_of_false (fun entity => by cases kind.symm.trans entity) ?_
    rintro (⟨p, hp, -⟩ | ⟨-, alone⟩)
    · rw [none] at hp
      cases hp
    · have alone : e.imports = [] := alone
      rw [alone] at imports
      cases imports
  · refine iff_of_false (fun list => by cases kind.symm.trans list) ?_
    rintro ⟨p, hp, -⟩
    rw [none] at hp
    cases hp
  · exact fun list => by cases kind.symm.trans list

/-- Classes with the same properties and imports are of one kind as far as entities and lists go. -/
theorem Telltale.kind_iff {m' : ClassModel} (h : Telltale m) (h' : Telltale m')
    (properties : m.properties.Perm m'.properties) (imports : m.imports.Perm m'.imports) :
    (m.kind = .entity ↔ m'.kind = .entity) ∧ (m.kind = .valueObject .array ↔ m'.kind = .valueObject .array) := by
  have values : ∀ p, p ∈ m.properties.values ↔ p ∈ m'.properties.values := fun p => (properties.map Prod.snd).mem_iff
  have bare : m.properties = [] ↔ m'.properties = [] :=
    ⟨fun he => List.nil_perm.1 (he ▸ properties), fun he => List.perm_nil.1 (he ▸ properties)⟩
  have alone : m.imports = [] ↔ m'.imports = [] :=
    ⟨fun he => List.nil_perm.1 (he ▸ imports), fun he => List.perm_nil.1 (he ▸ imports)⟩
  constructor
  · rw [h.entity, h'.entity, bare, alone]
    simp only [values]
  · rw [h.list, h'.list]
    simp only [values]

end SchemaClasses
