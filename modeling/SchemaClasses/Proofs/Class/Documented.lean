/-
Hints for comments. A member of a generated class has a hint of its own for the comment only where that says
more than its type: an array whose items it names, or a parameter without a type.
-/
import SchemaClasses.EnumException
import SchemaClasses.Proofs.Class.Graph

namespace SchemaClasses

open Template

/-- A hint for the comment goes with a type: there is none, or the type is that of arrays and the hint names
the class of the items. -/
def Documents (native doc : Option String) : Prop :=
  doc = none ∨ native = some "array" ∧ ∃ item, doc = some (item ++ "[]")

/-- The hints of a method: parameters with a type have none besides. -/
structure Method.Documented (m : Method) : Prop where
  params : ∀ p ∈ m.params, p.typeHint = none ∨ p.docHint = none
  result : Documents m.returnType m.returnDocHint

/-- The hints of all members. -/
structure ClassModel.Documented (c : ClassModel) : Prop where
  properties : ∀ p ∈ c.properties.values, Documents (some p.typeHint) p.docHint
  methods : ∀ m ∈ c.methods.values, m.Documented

/-- Whether a method has no hints for the comment. -/
def Method.isBare (m : Method) : Bool := m.returnDocHint.isNone && m.params.all (·.docHint.isNone)

theorem documented_of_bare {m : Method} (h : m.isBare = true) : m.Documented := by
  unfold Method.isBare at h
  rw [Bool.and_eq_true, Option.isNone_iff_eq_none, List.all_eq_true] at h
  exact ⟨fun p hp => .inr (Option.isNone_iff_eq_none.1 (h.2 p hp)), .inl h.1⟩

theorem documented_of_all_bare {ms : List Method} (h : ms.all Method.isBare = true) : ∀ m ∈ ms, m.Documented :=
  fun m hm => documented_of_bare (List.all_eq_true.1 h m hm)

/-! ## Classes that are put together -/

namespace ClassModel

variable {c : ClassModel}

/-- A class without members says nothing. -/
theorem documented_start (properties : c.properties = []) (methods : c.methods = []) : c.Documented where
  properties := by simp [properties, Entries.values]
  methods := by simp [methods, Entries.values]

namespace Documented

theorem of_eq {c' : ClassModel} (h : c.Documented) (properties : c'.properties = c.properties)
    (methods : c'.methods = c.methods) : c'.Documented where
  properties := properties ▸ h.properties
  methods := methods ▸ h.methods

theorem addProperty (h : c.Documented) {p : Property} (hp : Documents (some p.typeHint) p.docHint) :
    (c.addProperty p).Documented where
  properties := fun found hf => by
    rcases Entries.mem_values_put hf with rfl | hf
    · exact hp
    · exact h.properties found hf
  methods := h.methods

theorem addMethod (h : c.Documented) {m : Method} (hm : m.Documented) : (c.addMethod m).Documented where
  properties := h.properties
  methods := fun found hf => by
    rcases Entries.mem_values_put hf with rfl | hf
    · exact hm
    · exact h.methods found hf

theorem addMethods : ∀ (ms : List Method) {c : ClassModel}, c.Documented → (∀ m ∈ ms, m.Documented) →
    (c.addMethods ms).Documented
  | [], _, h, _ => h
  | _ :: rest, _, h, all =>
    let ⟨first, others⟩ := List.forall_mem_cons.1 all
    addMethods rest (h.addMethod first) others

theorem addConstants (h : c.Documented) (ks : List Constant) : (ks.foldl ClassModel.addConstant c).Documented := by
  rw [foldl_addConstant_eq]
  exact h.of_eq rfl rfl

theorem requireImport (h : c.Documented) (fqcn : String) : (c.requireImport fqcn).Documented := by
  rw [requireImport_eq]
  exact h.of_eq rfl rfl

theorem addImport (h : c.Documented) (fqcn : String) : (c.addImport fqcn).Documented :=
  h.of_eq (properties_addImport _ _) (methods_addImport _ _)

theorem addChoices (filters : NameFilters) : ∀ (values : List String) {c : ClassModel}, c.Documented →
    (Enum.addChoices filters values c).1.Documented
  | [], _, h => h
  | value :: rest, c, h => by
    unfold Enum.addChoices
    simp only
    split
    · exact addChoices filters rest h
    · exact addChoices filters rest (h.addMethod (documented_of_bare rfl))

theorem withRawArray (h : c.Documented) (lines : List PropertyLines) : (c.withRawArray lines).Documented :=
  (h.addMethod (documented_of_bare rfl)).addMethod (documented_of_bare rfl)

theorem keepRawArray (h : c.Documented) {previous : Option ClassModel}
    (earlier : ∀ m, previous = some m → m.Documented) : (Build.keepRawArray previous c).Documented := by
  cases previous with
  | none => exact h
  | some m =>
    refine h.addMethods _ fun method hm => ?_
    obtain ⟨name, -, there⟩ := List.mem_filterMap.1 hm
    exact (earlier m rfl).methods method (Entries.mem_values_of_at? there)

end Documented

end ClassModel

open ClassModel

/-! ## Templates -/

section Templates

variable (filters : NameFilters) (typed : Bool) (name : String)

theorem documented_valueObject (kind : ValueObjectKind) : (valueObject kind typed).Documented :=
  documented_start rfl rfl

theorem documented_scalar (scalar : Scalar) : (scalar.build filters typed name).Documented :=
  ((documented_valueObject typed _).addProperty (.inl rfl)).addMethods _ (documented_of_all_bare rfl)

theorem documented_dateTime (format : String) : (DateTime.build filters typed format name).Documented := by
  have start := (((documented_valueObject typed .dateTime).requireImport "DateTimeImmutable").requireImport
    "DateTimeZone").requireImport "InvalidArgumentException"
  have constant := start.addConstants [⟨"OUTPUT_FORMAT", DateTime.formatValue format, .forSelf⟩]
  have held := @Documented.addProperty _ constant
    { name := filters.propertyName name, typeHint := DateTime.native } (.inl rfl)
  exact held.addMethods _ (documented_of_all_bare rfl)

theorem documented_uuid : (Uuid.build filters typed name).Documented := by
  have start := ((documented_valueObject typed .uuid).requireImport "Ramsey\\Uuid\\Uuid").requireImport
    "Ramsey\\Uuid\\UuidInterface"
  have held := @Documented.addProperty _ start { name := filters.propertyName name, typeHint := Uuid.native } (.inl rfl)
  exact held.addMethods _ (documented_of_all_bare rfl)

theorem documented_languageTag : (LanguageTag.build filters typed name).Documented :=
  ((((documented_valueObject typed _).addProperty (.inl rfl)).addProperty (.inl rfl)).addProperty
    (.inl rfl)).addMethods _ (documented_of_all_bare rfl)

theorem documented_enum (values : List String) : (Enum.build filters typed name values).1.Documented := by
  have constants := (documented_valueObject typed (.enum name)).addConstants
    (Enum.constants filters values ++ [Enum.choices filters values])
  rw [List.foldl_append] at constants
  have field := @Documented.addProperty _ constants
    { name := filters.propertyName name, typeHint := "string" } (.inl rfl)
  have held := @Documented.addMethod _ field (fromNative "fromString" "string" (filters.propertyName name))
    (documented_of_bare rfl)
  exact (held.addChoices filters values).addMethods _ (documented_of_all_bare rfl)

/-- Of the methods of a list, only the one that gives the items says what these are. -/
theorem documented_listMethods (items itemClass arg : String) (conversion : Conversion) :
    ∀ m ∈ ListOf.methods items itemClass arg conversion, m.Documented := by
  simp only [ListOf.methods, List.forall_mem_cons]
  refine ⟨?_, ?_, ?_, ?_, ?_, ?_, ?_, ?_, ?_, ?_, ⟨nofun, .inr ⟨rfl, _, rfl⟩⟩, ?_, nofun⟩ <;>
    exact documented_of_bare rfl

theorem documented_list (item : ItemType) : (ListOf.build filters typed name item).Documented := by
  have start : ClassModel.Documented { valueObject .array typed with interfaces := ["\\Iterator", "\\Countable"] } :=
    documented_start rfl rfl
  have position := @Documented.addProperty _ start
    { name := positionProperty, typeHint := "int", initial := some "0" } (.inl rfl)
  have held := @Documented.addProperty _ position
    { name := filters.propertyName name, typeHint := "array"
      docHint := some (filters.className item.sourceName ++ "[]") } (.inr ⟨rfl, _, rfl⟩)
  have equality : ListOf.equals.Documented := ⟨fun p hp => .inl (List.mem_singleton.1 hp ▸ rfl), .inl rfl⟩
  exact ((held.addMethods _ (documented_of_all_bare rfl)).addMethods _ (documented_listMethods _ _ _ _)).addMethod equality

end Templates

theorem TemplateOf.documented {v : ValueObjects} {d : TypeDef} {made : ClassModel} (h : TemplateOf v d made) :
    made.Documented := by
  cases h with
  | enum => exact documented_enum _ _ _ _
  | dateTime => exact documented_dateTime _ _ _ _
  | uuid => exact documented_uuid _ _ _
  | languageTag => exact documented_languageTag _ _ _
  | scalar => exact documented_scalar _ _ _ _

/-- A class of a template under a name, with the import of its exception. -/
theorem documented_build {v : ValueObjects} {className space : String} {d : TypeDef} {c : ClassModel}
    {events : List Event} (made : ∀ c events, v.template d = .ok (c, events) → c.Documented)
    (h : v.build className space d = .ok (c, events)) : c.Documented := by
  obtain ⟨c, events, ht, rfl⟩ := build_eq h
  rw [withException_eq]
  exact (made c events ht).of_eq rfl rfl

theorem documented_exception (filters : NameFilters) (typed : Bool) (source valueObject : String) :
    (EnumException.build filters typed source valueObject).Documented := by
  unfold EnumException.build
  simp only
  exact (((documented_start rfl rfl).addImport _).addImport _).addMethod (documented_of_bare rfl)

/-! ## Builds -/

variable {v : ValueObjects} {ambient : String} {met : String × TypeSet → Prop} {s s' : BuildState}

theorem documented_withSchemaProperty {into : ClassModel} (h : into.Documented) (entry : String × TypeSet) :
    (withSchemaProperty v ambient into entry).Documented := by
  unfold withSchemaProperty
  exact (h.addImport _).addProperty (.inl rfl)

theorem documented_foldl : ∀ (properties : List (String × TypeSet)) {into : ClassModel}, into.Documented →
    (properties.foldl (withSchemaProperty v ambient) into).Documented
  | [], _, h => h
  | entry :: rest, _, h => by
    rw [List.foldl_cons]
    exact documented_foldl rest (documented_withSchemaProperty h entry)

/-- All classes say what they should. -/
def AllDocumented (c : Collection) : Prop := ∀ fqcn m, c.get? fqcn = some m → m.Documented

theorem AllDocumented.add {c : Collection} {m : ClassModel} (h : AllDocumented c) (hm : m.Documented) :
    AllDocumented (c.add m) := by
  intro fqcn found hf
  rcases Collection.of_get?_add hf with ⟨-, rfl⟩ | ⟨-, hf⟩
  · exact hm
  · exact h fqcn found hf

theorem Step.documented (h : Step v ambient met s s') (hs : AllDocumented s.collection) :
    AllDocumented s'.collection := by
  cases h with
  | report events => exact hs
  | value hd hb => exact hs.add (documented_build (fun _ _ ht => (templateOf_template hd ht).documented) hb)
  | list hi hb _ =>
    refine hs.add ((documented_build (fun c events ht => ?_) hb).addImport _)
    simp only [ValueObjects.template, ListOf.ofArray, itemType_ok.2 ⟨_, _, _, hi⟩] at ht
    cases ht
    exact documented_list _ _ _ _
  | entity => exact hs.add ((documented_foldl _ (documented_start rfl rfl)).keepRawArray fun m hm => hs _ m hm)
  | @pair fqcn c ha =>
    have kept := addRawArrays_keeps (P := AllDocumented) (fun {c fqcn m lines} _ _ _ hc => ?_) s.collection [fqcn] hs
    · rwa [ha] at kept
    · intro other found hf
      rcases Collection.of_get?_adjust hf with ⟨-, before, hb, rfl⟩ | ⟨-, hf⟩
      · exact (hc fqcn before hb).withRawArray lines
      · exact hc other found hf

theorem Steps.documented (h : Steps v ambient met s s') (hs : AllDocumented s.collection) :
    AllDocumented s'.collection :=
  h.keep (P := fun s => AllDocumented s.collection) (·.documented) hs

end SchemaClasses
