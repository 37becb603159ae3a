/-
Where the hints of an entity lead. Each one stands for the name that the class of the property was
promised under; a class was added under that name unless the property strays: it refers to a
reference to something that is no object and lies in another namespace than the one referred to.
-/
import SchemaClasses.Proofs.Class.Graph
import SchemaClasses.Proofs.Names

namespace SchemaClasses

/-! ## Hints as texts -/

theorem plainHint_of_not_mem {short : String} (h : '?' ∉ short.toList) : plainHint short = short := by
  unfold plainHint
  rw [Text.trimStart_eq_self, String.ofList_toList]
  intro c hc
  rw [beq_eq_false_iff_ne]
  rintro rfl
  exact h (List.mem_of_mem_head? hc)

theorem plainHint_propertyTypeHint {short : String} (h : '?' ∉ short.toList) (d : TypeDef) :
    plainHint (propertyTypeHint short d) = short := by
  unfold propertyTypeHint
  split
  · unfold plainHint
    rw [String.toList_append]
    show String.ofList (Text.trimStart (· == '?') ('?' :: short.toList)) = short
    exact plainHint_of_not_mem h
  · exact plainHint_of_not_mem h

/-- The class that the hint of a property stands for. -/
def hinted (m : ClassModel) (p : Property) : String := importedOrLocal m (plainHint p.typeHint)

/-! ## Straying -/

/-- A reference to a reference to something that is no object, in another namespace than the one that
the first reference leads to. -/
def Strays (ambient : String) : TypeDef → Prop
  | .reference _ _ (some inner) => ∃ d, standsFor? inner = some d ∧
      (∀ traits properties, d ≠ .object traits properties) ∧
      extractNamespace ambient d ≠ extractNamespace ambient inner.first
  | _ => False

variable {v : ValueObjects} {ambient : String}

theorem promisedName_reference {key pointer : String} {traits : Traits} {inner : TypeSet} :
    promisedName v ambient key (.reference traits pointer (some inner)) =
      qualify (extractNamespace ambient inner.first)
        (v.filters.className (nameOr inner.first.name (targetName pointer))) :=
  rfl

theorem builtName_object {entity className : String} {traits : Traits} {properties : List (String × TypeSet)} :
    builtName v ambient entity className (.object traits properties) = entity :=
  rfl

theorem builtName_of_ne_object {entity className : String} {d : TypeDef}
    (h : ∀ traits properties, d ≠ .object traits properties) :
    builtName v ambient entity className d = qualify (extractNamespace ambient d) (v.filters.className className) := by
  cases d with
  | object traits properties => exact absurd rfl (h traits properties)
  | _ => rfl

/-- The class of a property is added under another name than the promised one if the property strays,
and only then. -/
theorem addedName_ne_iff (v : ValueObjects) (key : String) (d : TypeDef) :
    addedName v ambient key d ≠ promisedName v ambient key d ↔ Strays ambient d := by
  match d with
  | .reference traits pointer (some inner) =>
    cases hs : standsFor? inner with
    | none =>
      have : ¬ Strays ambient (.reference traits pointer (some inner)) := by
        rintro ⟨d, hd, -⟩
        rw [hs] at hd
        cases hd
      have same : addedName v ambient key (.reference traits pointer (some inner)) =
          promisedName v ambient key (.reference traits pointer (some inner)) := by
        unfold addedName
        simp only
        rw [hs, Option.map_none, Option.getD_none]
      simp [this, same]
    | some d =>
      rw [addedName_reference hs, promisedName_reference]
      constructor
      · intro hne
        have other : ∀ traits properties, d ≠ .object traits properties := by
          rintro traits properties rfl
          exact hne builtName_object
        refine ⟨d, hs, other, fun he => hne ?_⟩
        rw [builtName_of_ne_object other, he]
      -- a name in two namespaces is two names
      · rintro ⟨d', hs', other, hne⟩ he
        obtain rfl := Option.some.inj (hs.symm.trans hs')
        rw [builtName_of_ne_object other] at he
        exact hne (qualify_space_inj (isTrimmed_extractNamespace ambient _) (isTrimmed_extractNamespace ambient _) he)
  | .reference _ _ none | .object .. | .array .. | .string .. | .integer _ | .number _ | .boolean _ =>
    simp [addedName, Strays]

/-! ## Entities whose hints lead to given names -/

/-- The imports of a class are among some names, and so are the classes that its hints stand for. -/
structure HintsAmong (names : String → Prop) (m : ClassModel) : Prop where
  imports : ∀ fqcn ∈ m.imports, names fqcn
  hints : ∀ p ∈ m.properties.values, ∃ fqcn, names fqcn ∧ plainHint p.typeHint = shortName fqcn ∧
    (fqcn ∈ m.imports ∨ qualify m.space (shortName fqcn) = fqcn)

theorem HintsAmong.mono {names names' : String → Prop} {m : ClassModel} (h : HintsAmong names m)
    (sub : ∀ fqcn, names fqcn → names' fqcn) : HintsAmong names' m :=
  ⟨fun fqcn hi => sub fqcn (h.imports fqcn hi), fun p hp =>
    let ⟨fqcn, hn, rest⟩ := h.hints p hp
    ⟨fqcn, sub fqcn hn, rest⟩⟩

/-- Other methods, constants and flags have no say in what hints stand for. -/
theorem HintsAmong.of_eq {names : String → Prop} {m m' : ClassModel} (h : HintsAmong names m)
    (space : m'.space = m.space) (imports : m'.imports = m.imports) (properties : m'.properties = m.properties) :
    HintsAmong names m' := by
  obtain ⟨hi, hh⟩ := h
  constructor
  · rw [imports]
    exact hi
  · rw [imports, properties, space]
    exact hh

/-- What a hint stands for is among the names: an import of its short name, else the class of the own
namespace. -/
theorem HintsAmong.hinted {names : String → Prop} {m : ClassModel} (h : HintsAmong names m) :
    ∀ p ∈ m.properties.values, names (hinted m p) := by
  intro p hp
  obtain ⟨fqcn, hn, hs, he⟩ := h.hints p hp
  unfold SchemaClasses.hinted importedOrLocal
  rw [hs]
  cases hf : m.imports.find? fun fqcn' => shortName fqcn' == shortName fqcn with
  | some found => exact h.imports _ (List.mem_of_find?_eq_some hf)
  | none =>
    rcases he with hi | he
    -- an import of that name would have been found
    · have := List.find?_eq_none.1 hf fqcn hi
      simp at this
    · rw [Option.getD_none, he]
      exact hn

theorem hintsAmong_entity {names : String → Prop} {name space : String} :
    HintsAmong names (.entity name space) where
  imports := fun fqcn hi => by cases hi
  hints := fun p hp => by cases hp

/-! ## Entities of schemas -/

/-- A promised name is a short name in a namespace. -/
theorem promisedName_eq (v : ValueObjects) (ambient key : String) (d : TypeDef) : ∃ space raw,
    IsTrimmed space ∧ promisedName v ambient key d = qualify space (v.filters.className raw) := by
  unfold promisedName
  split
  · exact ⟨_, _, isTrimmed_extractNamespace ambient _, rfl⟩
  · exact ⟨_, _, isTrimmed_extractNamespace ambient _, rfl⟩

theorem HintsAmong.addImport {names : String → Prop} {m : ClassModel} {fqcn : String} (h : HintsAmong names m)
    (bare : withoutLeadingBackslashes fqcn = fqcn) (hn : names fqcn) : HintsAmong names (m.addImport fqcn) := by
  constructor
  · intro other ho
    rcases (ClassModel.mem_addImport bare).1 ho with ho | ⟨rfl, -⟩
    · exact h.imports other ho
    · exact hn
  · rw [ClassModel.space_addImport, ClassModel.properties_addImport]
    intro p hp
    obtain ⟨other, ho, hp, hi⟩ := h.hints p hp
    exact ⟨other, ho, hp, hi.imp_left fun hi => (ClassModel.mem_addImport bare).2 (.inl hi)⟩

theorem HintsAmong.addProperty {names : String → Prop} {m : ClassModel} {p : Property} (h : HintsAmong names m)
    (hp : ∃ fqcn, names fqcn ∧ plainHint p.typeHint = shortName fqcn ∧
      (fqcn ∈ m.imports ∨ qualify m.space (shortName fqcn) = fqcn)) : HintsAmong names (m.addProperty p) := by
  refine ⟨h.imports, fun p' hp' => ?_⟩
  rcases Entries.mem_values_put hp' with rfl | hp'
  · exact hp
  · exact h.hints p' hp'

/-- A class finds another one by its short name once it has imported it. -/
theorem mem_addImport_or_own {m : ClassModel} {space name : String} (hn : IsShort name) (hs : IsTrimmed space) :
    qualify space name ∈ (m.addImport (qualify space name)).imports ∨
      qualify (m.addImport (qualify space name)).space (shortName (qualify space name)) = qualify space name := by
  by_cases own : namespaceOf (qualify space name) = m.space
  · right
    rw [ClassModel.space_addImport, shortName_qualify hn, ← own, namespaceOf_qualify hn, hs]
  · exact .inl ((ClassModel.mem_addImport (withoutLeadingBackslashes_qualify hn)).2 (.inr ⟨rfl, own⟩))

theorem HintsAmong.withSchemaProperty {names : String → Prop} {into : ClassModel} {entry : String × TypeSet}
    (plain : PlainNames v.filters) (h : HintsAmong names into)
    (hn : names (promisedName v ambient entry.1 entry.2.first)) :
    HintsAmong names (withSchemaProperty v ambient into entry) := by
  unfold SchemaClasses.withSchemaProperty
  simp only
  obtain ⟨space, raw, hs, he⟩ := promisedName_eq v ambient entry.1 entry.2.first
  rw [he] at hn ⊢
  refine (h.addImport (withoutLeadingBackslashes_qualify (plain.short raw)) hn).addProperty ⟨_, hn, ?_, ?_⟩
  · apply plainHint_propertyTypeHint
    rw [shortName_qualify (plain.short raw)]
    exact plain.unmarked raw
  · exact mem_addImport_or_own (plain.short raw) hs

/-- The hints of an entity stand for the names that were promised for its properties. -/
theorem hintsAmong_foldl {names : String → Prop} (plain : PlainNames v.filters) :
    ∀ (properties : List (String × TypeSet)) {into : ClassModel}, HintsAmong names into →
      (∀ entry ∈ properties, names (promisedName v ambient entry.1 entry.2.first)) →
      HintsAmong names (properties.foldl (withSchemaProperty v ambient) into)
  | [], _, h, _ => h
  | entry :: rest, _, h, all => by
    rw [List.foldl_cons]
    exact hintsAmong_foldl plain rest (h.withSchemaProperty plain (all entry List.mem_cons_self))
      fun other ho => all other (List.mem_cons_of_mem _ ho)

/-! ## Collections -/

section Collections

variable (v : ValueObjects) (ambient : String) (met : String × TypeSet → Prop)

/-- The names that hints may stand for: those of classes, and the names promised for properties that
stray, whose classes are there under other names. -/
def Known (c : Collection) (fqcn : String) : Prop :=
  c.contains fqcn = true ∨ ∃ entry, met entry ∧ Strays ambient entry.2.first ∧
    promisedName v ambient entry.1 entry.2.first = fqcn ∧
    c.contains (addedName v ambient entry.1 entry.2.first) = true

/-- Every hint of every entity stands for a known name. -/
def HintsKnown (c : Collection) : Prop :=
  ∀ fqcn m, c.get? fqcn = some m → m.kind = .entity → HintsAmong (Known v ambient met c) m

end Collections

variable {met : String × TypeSet → Prop} {c c' : Collection} {s s' : BuildState}

theorem Known.mono {fqcn : String} (h : Known v ambient met c fqcn)
    (sub : ∀ other, c.contains other = true → c'.contains other = true) : Known v ambient met c' fqcn := by
  rcases h with h | ⟨entry, hm, stray, he, h⟩
  · exact .inl (sub fqcn h)
  · exact .inr ⟨entry, hm, stray, he, sub _ h⟩

theorem hintsKnown_empty : HintsKnown v ambient met {} := fun _ _ h => by cases h

theorem HintsKnown.add {m : ClassModel} (h : HintsKnown v ambient met c)
    (hm : m.kind = .entity → HintsAmong (Known v ambient met (c.add m)) m) : HintsKnown v ambient met (c.add m) := by
  intro fqcn found hf hk
  rcases Collection.of_get?_add hf with ⟨rfl, rfl⟩ | ⟨-, hf⟩
  · exact hm hk
  · exact (h fqcn found hf hk).mono fun other ho => ho.mono fun name hn => by
      rw [Collection.contains_add, hn, Bool.or_true]

/-- Gaining the raw array form changes no hints. -/
theorem HintsKnown.grows (h : HintsKnown v ambient met c) (hg : Grows c c') : HintsKnown v ambient met c' := by
  intro fqcn found hf hk
  obtain ⟨m, hm, hp⟩ := hg.exists_before hf
  have kept : ∀ name, c.contains name = true → c'.contains name = true :=
    fun name hn => (hg.contains_eq name).trans hn
  have known := (h fqcn m hm (hp.kind ▸ hk)).mono fun _ ho => ho.mono kept
  rcases hp with rfl | ⟨-, lines, rfl⟩
  · exact known
  · exact known.of_eq rfl rfl rfl

/-- An entity is added once the classes of its properties are there. -/
theorem HintsKnown.entity (plain : PlainNames v.filters) {name space : String}
    {properties : List (String × TypeSet)} {previous : Option ClassModel} (h : HintsKnown v ambient met c)
    (all : ∀ entry ∈ properties, met entry ∧ c.contains (addedName v ambient entry.1 entry.2.first) = true) :
    HintsKnown v ambient met (c.add (Build.keepRawArray previous (entityOf v ambient name space properties))) := by
  apply h.add
  intro _
  generalize hm : Build.keepRawArray previous (entityOf v ambient name space properties) = m
  -- taking over methods changes no hints, so the entity itself is what counts
  have known : HintsAmong (Known v ambient met (c.add m)) (entityOf v ambient name space properties) := by
    apply hintsAmong_foldl plain properties hintsAmong_entity
    intro entry he
    obtain ⟨hmet, there⟩ := all entry he
    have there : (c.add m).contains (addedName v ambient entry.1 entry.2.first) = true := by
      rw [Collection.contains_add, there, Bool.or_true]
    by_cases stray : Strays ambient entry.2.first
    · exact .inr ⟨entry, hmet, stray, rfl, there⟩
    · left
      have same := not_not.1 fun hne => stray ((addedName_ne_iff v entry.1 entry.2.first).1 hne)
      rw [← same]
      exact there
  apply known.of_eq <;> rw [← hm, keepRawArray_eq]

theorem Step.hintsKnown (plain : PlainNames v.filters) (h : Step v ambient met s s')
    (hs : HintsKnown v ambient met s.collection) : HintsKnown v ambient met s'.collection := by
  cases h with
  | report events => exact hs
  | value hd hb =>
    obtain ⟨-, -, conversion, -, value⟩ := build_scalar hd hb
    exact HintsKnown.add hs fun entity => absurd entity value.ne_entity
  | list hi hb there =>
    obtain ⟨-, -, list⟩ := build_array hi hb
    exact HintsKnown.add hs fun entity => absurd ((ClassModel.kind_addImport ..).symm.trans entity) list.ne_entity
  | entity trim all => exact HintsKnown.entity plain hs all
  | pair ha => exact hs.grows (grows_of_addRawArrays ha)

theorem Steps.hintsKnown (plain : PlainNames v.filters) (h : Steps v ambient met s s')
    (hs : HintsKnown v ambient met s.collection) : HintsKnown v ambient met s'.collection :=
  h.keep (·.hintsKnown plain) hs

end SchemaClasses
