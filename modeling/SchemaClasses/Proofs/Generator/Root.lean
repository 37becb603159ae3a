/-
The class of the top-level type. It is the last one that a build adds; its name is that of the root, which
an object takes as it stands and everything else sends through the filter once more.
-/
import SchemaClasses.Proofs.Class.Hints
import SchemaClasses.Proofs.Generator.Origin

namespace SchemaClasses

open Build Template

/-! ## The last class of a build -/

/-- The definition of an object. -/
def TypeDef.IsObject (d : TypeDef) : Prop := ∃ traits properties, d = .object traits properties

/-- A class that was made for a definition and has gained members at most. -/
def MadeFor (v : ValueObjects) (ambient : String) (d : TypeDef) (m : ClassModel) : Prop :=
  ∃ made, Made v ambient (· = d) made ∧ Gained made m

/-- A successful run leaves a class with a property under a name. -/
structure Leaves {α : Type} (fqcn : String) (P : ClassModel → Prop) (action : Build α) : Prop where
  exists_left : ∀ {s s' a}, Runs action s (.ok a) s' → ∃ m, s'.collection.get? fqcn = some m ∧ P m

section Leaves

variable {α β : Type} {fqcn : String} {P : ClassModel → Prop} {m : ClassModel}

/-- The last action decides what is left. -/
theorem leaves_bind {action : Build α} {next : α → Build β}
    (last : ∀ a, (∃ s s', Runs action s (.ok a) s') → Leaves fqcn P (next a)) : Leaves fqcn P (action >>= next) := by
  refine ⟨fun run => ?_⟩
  obtain ⟨a, middle, run, run'⟩ := runs_bind_ok.1 run
  exact (last a ⟨_, middle, run⟩).exists_left run'

theorem leaves_throw (e : GenerateError) : Leaves fqcn P (throw e : Build α) := by
  refine ⟨fun run => ?_⟩
  cases (runs_throw.1 run).1

theorem leaves_add (hn : m.fqcn = fqcn) (hm : P m) : Leaves fqcn P (add m) := by
  refine ⟨fun run => ?_⟩
  obtain ⟨-, rfl⟩ := runs_add.1 run
  exact ⟨m, hn ▸ Collection.get?_add_self, hm⟩

theorem leaves_addEntity (hn : m.fqcn = fqcn) (hm : ∀ previous, P (keepRawArray previous m)) :
    Leaves fqcn P (addEntity m) := by
  refine ⟨fun run => ?_⟩
  obtain ⟨-, rfl⟩ := runs_addEntity.1 run
  generalize hp : keepRawArray _ m = m'
  have same : m'.fqcn = fqcn := by rw [← hp, fqcn_keepRawArray, hn]
  exact ⟨m', same ▸ Collection.get?_add_self, hp ▸ hm _⟩

end Leaves

section Definitions

variable {v : ValueObjects} {ambient className name space : String} {d : TypeDef} {traits : Traits}

theorem madeFor_entity {properties : List (String × TypeSet)} (trim : IsTrimmed space) (previous : Option ClassModel) :
    MadeFor v ambient (.object traits properties) (keepRawArray previous (entityOf v ambient name space properties)) := by
  have made : Made v ambient (· = .object traits properties) (entityOf v ambient name space properties) := .entity trim rfl
  refine ⟨_, made, .of_entity made (kind_entityOf name space properties) ?_⟩
  rw [keepRawArray_eq]

theorem leaves_value (hd : IsScalar d) :
    Leaves (qualify (extractNamespace ambient d) (v.filters.className className)) (MadeFor v ambient d) (do
        let model ← valueObject v (v.filters.className className) (extractNamespace ambient d) d
        add model) := by
  refine leaves_bind fun m ran => ?_
  obtain ⟨_, _, run⟩ := ran
  obtain ⟨events, hm, -⟩ := runs_valueObject.1 run
  exact leaves_add (fqcn_value hd hm) ⟨m, .value hd rfl hm, .refl m⟩

theorem leaves_array {items : List TypeSet} : Leaves (qualify (extractNamespace ambient (.array traits items))
    (v.filters.className className)) (MadeFor v ambient (.array traits items))
    (buildDefinition v ambient (.entity name space) className (.array traits items)) := by
  rw [buildDefinition]
  refine leaves_bind fun item ran => ?_
  obtain ⟨_, _, run⟩ := ran
  obtain ⟨d, target, source, hi⟩ := itemType_ok.1 (runs_fromExcept.1 run).1.symm
  obtain rfl := hi.only
  refine leaves_bind fun found ran => ?_
  obtain ⟨d', smaller⟩ := found
  obtain ⟨_, _, run⟩ := ran
  obtain rfl := Option.some.inj (hi.standsFor.symm.trans (runs_resolveFirst run).1)
  refine leaves_bind fun _ _ => ?_
  have wrapped : Leaves (qualify (extractNamespace ambient (.array traits [⟨d, []⟩])) (v.filters.className className))
      (MadeFor v ambient (.array traits [⟨d, []⟩])) (do
        let wrapper ← valueObject v (v.filters.className className)
          (extractNamespace ambient (.array traits [⟨d, []⟩])) (.array traits [⟨d, []⟩])
        add (wrapper.addImport (qualify (extractNamespace ambient target) (v.filters.className item.sourceName)))) := by
    refine leaves_bind fun wrapper ran => ?_
    obtain ⟨_, _, run⟩ := ran
    obtain ⟨events, hb, -⟩ := runs_valueObject.1 run
    obtain ⟨hn, hs, -⟩ := build_array hi hb
    refine leaves_add ?_ ⟨_, .list hi rfl hb, .refl _⟩
    rw [ClassModel.fqcn_addImport, ClassModel.fqcn, hn, hs]
  -- the items of an object get the raw array form before the wrapper is added
  simp only
  split
  · exact leaves_bind fun _ _ => wrapped
  · exact wrapped

/-- Building a definition leaves its class. -/
theorem leaves_buildDefinition (trim : IsTrimmed space) (d : TypeDef) :
    Leaves (builtName v ambient (qualify space name) className d) (MadeFor v ambient d)
      (buildDefinition v ambient (.entity name space) className d) := by
  cases d with
  | object traits properties =>
    rw [buildDefinition]
    refine leaves_bind fun m ran => ?_
    obtain ⟨_, _, run⟩ := ran
    obtain rfl := eq_of_runs_buildProperties run
    exact leaves_addEntity (fqcn_entityOf name space properties) (madeFor_entity trim)
  | array traits items =>
    rw [builtName_of_ne_object fun _ _ is => by cases is]
    exact leaves_array
  | reference =>
    rw [buildDefinition]
    exact leaves_throw _
  | string | integer | number | boolean =>
    rw [buildDefinition, builtName_of_ne_object fun _ _ is => by cases is]
    exact leaves_value (by trivial)

end Definitions

/-! ## Exceptions in its place -/

theorem MadeFor.ne_exception {v : ValueObjects} {ambient : String} {d : TypeDef} {m : ClassModel}
    (h : MadeFor v ambient d m) : m.kind ≠ .exception := by
  obtain ⟨made, origin, gained⟩ := h
  have kind : m.kind = made.kind := by rw [gained.same]
  rw [kind]
  cases origin with
  | entity =>
    rw [kind_entityOf]
    exact nofun
  | value hd _ hb =>
    obtain ⟨-, -, conversion, -, value⟩ := build_scalar hd hb
    obtain ⟨kind, hk, -⟩ := value.kind
    rw [hk]
    exact nofun
  | list hi _ hb =>
    obtain ⟨-, -, list⟩ := build_array hi hb
    rw [ClassModel.kind_addImport, list.kind]
    exact nofun

/-- A class of another kind under the name of one that is added is replaced, and that is reported. -/
theorem Collection.replaced_of_mem_addAll {added m : ClassModel} : ∀ {models : List ClassModel} {c : Collection},
    c.get? added.fqcn = some m → added ∈ models → (∀ m' ∈ models, m'.kind ≠ m.kind) →
    .classReplaced added.fqcn ∈ (c.addAll models).2
  | first :: rest, c, hf, ha, other => by
    unfold addAll
    rw [List.mem_append]
    by_cases same : first.fqcn = added.fqcn
    · rcases c.addEvents_cases first with silent | replaced
      · rw [← same] at hf
        exact absurd (kind_of_silent silent hf).symm (other first List.mem_cons_self)
      · rw [replaced, same]
        exact .inl List.mem_cons_self
    · have hf : (c.add first).get? added.fqcn = some m := by
        rw [get?_add, if_neg (Ne.symm same)]
        exact hf
      have ha : added ∈ rest := (List.mem_cons.1 ha).resolve_left fun he => same (he ▸ rfl)
      exact .inr (replaced_of_mem_addAll hf ha fun m' hm => other m' (List.mem_cons_of_mem _ hm))

/-! ## The class of the root -/

namespace Generator

variable {g : Generator} {schema : Json} {rootName : String} {c : Collection}

/-- The name that the class of a root is added under, `set` being the root and `d` what it stands for. -/
def rootClass (g : Generator) (rootName : String) (set : TypeSet) (d : TypeDef) : String :=
  let className := g.filters.className rootName
  builtName g.valueObjects g.ambient (qualify (extractNamespace g.ambient set.first) className) className d

/-- The class of the root has the namespace of what the root stands for and the filtered root name, if an
object stands in that namespace already where it is referred to, and if the filter does nothing to its own
outcome otherwise. -/
theorem rootClass_eq_iff (g : Generator) (rootName : String) (set : TypeSet) (d : TypeDef) :
    g.rootClass rootName set d = qualify (extractNamespace g.ambient d) (g.filters.className rootName) ↔
      (d.IsObject → extractNamespace g.ambient set.first = extractNamespace g.ambient d) ∧
      (¬ d.IsObject → g.filters.className (g.filters.className rootName) = g.filters.className rootName) := by
  by_cases object : d.IsObject
  · obtain ⟨traits, properties, rfl⟩ := object
    have object : TypeDef.IsObject (.object traits properties) := ⟨_, _, rfl⟩
    have named : g.rootClass rootName set (.object traits properties) =
        qualify (extractNamespace g.ambient set.first) (g.filters.className rootName) := rfl
    rw [named]
    constructor
    · intro he
      exact ⟨fun _ => qualify_space_inj (isTrimmed_extractNamespace _ _) (isTrimmed_extractNamespace _ _) he,
        fun other => absurd object other⟩
    · rintro ⟨same, -⟩
      rw [same object]
  · have named : g.rootClass rootName set d =
        qualify (extractNamespace g.ambient d) (g.filters.className (g.filters.className rootName)) :=
      builtName_of_ne_object fun traits properties he => object ⟨traits, properties, he⟩
    rw [named]
    constructor
    · intro he
      exact ⟨fun is => absurd is object, fun _ => qualify_name_inj he⟩
    · rintro ⟨-, same⟩
      rw [same object]

/-- The build of a root leaves its class. -/
theorem exists_root_of_build {set : TypeSet} {state : BuildState} (h : g.build set rootName = (.ok (), state)) :
    ∃ d, standsFor? set = some d ∧ ∃ m, state.collection.get? (g.rootClass rootName set d) = some m ∧
      MadeFor g.valueObjects g.ambient d m := by
  have run : Runs (buildSet g.valueObjects g.ambient (.entity (g.filters.className rootName)
      (extractNamespace g.ambient set.first)) (g.filters.className rootName) set) {} (.ok ()) state := h
  rw [buildSet] at run
  obtain ⟨⟨d, smaller⟩, s, found, run⟩ := runs_bind_ok.1 run
  exact ⟨d, (runs_resolveFirst found).1,
    (leaves_buildDefinition (isTrimmed_extractNamespace g.ambient set.first) d).exists_left run⟩

/-- The class of the root is in the result, unless the exception of an enum has taken its place and that was
reported. Its name is the one claimed for it in the cases that `rootClass_eq_iff` tells. -/
theorem generate_root (h : (g.generate schema rootName).1 = .ok c) : ∃ set d,
    (Schema.parse schema rootName).1 = .ok set ∧ standsFor? set = some d ∧
    (∃ m, c.get? (g.rootClass rootName set d) = some m ∧ (MadeFor g.valueObjects g.ambient d m ∨
      m.kind = .exception ∧ .classReplaced (g.rootClass rootName set d) ∈ (g.generate schema rootName).2)) ∧
    (g.rootClass rootName set d = qualify (extractNamespace g.ambient d) (g.filters.className rootName) ↔
      (d.IsObject → extractNamespace g.ambient set.first = extractNamespace g.ambient d) ∧
      (¬ d.IsObject → g.filters.className (g.filters.className rootName) = g.filters.className rootName)) := by
  obtain ⟨set, state, hp, hb, rfl, events, he⟩ := generate_ok h
  obtain ⟨d, stands, built⟩ := exists_root_of_build hb
  refine ⟨set, d, hp, stands, ?_, rootClass_eq_iff g rootName set d⟩
  obtain ⟨before, ⟨m, hm, made⟩, last⟩ := @exists_finish g _ (fun c => ∃ m,
    c.get? (g.rootClass rootName set d) = some m ∧ MadeFor g.valueObjects g.ambient d m) built
    fun f c addition ⟨m, hm, made, origin, gained⟩ => by
      refine ⟨f m, ?_, made, origin, gained.trans (addition.gained m)⟩
      rw [Collection.get?_mapClasses, hm]
      rfl
  rw [he, last]
  split
  · have exceptions : ∀ m' ∈ g.exceptions before, m'.kind = .exception := fun m' hm' => by
      obtain ⟨enum, -, he⟩ := mem_exceptions.1 hm'
      exact kind_of_exception he
    by_cases taken : ∃ added ∈ g.exceptions before, added.fqcn = g.rootClass rootName set d
    · obtain ⟨added, ha, same⟩ := taken
      obtain ⟨other, ho, -, there⟩ := Collection.exists_of_mem_addAll _ (c := before) ha
      have replaced := Collection.replaced_of_mem_addAll (same ▸ hm) ha fun m' hm' =>
        exceptions m' hm' ▸ made.ne_exception.symm
      rw [same] at there replaced
      refine ⟨other, there, .inr ⟨exceptions other ho, ?_⟩⟩
      simp [replaced]
    · refine ⟨m, ?_, .inl made⟩
      rw [Collection.get?_addAll_of_ne fun m' hm' same => taken ⟨m', hm', same⟩]
      exact hm
  · exact ⟨m, hm, .inl made⟩

/-! ## Roots under other names -/

section Displaced

/-- A document that refers to an object in a namespace of its own. -/
def relocated : Json := .object [
  ("$ref", .string "#/definitions/a"),
  ("definitions", .object [("a", .object [("properties", .object []), ("ns", .string "Geo")])])]

def relocatedObject : TypeDef := .object { name := "a", segments := some "Geo" } []

def relocatedRoot : TypeSet :=
  ⟨.reference { name := "r", required := true } "#/definitions/a" (some ⟨relocatedObject, []⟩), []⟩

theorem parse_relocated : Schema.parse relocated "r" = (.ok relocatedRoot, []) := by
  unfold relocatedRoot relocatedObject
  cbv

def relocatedState : BuildState :=
  BuildState.addEntity {} (.entity (conventionalNames.className "r") (extractNamespace (ambient {}) relocatedRoot.first))

theorem build_relocated : build {} relocatedRoot "r" = (.ok (), relocatedState) := by
  have run : Runs (buildSet (valueObjects {}) (ambient {}) (.entity (conventionalNames.className "r")
      (extractNamespace (ambient {}) relocatedRoot.first)) (conventionalNames.className "r") relocatedRoot) {} (.ok ())
      relocatedState := by
    rw [buildSet]
    refine runs_bind_ok.2 ⟨_, _, rfl, ?_⟩
    show Runs (buildDefinition _ _ _ _ (.object _ [])) _ _ _
    rw [buildDefinition]
    refine runs_bind_ok.2 ⟨_, _, ?_, runs_addEntity.2 ⟨rfl, rfl⟩⟩
    rw [buildProperties]
    exact runs_pure.2 ⟨rfl, rfl⟩
  exact run

def relocatedClasses : Collection := (finish {} relocatedState.collection).1

theorem generate_relocated : (generate {} relocated "r").1 = .ok relocatedClasses :=
  congrArg Prod.fst (generate_of_build parse_relocated build_relocated)

/-- Filters that end every class name in a word. -/
def suffixed : Generator :=
  ⟨{}, { conventionalNames with className := NameRule.apply conventionalNames.className (.framed "" "Type") }⟩

/-- A document of one text. -/
def tag : Json := .object [("type", .string "string")]

def tagText : TypeDef := .string { name := "tag", required := true } none none

theorem parse_tag : Schema.parse tag "tag" = (.ok ⟨tagText, []⟩, []) := by
  unfold tagText
  cbv

def tagClass : ClassModel :=
  named (Template.Scalar.text.build suffixed.filters true "tag")
    (suffixed.filters.className (suffixed.filters.className "tag")) (extractNamespace suffixed.ambient tagText)

def tagState : BuildState := (BuildState.report {} [.valueObjectBuilt tagClass.fqcn "string"]).add tagClass

def tagClasses : Collection := (finish suffixed tagState.collection).1

theorem build_tag : suffixed.build ⟨tagText, []⟩ "tag" = (.ok (), tagState) :=
  buildSet_value trivial rfl

theorem generate_tag : (generate suffixed tag "tag").1 = .ok tagClasses :=
  congrArg Prod.fst (generate_of_build parse_tag build_tag)

/-- The object has the namespace of the reference, and the suffix of the text comes twice. -/
theorem generate_root_displaced :
    (∃ c set d, (generate {} relocated "r").1 = .ok c ∧ (Schema.parse relocated "r").1 = .ok set ∧
      standsFor? set = some d ∧ rootClass {} "r" set d = "App\\R" ∧ (∃ m, c.get? "App\\R" = some m) ∧
      qualify (extractNamespace (ambient {}) d) (conventionalNames.className "r") = "App\\Geo\\R" ∧
      c.contains "App\\Geo\\R" = false) ∧
    ∃ c set d, (generate suffixed tag "tag").1 = .ok c ∧ (Schema.parse tag "tag").1 = .ok set ∧
      standsFor? set = some d ∧ suffixed.rootClass "tag" set d = "App\\TagTypeType" ∧
      (∃ m, c.get? "App\\TagTypeType" = some m) ∧
      qualify (extractNamespace suffixed.ambient d) (suffixed.filters.className "tag") = "App\\TagType" ∧
      c.contains "App\\TagType" = false := by
  constructor
  · obtain ⟨set, d, hp, stands, ⟨m, hm, -⟩, -⟩ := generate_root generate_relocated
    obtain rfl := Except.ok.inj ((congrArg Prod.fst parse_relocated).symm.trans hp)
    obtain rfl : relocatedObject = d := Option.some.inj stands
    have named : rootClass {} "r" relocatedRoot relocatedObject = "App\\R" := by decide +kernel
    exact ⟨_, _, _, generate_relocated, hp, stands, named, ⟨m, named ▸ hm⟩, by decide +kernel, by decide +kernel⟩
  · obtain ⟨set, d, hp, stands, ⟨m, hm, -⟩, -⟩ := generate_root generate_tag
    obtain rfl := Except.ok.inj ((congrArg Prod.fst parse_tag).symm.trans hp)
    obtain rfl : tagText = d := Option.some.inj stands
    have named : suffixed.rootClass "tag" ⟨tagText, []⟩ tagText = "App\\TagTypeType" := by decide +kernel
    exact ⟨_, _, _, generate_tag, hp, stands, named, ⟨m, named ▸ hm⟩, by decide +kernel, by decide +kernel⟩

end Displaced

end Generator

end SchemaClasses
