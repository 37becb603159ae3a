/-
Which keys of an object its entity has properties for. A property is put under the name that its key is
filtered to, so of the keys with one name the last one has the property, in the place of the first; every
key has its property exactly if no two of them have one name.
-/
import SchemaClasses.Proofs.Class.Rebuild

namespace SchemaClasses

variable {v : ValueObjects} {ambient : String}

/-! ## Properties under their names -/

/-- The property that an entry of an object makes. -/
def schemaProperty (v : ValueObjects) (ambient : String) (entry : String × TypeSet) : Property where
  name := v.filters.propertyName entry.1
  sourceName := some entry.1
  typeHint := propertyTypeHint (shortName (promisedName v ambient entry.1 entry.2.first)) entry.2.first

/-- The properties of an entity without other ones. -/
def schemaProperties (v : ValueObjects) (ambient : String) (entries : List (String × TypeSet)) : Entries Property :=
  .ofPairs (entries.map fun entry => (v.filters.propertyName entry.1, schemaProperty v ambient entry))

theorem properties_foldl : ∀ (entries : List (String × TypeSet)) (into : ClassModel),
    (entries.foldl (withSchemaProperty v ambient) into).properties =
      (entries.map fun entry => (v.filters.propertyName entry.1, schemaProperty v ambient entry)).foldl
        (fun properties pair => properties.put pair.1 pair.2) into.properties
  | [], _ => rfl
  | entry :: rest, into => by
    have first : (withSchemaProperty v ambient into entry).properties =
        into.properties.put (v.filters.propertyName entry.1) (schemaProperty v ambient entry) := by
      unfold withSchemaProperty ClassModel.addProperty
      simp only
      rw [ClassModel.properties_addImport]
      rfl
    rw [List.foldl_cons, properties_foldl rest, first, List.map_cons, List.foldl_cons]

theorem properties_entityOf (name space : String) (entries : List (String × TypeSet)) :
    (entityOf v ambient name space entries).properties = schemaProperties v ambient entries :=
  properties_foldl entries _

/-! ## Keys -/

/-- Of the keys that are filtered to a name, the one that has the property. -/
def keyOf? (filter : String → String) (keys : List String) (name : String) : Option String :=
  keys.reverse.find? (filter · == name)

theorem at?_schemaProperties (entries : List (String × TypeSet)) (name : String) :
    (schemaProperties v ambient entries).at? name =
      (entries.reverse.find? (v.filters.propertyName ·.1 == name)).map (schemaProperty v ambient) :=
  Entries.at?_ofPairs_map (fun entry : String × TypeSet => v.filters.propertyName entry.1) _ entries

theorem rawKey_at? (entries : List (String × TypeSet)) (name : String) :
    ((schemaProperties v ambient entries).at? name).map Property.rawKey =
      keyOf? v.filters.propertyName (entries.map Prod.fst) name := by
  rw [at?_schemaProperties, keyOf?, ← List.map_reverse, List.find?_map, Option.map_map]
  rfl

/-- Every property is that of an entry, and stands under the name of the entry's key. -/
theorem exists_entry {entries : List (String × TypeSet)} {name : String} {p : Property}
    (h : (name, p) ∈ schemaProperties v ambient entries) :
    ∃ entry ∈ entries, name = v.filters.propertyName entry.1 ∧ p = schemaProperty v ambient entry := by
  obtain ⟨entry, he, pair⟩ := List.mem_map.1 (Entries.mem_of_mem_ofPairs h)
  cases pair
  exact ⟨entry, he, rfl, rfl⟩

theorem own_schemaProperties (entries : List (String × TypeSet)) :
    (schemaProperties v ambient entries).Own fun p => v.filters.propertyName p.rawKey := by
  intro ⟨name, p⟩ hm
  obtain ⟨entry, -, rfl, rfl⟩ := exists_entry hm
  rfl

theorem names_schemaProperties (entries : List (String × TypeSet)) :
    (schemaProperties v ambient entries).names =
      ((entries.map Prod.fst).map v.filters.propertyName).eraseDups := by
  rw [schemaProperties, Entries.names_ofPairs, List.map_map, List.map_map]
  rfl

theorem nodup_names_schemaProperties (entries : List (String × TypeSet)) :
    ((schemaProperties v ambient entries).values.map (·.name)).Nodup := by
  have own : (schemaProperties v ambient entries).Own (·.name) := by
    rintro ⟨name, p⟩ hm
    obtain ⟨entry, -, rfl, rfl⟩ := exists_entry hm
    rfl
  rw [own.names_eq]
  exact Entries.distinct_ofPairs _

/-- The keys all have their properties, in their order, if and only if their names are distinct. -/
theorem rawKeys_eq_iff (entries : List (String × TypeSet)) :
    (schemaProperties v ambient entries).values.map Property.rawKey = entries.map Prod.fst ↔
      ((entries.map Prod.fst).map v.filters.propertyName).Nodup := by
  constructor
  · intro all
    -- each property stands under the name of its key, and no name comes twice
    rw [← all, List.map_map]
    exact (own_schemaProperties entries).names_eq ▸ Entries.distinct_ofPairs _
  · intro distinct
    have kept : schemaProperties v ambient entries =
        entries.map fun entry => (v.filters.propertyName entry.1, schemaProperty v ambient entry) := by
      apply Entries.ofPairs_of_distinct
      unfold Entries.Distinct Entries.names
      rw [List.map_map]
      rwa [List.map_map] at distinct
    rw [kept, Entries.values, List.map_map, List.map_map]
    rfl

/-! ## Built entities -/

section Built

open Build

variable {into : ClassModel} {className : String} {s s' : BuildState} {set : TypeSet} {traits : Traits}
  {properties : List (String × TypeSet)}

theorem exists_of_runs_addEntity {m : ClassModel} (run : Runs (addEntity m) s (.ok ()) s') :
    ∃ made, s'.collection.get? m.fqcn = some made ∧ made.kind = m.kind ∧ made.properties = m.properties := by
  obtain ⟨-, rfl⟩ := runs_addEntity.1 run
  exact ⟨_, get?_addEntity s m, kind_keepRawArray _ _, properties_keepRawArray _ _⟩

/-- An object alone is built in the same way as a property and as a set. -/
theorem buildSet_object : buildSet v ambient into className ⟨.object traits properties, []⟩ =
    buildDefinition v ambient into className (.object traits properties) := by
  rw [buildSet]
  rfl

/-- A set that stands for an object leaves the class that it was to fill, with the properties of the object
after those that the class had. -/
theorem exists_of_runs_buildSet (stands : standsFor? set = some (.object traits properties))
    (run : Runs (buildSet v ambient into className set) s (.ok ()) s') :
    ∃ m, s'.collection.get? into.fqcn = some m ∧ m.kind = into.kind ∧
      m.properties = (properties.foldl (withSchemaProperty v ambient) into).properties := by
  rw [buildSet] at run
  obtain ⟨⟨d, smaller⟩, s₁, resolved, run⟩ := runs_bind_ok.1 run
  obtain ⟨stands', -⟩ := runs_resolveFirst resolved
  have object : d = .object traits properties := Option.some.inj (stands'.symm.trans stands)
  simp only [object] at run
  rw [buildDefinition] at run
  obtain ⟨filled, s₂, fills, adds⟩ := runs_bind_ok.1 run
  have same := eq_of_runs_buildProperties fills
  obtain ⟨m, there, kind, own⟩ := exists_of_runs_addEntity adds
  rw [same, foldl_withSchemaProperty_eq] at there kind
  rw [same] at own
  exact ⟨m, there, kind, own⟩

/-- The entity of an object has one property for each name that its keys are filtered to, in the order in
which the names first come, and of the keys with one name the last one is its raw key. So the raw keys are
those of the object, in its order, if and only if no two keys are filtered to one name. -/
theorem buildSet_properties (fresh : into.properties = [])
    (stands : standsFor? set = some (.object traits properties))
    (run : Runs (buildSet v ambient into className set) s (.ok ()) s') :
    ∃ m, s'.collection.get? into.fqcn = some m ∧ m.kind = into.kind ∧
      m.properties.names = ((properties.map Prod.fst).map v.filters.propertyName).eraseDups ∧
      (∀ name, (m.properties.at? name).map Property.rawKey =
        keyOf? v.filters.propertyName (properties.map Prod.fst) name) ∧
      (m.properties.values.map Property.rawKey = properties.map Prod.fst ↔
        ((properties.map Prod.fst).map v.filters.propertyName).Nodup) := by
  obtain ⟨m, there, kind, filled⟩ := exists_of_runs_buildSet stands run
  have own : m.properties = schemaProperties v ambient properties := by
    rw [filled, properties_foldl, fresh]
    rfl
  refine ⟨m, there, kind, ?_⟩
  rw [own]
  exact ⟨names_schemaProperties properties, rawKey_at? properties, rawKeys_eq_iff properties⟩

/-! ## Objects of single values -/

theorem exists_runs_propertyClass {key : String} {d : TypeDef} (hd : IsScalar d) (s : BuildState) :
    ∃ fqcn s', Runs (propertyClass v ambient key d) s (.ok fqcn) s' := by
  obtain ⟨c, events, built⟩ : ∃ c events,
      v.build (v.filters.className key) (extractNamespace ambient d) d = .ok (c, events) := by
    cases d with
    | string | integer | number | boolean => exact ⟨_, _, rfl⟩
    | _ => cases hd
  exact ⟨_, _, propertyClass_value hd built⟩

theorem exists_runs_buildProperties : ∀ {properties : List (String × TypeSet)} (into : ClassModel) (s : BuildState),
    (∀ entry ∈ properties, IsScalar entry.2.first) →
    ∃ m s', Runs (buildProperties v ambient properties into) s (.ok m) s'
  | [], into, s, _ => ⟨into, s, by rw [buildProperties]; exact runs_pure.2 ⟨rfl, rfl⟩⟩
  | (key, set) :: rest, into, s, all => by
    obtain ⟨s₁, noted⟩ : ∃ s₁, Runs (noteUnion set) s (.ok ()) s₁ := by
      unfold noteUnion
      split
      · exact ⟨_, runs_report.2 ⟨rfl, rfl⟩⟩
      · exact ⟨_, runs_pure.2 ⟨rfl, rfl⟩⟩
    obtain ⟨fqcn, s₂, classed⟩ :=
      @exists_runs_propertyClass v ambient key set.first (all _ List.mem_cons_self) s₁
    obtain ⟨m, s', others⟩ := exists_runs_buildProperties ((into.addImport fqcn).addProperty {
      name := v.filters.propertyName key
      sourceName := some key
      typeHint := propertyTypeHint (shortName fqcn) set.first }) s₂ fun entry he =>
        all entry (List.mem_cons_of_mem _ he)
    rw [buildProperties]
    exact ⟨m, s', runs_bind_ok.2 ⟨_, _, noted, runs_bind_ok.2 ⟨_, _, classed, others⟩⟩⟩

/-- An object whose properties are single values is always built. -/
theorem exists_runs_buildSet (into : ClassModel) (className : String) (s : BuildState)
    (all : ∀ entry ∈ properties, IsScalar entry.2.first) :
    ∃ s', Runs (buildSet v ambient into className ⟨.object traits properties, []⟩) s (.ok ()) s' := by
  obtain ⟨m, s₁, filled⟩ := @exists_runs_buildProperties v ambient properties into s all
  rw [buildSet_object, buildDefinition]
  exact ⟨_, runs_bind_ok.2 ⟨_, _, filled, runs_addEntity.2 ⟨rfl, rfl⟩⟩⟩

/-- Two keys that are filtered to one name. -/
def twins : List (String × TypeSet) :=
  [("a_b", ⟨.string { name := "a_b" } none none, []⟩), ("aB", ⟨.integer { name := "aB" }, []⟩)]

def twinsMaker : ValueObjects := ⟨conventionalNames, true, Template.DateTime.defaultFormat⟩

/-- The class has no property for the first of them. -/
theorem buildSet_properties_twins : ∃ s' m, Runs (buildSet twinsMaker "App" (.entity "R" "App") "R"
    ⟨.object { name := "r" } twins, []⟩) {} (.ok ()) s' ∧ s'.collection.get? "App\\R" = some m ∧
    m.properties.names = ["aB"] ∧ (m.properties.at? "aB").map Property.rawKey = some "aB" ∧
    m.properties.values.map Property.rawKey ≠ twins.map Prod.fst := by
  have scalars : ∀ entry ∈ twins, IsScalar entry.2.first := by
    intro entry he
    rcases List.mem_cons.1 he with rfl | he
    · trivial
    · obtain rfl := List.mem_singleton.1 he
      trivial
  obtain ⟨s', run⟩ := @exists_runs_buildSet twinsMaker "App" { name := "r" } twins (.entity "R" "App") "R" {} scalars
  obtain ⟨m, there, -, names, raw, all⟩ := buildSet_properties rfl rfl run
  have one : ((twins.map Prod.fst).map twinsMaker.filters.propertyName) = ["aB", "aB"] := by decide +kernel
  have last : keyOf? twinsMaker.filters.propertyName (twins.map Prod.fst) "aB" = some "aB" := by decide +kernel
  have fqcn : (ClassModel.entity "R" "App").fqcn = "App\\R" := by decide +kernel
  rw [one] at names all
  refine ⟨s', m, run, fqcn ▸ there, names, (raw "aB").trans last, fun he => ?_⟩
  exact absurd (all.1 he) (by decide)

end Built

end SchemaClasses
