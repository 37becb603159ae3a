/-
What a build does, deed by deed. Which classes a set has built and which of them it asks for the raw array form
is said without the collection, so two builds can be compared by their deeds, whatever their order; a successful
run does these deeds and nothing else.
-/
import SchemaClasses.Proofs.Class.Rebuild

namespace SchemaClasses

open Build Template

/-! ## Deeds -/

/-- What building does to a collection: an entity is added, which may take over the pair of the class in its
place; a value object is added; or an entity and all below it are given the pair. -/
inductive Deed
  | entity (m : ClassModel)
  | value (m : ClassModel)
  | pair (fqcn : String)

namespace Deed

/-- The class that a deed adds. -/
def added? : Deed → Option ClassModel
  | entity m | value m => some m
  | pair _ => none

/-- The deed as an action. -/
def action : Deed → Build Unit
  | entity m => addEntity m
  | value m => add m
  | pair fqcn => rawArrays fqcn

/-- The pair is given to a class that is there. -/
def Ready (c : Collection) : Deed → Prop
  | pair fqcn => c.contains fqcn = true
  | entity _ | value _ => True

end Deed

/-- The raw name that the class of a property is named after. -/
def walkedName (key : String) : TypeDef → String
  | .reference _ pointer (some inner) => nameOr inner.first.name (targetName pointer)
  | _ => key

section Does

variable (v : ValueObjects) (ambient : String)

/-- The deeds of building a definition that is no reference. An object fills the entity `name` in a namespace, and
all else is named after `className`. -/
inductive Does : String → String → String → TypeDef → Deed → Prop
  | entity {name space className : String} {traits : Traits} {properties : List (String × TypeSet)} :
      Does name space className (.object traits properties) (.entity (entityOf v ambient name space properties))
  | property {name space className : String} {traits : Traits} {properties : List (String × TypeSet)}
      {entry : String × TypeSet} {d : TypeDef} {deed : Deed} : entry ∈ properties →
      standsFor? (walked entry.2.first) = some d →
      Does (v.filters.className (walkedName entry.1 entry.2.first))
        (extractNamespace ambient (walked entry.2.first).first) (walkedName entry.1 entry.2.first) d deed →
      Does name space className (.object traits properties) deed
  | item {name space className : String} {traits : Traits} {items : List TypeSet} {item : ItemType}
      {d target : TypeDef} {source : String} {deed : Deed} : HasItems items item d target source →
      Does (v.filters.className item.sourceName) (extractNamespace ambient target) item.sourceName target deed →
      Does name space className (.array traits items) deed
  | pair {name space className : String} {traits : Traits} {items : List TypeSet} {item : ItemType}
      {d target : TypeDef} {source : String} : HasItems items item d target source → item.isObject = true →
      Does name space className (.array traits items)
        (.pair (qualify (extractNamespace ambient target) (v.filters.className item.sourceName)))
  | list {name space className : String} {traits : Traits} {items : List TypeSet} {item : ItemType}
      {d target : TypeDef} {source : String} {c : ClassModel} {reported : List Event} :
      HasItems items item d target source → v.build (v.filters.className className)
        (extractNamespace ambient (.array traits items)) (.array traits items) = .ok (c, reported) →
      Does name space className (.array traits items) (.value
        (c.addImport (qualify (extractNamespace ambient target) (v.filters.className item.sourceName))))
  | value {name space className : String} {d : TypeDef} {c : ClassModel} {reported : List Event} : IsScalar d →
      v.build (v.filters.className className) (extractNamespace ambient d) d = .ok (c, reported) →
      Does name space className d (.value c)

/-- The deeds of building a set. -/
def DoesSet (name space className : String) (set : TypeSet) (deed : Deed) : Prop :=
  ∃ d, standsFor? set = some d ∧ Does v ambient name space className d deed

/-- The deeds of building a property. -/
def DoesProperty (key : String) (d : TypeDef) (deed : Deed) : Prop :=
  DoesSet v ambient (v.filters.className (walkedName key d)) (extractNamespace ambient (walked d).first)
    (walkedName key d) (walked d) deed

/-- The deeds of building properties. -/
def DoesProperties (properties : List (String × TypeSet)) (deed : Deed) : Prop :=
  ∃ entry ∈ properties, DoesProperty v ambient entry.1 entry.2.first deed

end Does

variable {v : ValueObjects} {ambient name space className : String} {traits : Traits}
  {properties : List (String × TypeSet)} {d : TypeDef} {deed : Deed} {s s' : BuildState}

theorem does_object_iff : Does v ambient name space className (.object traits properties) deed ↔
    DoesProperties v ambient properties deed ∨ deed = .entity (entityOf v ambient name space properties) := by
  constructor
  · intro h
    cases h with
    | entity => exact .inr rfl
    | property he stands hd => exact .inl ⟨_, he, _, stands, hd⟩
    | value hd => cases hd
  · rintro (⟨entry, he, d, stands, hd⟩ | rfl)
    · exact .property he stands hd
    · exact .entity

theorem does_value_iff (hd : IsScalar d) : Does v ambient name space className d deed ↔
    ∃ c reported, v.build (v.filters.className className) (extractNamespace ambient d) d = .ok (c, reported) ∧
      deed = .value c := by
  constructor
  · intro h
    cases h with
    | value _ hb => exact ⟨_, _, hb, rfl⟩
    | _ => cases hd
  · rintro ⟨c, reported, hb, rfl⟩
    exact .value hd hb

/-- The items of a list have one type. -/
theorem HasItems.unique {items : List TypeSet} {item item' : ItemType} {d d' target target' : TypeDef}
    {source source' : String} (h : HasItems items item d target source) (h' : HasItems items item' d' target' source') :
    item = item' ∧ target = target' := by
  obtain ⟨only, leads, single, conversion, name⟩ := h
  obtain ⟨only', leads', single', conversion', name'⟩ := h'
  rw [only] at only'
  cases only'
  rw [leads] at leads'
  cases leads'
  obtain ⟨sourceName, how⟩ := item
  obtain ⟨sourceName', how'⟩ := item'
  rw [conversion] at conversion'
  cases conversion'
  exact ⟨congrArg (ItemType.mk · how) (name.trans name'.symm), rfl⟩

theorem does_array_iff {items : List TypeSet} {item : ItemType} {d target : TypeDef} {source : String}
    (hi : HasItems items item d target source) :
    Does v ambient name space className (.array traits items) deed ↔
      Does v ambient (v.filters.className item.sourceName) (extractNamespace ambient target) item.sourceName target deed ∨
      (item.isObject = true ∧
        deed = .pair (qualify (extractNamespace ambient target) (v.filters.className item.sourceName))) ∨
      ∃ c reported, v.build (v.filters.className className) (extractNamespace ambient (.array traits items))
        (.array traits items) = .ok (c, reported) ∧ deed = .value
          (c.addImport (qualify (extractNamespace ambient target) (v.filters.className item.sourceName))) := by
  constructor
  · intro h
    cases h with
    | item hi' hd =>
      obtain ⟨rfl, rfl⟩ := hi.unique hi'
      exact .inl hd
    | pair hi' object =>
      obtain ⟨rfl, rfl⟩ := hi.unique hi'
      exact .inr (.inl ⟨object, rfl⟩)
    | list hi' hb =>
      obtain ⟨rfl, rfl⟩ := hi.unique hi'
      exact .inr (.inr ⟨_, _, hb, rfl⟩)
    | value hd => cases hd
  · rintro (hd | ⟨object, rfl⟩ | ⟨c, reported, hb, rfl⟩)
    · exact .item hi hd
    · exact .pair hi object
    · exact .list hi hb

/-! ## Deeds done -/

/-- Deeds done one after the other, with reports in between. -/
inductive Performed : List Deed → BuildState → BuildState → Prop
  | done (s : BuildState) : Performed [] s s
  | report {deeds : List Deed} {s s' : BuildState} (events : List Event) : Performed deeds (s.report events) s' →
      Performed deeds s s'
  | deed {deed : Deed} {deeds : List Deed} {s middle s' : BuildState} : deed.Ready s.collection →
      Runs deed.action s (.ok ()) middle → Performed deeds middle s' → Performed (deed :: deeds) s s'

theorem Performed.append {deeds deeds' : List Deed} {s'' : BuildState} (h : Performed deeds s s')
    (h' : Performed deeds' s' s'') : Performed (deeds ++ deeds') s s'' := by
  induction h with
  | done s => exact h'
  | report events _ ih => exact .report events (ih h')
  | deed ready run _ ih => exact .deed ready run (ih h')

/-- A successful run of the action does these deeds and no others. -/
structure Performs {α : Type} (does : Deed → Prop) (action : Build α) : Prop where
  performed : ∀ {s s' a}, Runs action s (.ok a) s' →
    ∃ deeds, Performed deeds s s' ∧ ∀ deed, deed ∈ deeds ↔ does deed

section Performs

variable {α β : Type} {did does : Deed → Prop}

theorem Performs.congr {action : Build α} (h : Performs did action) (same : ∀ deed, does deed ↔ did deed) :
    Performs does action where
  performed := fun run => by
    obtain ⟨deeds, performed, all⟩ := h.performed run
    exact ⟨deeds, performed, fun deed => (all deed).trans (same deed).symm⟩

/-- The second action has to do its deeds only for what the first one can end with. -/
theorem Performs.bind {action : Build α} {next : α → Build β} (first : Performs did action)
    (second : ∀ a, (∃ s s', Runs action s (.ok a) s') → Performs does (next a)) :
    Performs (fun deed => did deed ∨ does deed) (action >>= next) where
  performed := fun run => by
    obtain ⟨a, middle, run, run'⟩ := runs_bind_ok.1 run
    obtain ⟨deeds, performed, all⟩ := first.performed run
    obtain ⟨deeds', performed', all'⟩ := (second a ⟨_, middle, run⟩).performed run'
    refine ⟨deeds ++ deeds', performed.append performed', fun deed => ?_⟩
    rw [List.mem_append, all, all']

/-- An action that reports at most does nothing. -/
theorem performs_of_reports {action : Build α}
    (reports : ∀ {s s' a}, Runs action s (.ok a) s' → ∃ events, s' = s.report events) :
    Performs (fun _ => False) action where
  performed := fun run => by
    obtain ⟨events, rfl⟩ := reports run
    exact ⟨[], .report events (.done _), fun deed => by simp⟩

/-- What comes behind an action that does nothing. -/
theorem Performs.after {action : Build α} {next : α → Build β} (idle : Performs (fun _ => False) action)
    (h : ∀ a, (∃ s s', Runs action s (.ok a) s') → Performs does (next a)) : Performs does (action >>= next) :=
  (idle.bind h).congr fun deed => by simp

theorem performs_pure (a : α) : Performs (fun _ => False) (pure a : Build α) :=
  performs_of_reports fun run => ⟨[], by simp [(runs_pure.1 run).2, BuildState.report]⟩

/-- What fails does anything. -/
theorem performs_throw (e : GenerateError) : Performs does (throw e : Build α) where
  performed := fun run => by cases (runs_throw.1 run).1

/-- What comes behind a sequence and does nothing. -/
theorem Performs.before {action : Build α} {next : α → Build β} (h : Performs does action)
    (idle : ∀ a, Performs (fun _ => False) (next a)) : Performs does (action >>= next) :=
  (h.bind fun a _ => idle a).congr fun deed => by simp

theorem performs_fromExcept (value : Except GenerateError α) : Performs (fun _ => False) (fromExcept value) :=
  performs_of_reports fun run => ⟨[], by simp [(runs_fromExcept.1 run).2, BuildState.report]⟩

theorem performs_noteUnion (set : TypeSet) : Performs (fun _ => False) (noteUnion set) :=
  performs_of_reports fun run => (runs_noteUnion run).2

theorem performs_resolveFirst (set : TypeSet) : Performs (fun _ => False) (resolveFirst set) :=
  performs_of_reports fun run => (runs_resolveFirst run).2

theorem performs_valueObject (v : ValueObjects) (className space : String) (d : TypeDef) :
    Performs (fun _ => False) (valueObject v className space d) :=
  performs_of_reports fun run => by
    obtain ⟨events, -, rfl⟩ := runs_valueObject.1 run
    exact ⟨events, rfl⟩

/-- A deed that is always ready. -/
theorem performs_deed (deed : Deed) (ready : ∀ c, deed.Ready c) : Performs (· = deed) deed.action where
  performed := fun run => ⟨[deed], .deed (ready _) run (.done _), fun _ => List.mem_singleton⟩

theorem performs_add (m : ClassModel) : Performs (· = .value m) (add m) :=
  performs_deed (.value m) fun _ => trivial

theorem performs_addEntity (m : ClassModel) : Performs (· = .entity m) (addEntity m) :=
  performs_deed (.entity m) fun _ => trivial

/-- The pair is given behind an action that leaves the class for it. -/
theorem Performs.bind_rawArrays {action : Build Unit} {next : Build α} {fqcn : String} (first : Performs did action)
    (there : ∀ {s s'}, Runs action s (.ok ()) s' → s'.collection.contains fqcn = true) (last : Performs does next) :
    Performs (fun deed => did deed ∨ deed = .pair fqcn ∨ does deed)
      (action >>= fun _ => rawArrays fqcn >>= fun _ => next) where
  performed := fun run => by
    obtain ⟨_, _, run, further⟩ := runs_bind_ok.1 run
    obtain ⟨_, _, grown, further⟩ := runs_bind_ok.1 further
    obtain ⟨deeds, performed, all⟩ := first.performed run
    obtain ⟨deeds', performed', all'⟩ := last.performed further
    refine ⟨deeds ++ .pair fqcn :: deeds', performed.append (.deed (there run) grown performed'), fun deed => ?_⟩
    rw [List.mem_append, List.mem_cons, all, all']

/-- What is done with the class of a value object is to add it, changed or as it is. -/
theorem performs_valueObject_bind {className space : String} {d : TypeDef} {change : ClassModel → ClassModel}
    {next : ClassModel → Build α} (h : ∀ c, Performs (· = .value (change c)) (next c)) :
    Performs (fun deed => ∃ c reported, v.build className space d = .ok (c, reported) ∧ deed = .value (change c))
      (valueObject v className space d >>= next) := by
  refine (performs_valueObject v className space d).after fun c ran => ?_
  obtain ⟨_, _, run⟩ := ran
  obtain ⟨reported, hb, -⟩ := runs_valueObject.1 run
  refine (h c).congr fun deed => ?_
  constructor
  · rintro ⟨c', reported', hb', rfl⟩
    obtain ⟨rfl, -⟩ := Prod.mk.inj (Except.ok.inj (hb.symm.trans hb'))
    rfl
  · rintro rfl
    exact ⟨c, reported, hb, rfl⟩

end Performs

/-! ## One level -/

section Levels

variable (v : ValueObjects) (ambient : String)

def PerformsSet (set : TypeSet) : Prop := ∀ name space className,
  Performs (DoesSet v ambient name space className set) (buildSet v ambient (.entity name space) className set)

def PerformsDefinition (d : TypeDef) : Prop := ∀ name space className,
  Performs (Does v ambient name space className d) (buildDefinition v ambient (.entity name space) className d)

def PerformsProperties (properties : List (String × TypeSet)) : Prop := ∀ into,
  Performs (DoesProperties v ambient properties) (buildProperties v ambient properties into)

def PerformsProperty (d : TypeDef) : Prop := ∀ key,
  Performs (DoesProperty v ambient key d) (propertyClass v ambient key d)

end Levels

theorem performsSet {set : TypeSet} (h : ∀ d, sizeOf d < sizeOf set → PerformsDefinition v ambient d) :
    PerformsSet v ambient set := by
  intro name space className
  rw [buildSet]
  refine (performs_resolveFirst set).after fun found ran => ?_
  obtain ⟨_, _, run⟩ := ran
  have stands := (runs_resolveFirst run).1
  refine (h found.1 found.2 name space className).congr fun deed => ?_
  constructor
  · rintro ⟨d, hd, does⟩
    obtain rfl := Option.some.inj (stands.symm.trans hd)
    exact does
  · exact fun does => ⟨found.1, stands, does⟩

theorem performsDefinition_object (h : PerformsProperties v ambient properties) :
    PerformsDefinition v ambient (.object traits properties) := by
  intro name space className
  rw [buildDefinition]
  refine ((h _).bind fun m ran => ?_).congr fun deed => does_object_iff
  obtain ⟨_, _, run⟩ := ran
  obtain rfl := eq_of_runs_buildProperties run
  exact performs_addEntity _

theorem performsDefinition_array {items : List TypeSet} (h : ∀ set ∈ items, PerformsSet v ambient set) :
    PerformsDefinition v ambient (.array traits items) := by
  intro name space className
  rw [buildDefinition]
  refine (performs_fromExcept _).after fun item ran => ?_
  obtain ⟨_, _, run⟩ := ran
  obtain ⟨d, target, source, hi⟩ := itemType_ok.1 (runs_fromExcept.1 run).1.symm
  obtain rfl := hi.only
  refine (performs_resolveFirst _).after fun found ran => ?_
  obtain ⟨d', smaller⟩ := found
  obtain ⟨_, _, run⟩ := ran
  obtain rfl := Option.some.inj (hi.standsFor.symm.trans (runs_resolveFirst run).1)
  have items := h _ List.mem_cons_self (v.filters.className item.sourceName) (extractNamespace ambient target)
    item.sourceName
  have does : ∀ deed, DoesSet v ambient (v.filters.className item.sourceName) (extractNamespace ambient target)
      item.sourceName ⟨d, []⟩ deed ↔
      Does v ambient (v.filters.className item.sourceName) (extractNamespace ambient target) item.sourceName target deed := by
    intro deed
    unfold DoesSet
    rw [hi.standsFor]
    simp
  simp only
  split
  · rename_i object
    refine (items.bind_rawArrays (fun run => ?_) (performs_valueObject_bind fun c => performs_add _)).congr fun deed => ?_
    · obtain ⟨-, d', found, built⟩ := buildsSet_all v ambient (fun _ => True) ⟨d, []⟩
        (isTrimmed_extractNamespace ambient target) (fun _ _ => trivial) run
      obtain rfl := Option.some.inj (hi.standsFor.symm.trans found)
      rw [builtName_self] at built
      exact built.contains
    · rw [does_array_iff hi, does]
      simp [object]
  · rename_i single
    refine (items.bind fun _ _ => performs_valueObject_bind fun c => performs_add _).congr fun deed => ?_
    rw [does_array_iff hi, does]
    simp [single]

theorem performsDefinition_value (hd : IsScalar d) : PerformsDefinition v ambient d := by
  intro name space className
  cases d with
  | string | integer | number | boolean =>
    rw [buildDefinition]
    exact (performs_valueObject_bind performs_add).congr fun deed => does_value_iff hd
  | _ => cases hd

theorem performsDefinition_reference {pointer : String} {resolved : Option TypeSet} :
    PerformsDefinition v ambient (.reference traits pointer resolved) := by
  intro name space className
  rw [buildDefinition]
  exact performs_throw _

theorem performsProperties_nil : PerformsProperties v ambient [] := by
  intro into
  rw [buildProperties]
  exact (performs_pure into).congr fun deed => by simp [DoesProperties]

theorem performsProperties_cons {key : String} {set : TypeSet} {rest : List (String × TypeSet)}
    (first : PerformsProperty v ambient set.first) (others : PerformsProperties v ambient rest) :
    PerformsProperties v ambient ((key, set) :: rest) := by
  intro into
  rw [buildProperties]
  refine (performs_noteUnion set).after fun _ _ => ?_
  exact ((first key).bind fun fqcn _ => others _).congr fun deed => by simp [DoesProperties]

theorem performsProperty_reference {pointer : String} {inner : TypeSet} (h : PerformsSet v ambient inner) :
    PerformsProperty v ambient (.reference traits pointer (some inner)) := by
  intro key
  rw [propertyClass]
  exact (performs_noteUnion inner).after fun _ _ => (h _ _ _).before fun _ => performs_pure _

theorem performsProperty_dangling {pointer : String} : PerformsProperty v ambient (.reference traits pointer none) := by
  intro key
  rw [propertyClass]
  exact performs_throw _

/-- A definition that is no reference stands for itself. -/
theorem doesProperty_iff {key : String} (stands : standsFor? ⟨d, []⟩ = some d) (same : walked d = ⟨d, []⟩)
    (named : walkedName key d = key) : DoesProperty v ambient key d deed ↔
      Does v ambient (v.filters.className key) (extractNamespace ambient d) key d deed := by
  unfold DoesProperty DoesSet
  rw [same, named, stands]
  simp

theorem performsProperty_object (h : PerformsDefinition v ambient (.object traits properties)) :
    PerformsProperty v ambient (.object traits properties) := by
  intro key
  rw [propertyClass]
  exact ((h _ _ _).before fun _ => performs_pure _).congr fun deed => doesProperty_iff rfl rfl rfl

theorem performsProperty_array {items : List TypeSet} (h : PerformsDefinition v ambient (.array traits items)) :
    PerformsProperty v ambient (.array traits items) := by
  intro key
  rw [propertyClass]
  exact ((h _ _ _).before fun _ => performs_pure _).congr fun deed => doesProperty_iff rfl rfl rfl

theorem performsProperty_value (hd : IsScalar d) : PerformsProperty v ambient d := by
  intro key
  cases d with
  | string | integer | number | boolean =>
    rw [propertyClass]
    exact (performs_valueObject_bind fun m => (performs_add m).before fun _ => performs_pure _).congr fun deed =>
      (doesProperty_iff rfl rfl rfl).trans (does_value_iff hd)
  | _ => cases hd

/-! ## All levels -/

variable (v ambient)

theorem performs_levels : Levels (PerformsSet v ambient) (PerformsDefinition v ambient) (PerformsProperties v ambient)
    (PerformsProperty v ambient) where
  set := performsSet
  object := performsDefinition_object
  array := performsDefinition_array
  reference := performsDefinition_reference
  value := performsDefinition_value
  nil := performsProperties_nil
  cons := performsProperties_cons
  propertyObject := performsProperty_object
  propertyArray := performsProperty_array
  propertyReference := performsProperty_reference
  propertyDangling := performsProperty_dangling
  propertyValue := performsProperty_value

theorem performsSet_all (set : TypeSet) : PerformsSet v ambient set := (performs_levels v ambient).ofSet_all set

theorem performsDefinition_all (d : TypeDef) : PerformsDefinition v ambient d :=
  (performs_levels v ambient).ofDefinition_all d

theorem performsProperties_all (properties : List (String × TypeSet)) : PerformsProperties v ambient properties :=
  (performs_levels v ambient).ofProperties_all properties

/-! ## What deeds leave -/

section Left

variable {v : ValueObjects} {ambient : String} {name space className fqcn : String} {d : TypeDef} {deed : Deed}
  {deeds : List Deed} {s s' : BuildState} {c : Collection} {m made last : ClassModel}

/-- A class of the final collection was there before under its name, or a deed has added it, and it has gained
methods at most since. -/
def Stems (before : Collection) (deeds : List Deed) (fqcn : String) (m : ClassModel) : Prop :=
  ∃ origin, m = { origin with methods := m.methods } ∧ (before.get? fqcn = some origin ∨
    ∃ deed ∈ deeds, deed.added? = some origin ∧ origin.fqcn = fqcn)

/-- The entities and value objects that a build adds are orderly; entities have no methods yet. -/
def Deed.Proper : Deed → Prop
  | entity m => m.Orderly ∧ m.kind = .entity ∧ m.methods = []
  | value m => m.Orderly ∧ m.kind ≠ .entity
  | pair _ => True

theorem Does.proper (h : Does v ambient name space className d deed) : deed.Proper := by
  induction h with
  | entity => exact ⟨(assembled_foldl _ .start).orderly ClassModel.orderly_entity, kind_entityOf .., methods_entityOf ..⟩
  | property _ _ _ ih => exact ih
  | item _ _ ih => exact ih
  | pair => trivial
  | list hi hb =>
    obtain ⟨-, -, list⟩ := build_array hi hb
    refine ⟨(orderly_build hb).1.addImport, ?_⟩
    rw [ClassModel.kind_addImport]
    exact list.ne_entity
  | value hd hb =>
    obtain ⟨-, -, conversion, -, value⟩ := build_scalar hd hb
    exact ⟨(orderly_build hb).1, value.ne_entity⟩

namespace Deed

theorem mirrors (proper : deed.Proper) : Mirrors (fun c => deed.Ready c) deed.action := by
  cases deed with
  | entity m => exact (mirrors_addEntity proper.1 proper.2.1 proper.2.2).weaken
  | value m => exact (mirrors_add proper.1 proper.2).weaken
  | pair fqcn => exact mirrors_rawArrays

/-- A class that is added in silence stands under its name, with the pair of an earlier one at most. -/
theorem exists_added (proper : deed.Proper) (run : Runs deed.action s (.ok ()) s')
    (silent : Collection.Silent s'.events) (hs : Sound s.collection) (adds : deed.added? = some made) :
    ∃ last, s'.collection.get? made.fqcn = some last ∧ Matures made last := by
  cases deed with
  | entity m =>
    obtain rfl := Option.some.inj adds
    obtain ⟨-, rfl⟩ := runs_addEntity.1 run
    exact ⟨_, get?_addEntity s m, matures_of_paired
      (paired_of_sound hs proper.2.1 proper.2.2 silent.of_append_right.addEvents_eq)⟩
  | value m =>
    obtain rfl := Option.some.inj adds
    obtain ⟨-, rfl⟩ := runs_add.1 run
    exact ⟨m, Collection.get?_add_self, .refl m⟩
  | pair fqcn => cases adds

/-- The class that the pair was given to does not lack it any more. -/
theorem exists_of_pair {fqcn : String} (ready : (pair fqcn).Ready s.collection)
    (run : Runs (pair fqcn).action s (.ok ()) s') :
    ∃ m, s'.collection.get? fqcn = some m ∧ lacksRawArray m = false := by
  obtain ⟨c, grown, rfl⟩ := runs_rawArrays.1 run
  obtain ⟨before, there⟩ := Collection.contains_iff.1 ready
  obtain ⟨after, found, -⟩ := (grows_of_addRawArrays grown).exists_paired there
  have none := addRawArrays_done s.collection [fqcn] (congrArg Prod.fst grown) fqcn List.mem_cons_self after
  rw [grown] at none
  exact ⟨after, found, none found⟩

theorem stems (run : Runs deed.action s (.ok ()) s') (h : s'.collection.get? fqcn = some m) :
    Stems s.collection [deed] fqcn m := by
  cases deed with
  | entity made =>
    obtain ⟨-, rfl⟩ := runs_addEntity.1 run
    rcases Collection.of_get?_add h with ⟨rfl, rfl⟩ | ⟨-, h⟩
    · exact ⟨made, keepRawArray_eq _ _, .inr ⟨_, List.mem_cons_self, rfl, (fqcn_keepRawArray _ _).symm⟩⟩
    · exact ⟨m, rfl, .inl h⟩
  | value made =>
    obtain ⟨-, rfl⟩ := runs_add.1 run
    rcases Collection.of_get?_add h with ⟨rfl, rfl⟩ | ⟨-, h⟩
    · exact ⟨_, rfl, .inr ⟨_, List.mem_cons_self, rfl, rfl⟩⟩
    · exact ⟨m, rfl, .inl h⟩
  | pair other =>
    obtain ⟨c, grown, rfl⟩ := runs_rawArrays.1 run
    obtain ⟨before, there, rfl | ⟨-, lines, rfl⟩⟩ := (grows_of_addRawArrays grown).exists_before h
    · exact ⟨m, rfl, .inl there⟩
    · exact ⟨before, rfl, .inl there⟩

end Deed

/-- Every class stems from what was there before or from a deed. -/
theorem Performed.stems (h : Performed deeds s s') (hm : s'.collection.get? fqcn = some m) :
    Stems s.collection deeds fqcn m := by
  induction h with
  | done s => exact ⟨m, rfl, .inl hm⟩
  | report events _ ih => exact ih hm
  | @deed deed deeds s middle s' ready run rest ih =>
    obtain ⟨origin, same, there | ⟨later, hl, adds, he⟩⟩ := ih hm
    · obtain ⟨first, same', origins⟩ := deed.stems run there
      refine ⟨first, ?_, origins.imp_right fun ⟨added, ha, adds, he⟩ =>
        ⟨added, List.mem_singleton.1 ha ▸ List.mem_cons_self, adds, he⟩⟩
      rw [same, same']
    · exact ⟨origin, same, .inr ⟨later, List.mem_cons_of_mem _ hl, adds, he⟩⟩

theorem Matures.lacks (h : Matures m last) (hm : m.Orderly) (none : lacksRawArray m = false) :
    lacksRawArray last = false := by
  obtain ⟨m₁, paired, same⟩ := h
  obtain rfl : m₁ = m := paired.resolve_right fun ⟨lacks, _⟩ => by simp [none] at lacks
  rw [← same.lacks_eq hm, none]

theorem Deed.Proper.orderly (h : deed.Proper) (adds : deed.added? = some made) : made.Orderly := by
  cases deed with
  | entity m =>
    obtain rfl := Option.some.inj adds
    exact h.1
  | value m =>
    obtain rfl := Option.some.inj adds
    exact h.1
  | pair fqcn => cases adds

/-- The classes that deeds have added are there in later forms, and the classes that they have given the pair to do
not lack it. -/
structure Accomplished (deeds : List Deed) (final : Collection) : Prop where
  added : ∀ {deed made}, deed ∈ deeds → deed.added? = some made →
    ∃ last, final.get? made.fqcn = some last ∧ Matures made last
  paired : ∀ {fqcn}, .pair fqcn ∈ deeds → ∃ last, final.get? fqcn = some last ∧ lacksRawArray last = false

theorem Performed.silent (h : Performed deeds s s') (proper : ∀ deed ∈ deeds, deed.Proper)
    (silent : Collection.Silent s'.events) : Collection.Silent s.events := by
  induction h with
  | done s => exact silent
  | report events _ ih => exact (ih proper silent).of_append_left
  | deed ready run _ ih =>
    obtain ⟨first, others⟩ := List.forall_mem_cons.1 proper
    exact (Deed.mirrors first).silent run ready (ih others silent)

/-- Silent deeds leave a sound collection sound, with all classes in later forms, and are accomplished. -/
theorem Performed.sound (h : Performed deeds s s') (proper : ∀ deed ∈ deeds, deed.Proper)
    (silent : Collection.Silent s'.events) (hs : Sound s.collection) :
    Sound s'.collection ∧ MaturesInto s.collection s'.collection ∧ Accomplished deeds s'.collection := by
  induction h with
  | done s => exact ⟨hs, .refl _, ⟨fun hm => absurd hm List.not_mem_nil, fun hm => absurd hm List.not_mem_nil⟩⟩
  | report events _ ih => exact ih proper silent hs
  | @deed deed deeds s middle s' ready run rest ih =>
    obtain ⟨first, others⟩ := List.forall_mem_cons.1 proper
    have still := rest.silent others silent
    obtain ⟨sound, matures⟩ := (Deed.mirrors first).sound run ready still hs
    obtain ⟨sound', matures', later⟩ := ih others silent sound
    refine ⟨sound', matures.trans matures' hs.toAllOrderly, ⟨?_, ?_⟩⟩
    · intro added made hm adds
      rcases List.mem_cons.1 hm with rfl | hm
      · obtain ⟨there, ht, before⟩ := Deed.exists_added first run still hs adds
        obtain ⟨last, hl, after⟩ := matures' _ _ ht
        exact ⟨last, hl, before.trans after (first.orderly adds)⟩
      · exact later.added hm adds
    · intro fqcn hm
      rcases List.mem_cons.1 hm with rfl | hm
      · obtain ⟨there, ht, none⟩ := Deed.exists_of_pair ready run
        obtain ⟨last, hl, after⟩ := matures' _ _ ht
        exact ⟨last, hl, after.lacks (sound.orderly ht) none⟩
      · exact later.paired hm

end Left

end SchemaClasses
