/-
What building a type set does, step by step. Every way through the mutual functions that build classes
is a sequence of the few steps in `Step`, so that what one step keeps a whole build keeps, and each
function ends with the class that it names in the collection.
-/
import SchemaClasses.Class.Graph
import SchemaClasses.Proofs.Class.Growth
import SchemaClasses.Proofs.Class.Name
import SchemaClasses.Proofs.Class.ValueObject
import Mathlib.Logic.Relation

namespace SchemaClasses

open Template

/-! ## What is walked -/

/-- The definition that a set stands for: its first alternative, behind at most one reference. -/
def standsFor? (set : TypeSet) : Option TypeDef :=
  match set.first with
  | .reference _ _ none => none
  | .reference _ _ (some inner) =>
    match inner.first with
    | .reference .. => none
    | d => some d
  | d => some d

/-- The set that the class of a property is built from. -/
def walked : TypeDef → TypeSet
  | .reference _ _ (some inner) => inner
  | d => ⟨d, []⟩

/-- A property is met on the way through a set: in its object, in the items of its list, or further
down. -/
inductive Meets : TypeSet → String × TypeSet → Prop
  | property {set : TypeSet} {traits : Traits} {properties : List (String × TypeSet)} {entry : String × TypeSet} :
      standsFor? set = some (.object traits properties) → entry ∈ properties → Meets set entry
  | deeper {set : TypeSet} {traits : Traits} {properties : List (String × TypeSet)} {entry other : String × TypeSet} :
      standsFor? set = some (.object traits properties) → entry ∈ properties →
      Meets (walked entry.2.first) other → Meets set other
  | item {set items : TypeSet} {traits : Traits} {rest : List TypeSet} {entry : String × TypeSet} :
      standsFor? set = some (.array traits (items :: rest)) → Meets items entry → Meets set entry

/-! ## Names -/

section Names

variable (v : ValueObjects) (ambient : String)

/-- The name that the class of a property is expected under. -/
def promisedName (key : String) : TypeDef → String
  | .reference _ pointer (some inner) => qualify (extractNamespace ambient inner.first)
      (v.filters.className (nameOr inner.first.name (targetName pointer)))
  | d => qualify (extractNamespace ambient d) (v.filters.className key)

/-- The name that the class of a definition is added under, `entity` being the name for an object. -/
def builtName (entity className : String) : TypeDef → String
  | .object .. => entity
  | d => qualify (extractNamespace ambient d) (v.filters.className className)

/-- The name that the class of a property is added under. -/
def addedName (key : String) : TypeDef → String
  | .reference traits pointer (some inner) =>
    let promised := promisedName v ambient key (.reference traits pointer (some inner))
    ((standsFor? inner).map
      (builtName v ambient promised (nameOr inner.first.name (targetName pointer)))).getD promised
  | d => promisedName v ambient key d

/-- An entity with one more property. -/
def withSchemaProperty (into : ClassModel) (entry : String × TypeSet) : ClassModel :=
  let fqcn := promisedName v ambient entry.1 entry.2.first
  (into.addImport fqcn).addProperty {
    name := v.filters.propertyName entry.1
    sourceName := some entry.1
    typeHint := propertyTypeHint (shortName fqcn) entry.2.first }

/-- The entity of an object. -/
def entityOf (name space : String) (properties : List (String × TypeSet)) : ClassModel :=
  properties.foldl (withSchemaProperty v ambient) (.entity name space)

end Names

/-! ## Steps -/

/-- A state with one more class. -/
def BuildState.add (s : BuildState) (c : ClassModel) : BuildState :=
  ⟨s.collection.add c, s.events ++ s.collection.addEvents c⟩

/-- A state in which more has been reported. -/
def BuildState.report (s : BuildState) (events : List Event) : BuildState :=
  { s with events := s.events ++ events }

/-- An item class that a list can make its items with. -/
def HasItemClass (c : Collection) (fqcn : String) (conversion : Conversion) : Prop :=
  ∃ m, c.get? fqcn = some m ∧ m.kind.conversion? = some conversion ∧ lacksRawArray m = false

section Steps

variable (v : ValueObjects) (ambient : String) (met : String × TypeSet → Prop)

/-- One step of building: something is reported, a class is added, or entities gain the raw array
form. -/
inductive Step : BuildState → BuildState → Prop
  | report {s : BuildState} (events : List Event) : Step s (s.report events)
  | value {s : BuildState} {c : ClassModel} {className : String} {d : TypeDef} {reported : List Event} :
      IsScalar d → v.build (v.filters.className className) (extractNamespace ambient d) d = .ok (c, reported) →
      Step s (s.add c)
  | list {s : BuildState} {c : ClassModel} {className : String} {traits : Traits} {items : List TypeSet}
      {item : ItemType} {d target : TypeDef} {source : String} {reported : List Event} :
      HasItems items item d target source →
      v.build (v.filters.className className) (extractNamespace ambient (.array traits items))
        (.array traits items) = .ok (c, reported) →
      HasItemClass s.collection (qualify (extractNamespace ambient target) (v.filters.className item.sourceName))
        item.conversion →
      Step s (s.add (c.addImport (qualify (extractNamespace ambient target)
        (v.filters.className item.sourceName))))
  | entity {s : BuildState} {name space : String} {properties : List (String × TypeSet)} :
      IsTrimmed space → (∀ entry ∈ properties, met entry ∧
        s.collection.contains (addedName v ambient entry.1 entry.2.first) = true) →
      Step s (s.add (Build.keepRawArray (s.collection.get? (qualify space name))
        (entityOf v ambient name space properties)))
  | pair {s : BuildState} {fqcn : String} {c : Collection} :
      addRawArrays s.collection [fqcn] = (.ok (), c) → Step s { s with collection := c }

/-- Any number of steps. -/
abbrev Steps : BuildState → BuildState → Prop := Relation.ReflTransGen (Step v ambient met)

end Steps

/-! ## What steps keep -/

variable {v : ValueObjects} {ambient : String} {met : String × TypeSet → Prop} {s s' : BuildState}

/-- What every step keeps, any number of steps keep. -/
theorem Steps.keep {P : BuildState → Prop} (h : Steps v ambient met s s')
    (step : ∀ {s s'}, Step v ambient met s s' → P s → P s') (hs : P s) : P s' := by
  induction h with
  | refl => exact hs
  | tail _ last ih => exact step last ih

theorem Grows.contains_eq {c c' : Collection} (h : Grows c c') (fqcn : String) :
    c'.contains fqcn = c.contains fqcn := by
  have := h fqcn
  unfold Collection.contains Entries.hasName
  unfold Collection.get? at this
  generalize c.classes.at? fqcn = a, c'.classes.at? fqcn = b at this
  cases this <;> rfl

theorem Step.contains {fqcn : String} (h : Step v ambient met s s') (hc : s.collection.contains fqcn = true) :
    s'.collection.contains fqcn = true := by
  cases h with
  | report events => exact hc
  | value | list | entity => exact Collection.contains_add.trans (by rw [hc, Bool.or_true])
  | pair ha => exact ((grows_of_addRawArrays ha).contains_eq fqcn).trans hc

theorem Steps.contains {fqcn : String} (h : Steps v ambient met s s')
    (hc : s.collection.contains fqcn = true) : s'.collection.contains fqcn = true :=
  h.keep (·.contains) hc

/-! ## Entities -/

/-- An entity is put together from its properties. -/
theorem assembled_foldl {start : ClassModel} : ∀ (properties : List (String × TypeSet)) {into : ClassModel},
    Assembled start into → Assembled start (properties.foldl (withSchemaProperty v ambient) into)
  | [], _, h => h
  | _ :: rest, _, h => by
    rw [List.foldl_cons]
    exact assembled_foldl rest ((h.addImport _).addProperty _)

theorem withSchemaProperty_eq (into : ClassModel) (entry : String × TypeSet) :
    withSchemaProperty v ambient into entry = { into with
      imports := (withSchemaProperty v ambient into entry).imports
      properties := (withSchemaProperty v ambient into entry).properties } := by
  unfold withSchemaProperty ClassModel.addProperty
  simp only
  rw [ClassModel.addImport_eq]

/-- Properties and imports are all that an entity gains. -/
theorem foldl_withSchemaProperty_eq : ∀ (properties : List (String × TypeSet)) (into : ClassModel),
    properties.foldl (withSchemaProperty v ambient) into = { into with
      imports := (properties.foldl (withSchemaProperty v ambient) into).imports
      properties := (properties.foldl (withSchemaProperty v ambient) into).properties }
  | [], _ => rfl
  | entry :: rest, into => by
    rw [List.foldl_cons, foldl_withSchemaProperty_eq rest, withSchemaProperty_eq]

theorem fqcn_entityOf (name space : String) (properties : List (String × TypeSet)) :
    (entityOf v ambient name space properties).fqcn = qualify space name := by
  unfold entityOf
  rw [foldl_withSchemaProperty_eq]
  rfl

theorem kind_entityOf (name space : String) (properties : List (String × TypeSet)) :
    (entityOf v ambient name space properties).kind = .entity := by
  unfold entityOf
  rw [foldl_withSchemaProperty_eq]
  rfl

theorem methods_entityOf (name space : String) (properties : List (String × TypeSet)) :
    (entityOf v ambient name space properties).methods = [] := by
  unfold entityOf
  rw [foldl_withSchemaProperty_eq]
  rfl

theorem keepRawArray_eq (previous : Option ClassModel) (m : ClassModel) : Build.keepRawArray previous m =
    { m with methods := (Build.keepRawArray previous m).methods } := by
  cases previous with
  | none => rfl
  | some earlier => exact ClassModel.addMethods_eq _ m

theorem assembled_keepRawArray (previous : Option ClassModel) (m : ClassModel) :
    Assembled m (Build.keepRawArray previous m) := by
  cases previous with
  | none => exact .start
  | some earlier => exact .addMethods _ .start

theorem tidy_entityOf (name space : String) (properties : List (String × TypeSet)) :
    (entityOf v ambient name space properties).Tidy :=
  (assembled_foldl properties .start).tidy ClassModel.tidy_entity

/-- A method of an entity is taken over from the class that was there before. -/
theorem exists_of_hasMethod {previous : Option ClassModel} {name space method : String}
    {properties : List (String × TypeSet)}
    (h : (Build.keepRawArray previous (entityOf v ambient name space properties)).hasMethod method = true) :
    ∃ earlier, previous = some earlier := by
  cases previous with
  | none =>
    have h : (entityOf v ambient name space properties).methods.hasName method = true := h
    rw [methods_entityOf] at h
    cases h
  | some earlier => exact ⟨earlier, rfl⟩

section Kept

variable (previous : Option ClassModel) (m : ClassModel)

@[simp] theorem kind_keepRawArray : (Build.keepRawArray previous m).kind = m.kind := by rw [keepRawArray_eq]

@[simp] theorem fqcn_keepRawArray : (Build.keepRawArray previous m).fqcn = m.fqcn := by
  rw [keepRawArray_eq]
  rfl

@[simp] theorem properties_keepRawArray : (Build.keepRawArray previous m).properties = m.properties := by
  rw [keepRawArray_eq]

end Kept

/-! ## Runs of the single actions -/

namespace Build

variable {m : ClassModel} {done : Except GenerateError Unit}

theorem runs_report {events : List Event} : Runs (report events) s done s' ↔
    done = .ok () ∧ s' = s.report events :=
  runs_modify

theorem runs_add : Runs (add m) s done s' ↔ done = .ok () ∧ s' = s.add m := runs_modify

theorem runs_fromExcept {α : Type} {value outcome : Except GenerateError α} :
    Runs (fromExcept value) s outcome s' ↔ outcome = value ∧ s' = s := by
  cases value with
  | ok a => exact runs_pure
  | error e => exact runs_throw

theorem runs_valueObject {className space : String} {d : TypeDef} :
    Runs (valueObject v className space d) s (.ok m) s' ↔
      ∃ events, v.build className space d = .ok (m, events) ∧ s' = s.report events := by
  unfold valueObject
  constructor
  · intro h
    simp only [runs_bind_ok, runs_fromExcept, runs_report, runs_pure] at h
    obtain ⟨⟨_, events⟩, _, ⟨hv, rfl⟩, _, _, ⟨-, rfl⟩, ⟨⟩, rfl⟩ := h
    exact ⟨events, hv.symm, rfl⟩
  · rintro ⟨events, hv, rfl⟩
    exact runs_bind_ok.2 ⟨_, _, runs_fromExcept.2 ⟨hv.symm, rfl⟩, runs_bind_ok.2
      ⟨_, _, runs_report.2 ⟨rfl, rfl⟩, runs_pure.2 ⟨rfl, rfl⟩⟩⟩

theorem runs_rawArrays {fqcn : String} : Runs (rawArrays fqcn) s (.ok ()) s' ↔
    ∃ c, addRawArrays s.collection [fqcn] = (.ok (), c) ∧ s' = { s with collection := c } := by
  unfold rawArrays
  constructor
  · intro h
    simp only [runs_bind_ok, runs_get, runs_modify, runs_fromExcept] at h
    obtain ⟨_, _, ⟨⟨⟩, rfl⟩, _, _, ⟨-, rfl⟩, ho, rfl⟩ := h
    exact ⟨_, Prod.ext ho.symm rfl, rfl⟩
  · rintro ⟨c, hc, rfl⟩
    refine runs_bind_ok.2 ⟨_, _, runs_get.2 ⟨rfl, rfl⟩, ?_⟩
    rw [hc]
    exact runs_bind_ok.2 ⟨_, _, runs_modify.2 ⟨rfl, rfl⟩, runs_fromExcept.2 ⟨rfl, rfl⟩⟩

theorem runs_noteUnion {set : TypeSet} (h : Runs (noteUnion set) s done s') :
    done = .ok () ∧ ∃ events, s' = s.report events := by
  unfold noteUnion at h
  split at h
  · obtain ⟨hd, hs⟩ := runs_report.1 h
    exact ⟨hd, _, hs⟩
  · obtain ⟨hd, hs⟩ := runs_pure.1 h
    exact ⟨hd, [], hs.trans (by simp [BuildState.report])⟩

/-- What a reference leads to is found behind one reference only. -/
theorem runs_throughReference {set : TypeSet} {r : { d : TypeDef // sizeOf d < sizeOf set }}
    (h : Runs (throughReference set) s (.ok r) s') :
    r.val = set.first ∧ (∀ traits pointer resolved, r.val ≠ .reference traits pointer resolved) ∧
      ∃ events, s' = s.report events := by
  obtain ⟨first, others⟩ := set
  cases first with
  | reference traits pointer resolved =>
    unfold throughReference at h
    simp only [runs_bind_ok, runs_throw] at h
    obtain ⟨_, _, _, ⟨⟩, _⟩ := h
  | _ =>
    unfold throughReference at h
    simp only [runs_bind_ok, runs_pure] at h
    obtain ⟨_, _, hn, ⟨⟩, rfl⟩ := h
    refine ⟨rfl, ?_, (runs_noteUnion hn).2⟩
    rintro _ _ _ ⟨⟩

theorem runs_resolveFirst {set : TypeSet} {r : { d : TypeDef // sizeOf d < sizeOf set }}
    (h : Runs (resolveFirst set) s (.ok r) s') :
    standsFor? set = some r.val ∧ ∃ events, s' = s.report events := by
  obtain ⟨first, others⟩ := set
  cases first with
  | reference traits pointer resolved =>
    cases resolved with
    | none =>
      unfold resolveFirst at h
      simp only [runs_bind_ok, runs_throw] at h
      obtain ⟨_, _, _, ⟨⟩, _⟩ := h
    | some inner =>
      unfold resolveFirst at h
      simp only [runs_bind_ok, runs_pure] at h
      -- behind the first reference there is no second one, or the run would have failed
      obtain ⟨_, _, hn, ⟨d, smaller⟩, _, ht, ⟨⟩, rfl⟩ := h
      obtain ⟨rfl, single, events', rfl⟩ := runs_throughReference ht
      obtain ⟨-, events, rfl⟩ := runs_noteUnion hn
      refine ⟨?_, events ++ events', by simp [BuildState.report]⟩
      unfold standsFor?
      simp only at single ⊢
  | _ =>
    unfold resolveFirst at h
    simp only [runs_bind_ok, runs_pure] at h
    obtain ⟨_, _, hn, ⟨⟩, rfl⟩ := h
    exact ⟨rfl, (runs_noteUnion hn).2⟩

/-- An entity is reported and added, with the pair of the class that stood under its name. -/
theorem runs_addEntity {m : ClassModel} : Runs (addEntity m) s done s' ↔ done = .ok () ∧
    s' = (s.report [.entityBuilt m.fqcn m.properties.length]).add
      (keepRawArray (s.collection.get? m.fqcn) m) := by
  unfold addEntity
  rw [runs_bind]
  simp only [runs_get, Except.ok.injEq, reduceCtorEq, false_and, exists_false, or_false]
  constructor
  · rintro ⟨_, _, ⟨rfl, rfl⟩, h⟩
    rw [fqcn_keepRawArray, properties_keepRawArray, runs_bind] at h
    simp only [runs_report, runs_add, reduceCtorEq, false_and, exists_false, or_false] at h
    obtain ⟨_, _, ⟨-, rfl⟩, h⟩ := h
    exact h
  · rintro ⟨rfl, rfl⟩
    refine ⟨_, _, ⟨rfl, rfl⟩, ?_⟩
    rw [fqcn_keepRawArray, properties_keepRawArray]
    exact runs_bind_ok.2 ⟨_, _, runs_report.2 ⟨rfl, rfl⟩, runs_add.2 ⟨rfl, rfl⟩⟩

end Build

end SchemaClasses
