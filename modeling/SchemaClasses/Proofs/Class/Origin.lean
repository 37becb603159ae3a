/-
Where classes come from. Every class of a build was made for a definition that the build came to, and all
that it has gained since are methods and constants.
-/
import SchemaClasses.Proofs.Class.Rebuild

namespace SchemaClasses

open Build Template

/-! ## What a build comes to -/

/-- The definitions that classes are built for on the way through a set. -/
inductive Builds : TypeSet → TypeDef → Prop
  | here {set : TypeSet} {d : TypeDef} : standsFor? set = some d → Builds set d
  | property {set : TypeSet} {traits : Traits} {properties : List (String × TypeSet)} {entry : String × TypeSet}
      {d : TypeDef} : standsFor? set = some (.object traits properties) → entry ∈ properties →
      Builds (walked entry.2.first) d → Builds set d
  | item {set items : TypeSet} {traits : Traits} {rest : List TypeSet} {d : TypeDef} :
      standsFor? set = some (.array traits (items :: rest)) → Builds items d → Builds set d

theorem Builds.of_standsFor {set : TypeSet} {d found : TypeDef} (h : standsFor? set = some d)
    (hb : Builds ⟨d, []⟩ found) : Builds set found := by
  have single := standsFor?_single h
  cases hb with
  | here hd =>
    obtain rfl := Option.some.inj (single.symm.trans hd)
    exact .here h
  | property hd he hb =>
    obtain rfl := Option.some.inj (single.symm.trans hd)
    exact .property h he hb
  | item hd hb =>
    obtain rfl := Option.some.inj (single.symm.trans hd)
    exact .item h hb

/-! ## Classes as they are made -/

section Made

variable (v : ValueObjects) (ambient : String) (built : TypeDef → Prop)

/-- A class as it is made for a definition. -/
inductive Made : ClassModel → Prop
  | entity {name space : String} {traits : Traits} {properties : List (String × TypeSet)} : IsTrimmed space →
      built (.object traits properties) → Made (entityOf v ambient name space properties)
  | value {c : ClassModel} {className : String} {d : TypeDef} {reported : List Event} : IsScalar d → built d →
      v.build (v.filters.className className) (extractNamespace ambient d) d = .ok (c, reported) → Made c
  | list {c : ClassModel} {className : String} {traits : Traits} {items : List TypeSet} {item : ItemType}
      {d target : TypeDef} {source : String} {reported : List Event} : HasItems items item d target source →
      built (.array traits items) → v.build (v.filters.className className)
        (extractNamespace ambient (.array traits items)) (.array traits items) = .ok (c, reported) →
      Made (c.addImport (qualify (extractNamespace ambient target) (v.filters.className item.sourceName)))

end Made

/-- A class that has gained methods and constants at most since it was made. -/
structure Gained (made m : ClassModel) : Prop where
  same : m = { made with methods := m.methods, constants := m.constants, typed := m.typed }
  keeps : ∀ {name method}, made.methods.at? name = some method → m.methods.at? name = some method

theorem Gained.refl (m : ClassModel) : Gained m m := ⟨rfl, id⟩

theorem Gained.trans {made m m' : ClassModel} (h : Gained made m) (h' : Gained m m') : Gained made m' := by
  refine ⟨?_, fun hm => h'.keeps (h.keeps hm)⟩
  rw [h'.same, h.same]

variable {v : ValueObjects} {ambient : String} {built : TypeDef → Prop} {c : Collection} {m made : ClassModel}
  {fqcn : String}

/-- Entities are made for objects. -/
theorem Made.exists_object (h : Made v ambient built made) (hk : made.kind = .entity) :
    ∃ name space traits properties, built (.object traits properties) ∧
      made = entityOf v ambient name space properties := by
  cases h with
  | @entity name space traits properties _ hb => exact ⟨name, space, traits, properties, hb, rfl⟩
  | value hd _ hb =>
    obtain ⟨-, -, conversion, -, value⟩ := build_scalar hd hb
    exact absurd hk value.ne_entity
  | list hi _ hb =>
    obtain ⟨-, -, list⟩ := build_array hi hb
    rw [ClassModel.kind_addImport, list.kind] at hk
    cases hk

/-- Entities are made without methods. -/
theorem Made.methods_eq (h : Made v ambient built made) (hk : made.kind = .entity) : made.methods = [] := by
  obtain ⟨name, space, traits, properties, -, rfl⟩ := h.exists_object hk
  exact methods_entityOf name space properties

/-- What is done to the methods of an entity takes none away that it was made with. -/
theorem Gained.of_entity (h : Made v ambient built made) (hk : made.kind = .entity)
    (same : m = { made with methods := m.methods, constants := m.constants, typed := m.typed }) : Gained made m := by
  refine ⟨same, fun hm => ?_⟩
  rw [h.methods_eq hk] at hm
  cases hm

/-- Every class was made for a definition and has gained members at most. -/
def Originates (v : ValueObjects) (ambient : String) (built : TypeDef → Prop) (c : Collection) : Prop :=
  ∀ fqcn m, c.get? fqcn = some m → ∃ made, Made v ambient built made ∧ Gained made m

theorem originates_empty : Originates v ambient built {} := fun _ _ h => by cases h

theorem Originates.add (h : Originates v ambient built c) (hm : Made v ambient built made) (gained : Gained made m) :
    Originates v ambient built (c.add m) := by
  intro fqcn found hf
  rcases Collection.of_get?_add hf with ⟨-, rfl⟩ | ⟨-, hf⟩
  · exact ⟨made, hm, gained⟩
  · exact h fqcn found hf

theorem Originates.gain (h : Originates v ambient built c) (hm : c.get? fqcn = some m)
    (lacks : lacksRawArray m = true) (lines : List PropertyLines) :
    Originates v ambient built (c.adjust fqcn (·.withRawArray lines)) := by
  intro other found hf
  rcases Collection.of_get?_adjust hf with ⟨-, before, hb, rfl⟩ | ⟨-, hf⟩
  · obtain rfl := Option.some.inj (hm.symm.trans hb)
    obtain ⟨made, origin, gained⟩ := h fqcn m hm
    have entity : made.kind = .entity := by
      have kind := entity_of_lacks lacks
      rwa [gained.same] at kind
    refine ⟨made, origin, .of_entity origin entity ?_⟩
    unfold ClassModel.withRawArray ClassModel.addMethod
    rw [gained.same]
  · exact h other found hf

theorem originates_addRawArrays (h : Originates v ambient built c) (pending : List String) :
    Originates v ambient built (addRawArrays c pending).2 :=
  addRawArrays_keeps (fun hf hl _ originates => originates.gain hf hl _) c pending h

/-! ## Actions that maintain a property of the collection -/

section Maintains

variable {α β : Type} {P : Collection → Prop} {s s' : BuildState}

/-- A successful run leaves a collection with the property if it begins with one. -/
structure Maintains (P : Collection → Prop) (action : Build α) : Prop where
  keeps : ∀ {s s' a}, Runs action s (.ok a) s' → P s.collection → P s'.collection

theorem maintains_of_still {action : Build α}
    (still : ∀ {s s' a}, Runs action s (.ok a) s' → s'.collection = s.collection) : Maintains P action := by
  refine ⟨fun run hs => ?_⟩
  rw [still run]
  exact hs

theorem maintains_pure (a : α) : Maintains P (pure a : Build α) :=
  maintains_of_still fun run => by rw [(runs_pure.1 run).2]

theorem maintains_throw (e : GenerateError) : Maintains P (throw e : Build α) := by
  refine ⟨fun run _ => ?_⟩
  cases (runs_throw.1 run).1

/-- The second action has to maintain the property only for what the first one can end with. -/
theorem Maintains.bind {action : Build α} {next : α → Build β} (first : Maintains P action)
    (second : ∀ a, (∃ s s', Runs action s (.ok a) s') → Maintains P (next a)) : Maintains P (action >>= next) := by
  refine ⟨fun run hs => ?_⟩
  obtain ⟨a, middle, run, run'⟩ := runs_bind_ok.1 run
  exact (second a ⟨_, middle, run⟩).keeps run' (first.keeps run hs)

theorem maintains_fromExcept (value : Except GenerateError α) : Maintains P (fromExcept value) :=
  maintains_of_still fun run => by rw [(runs_fromExcept.1 run).2]

theorem maintains_noteUnion (set : TypeSet) : Maintains P (noteUnion set) := by
  refine maintains_of_still fun run => ?_
  obtain ⟨-, events, rfl⟩ := runs_noteUnion run
  rfl

theorem maintains_resolveFirst (set : TypeSet) : Maintains P (resolveFirst set) := by
  refine maintains_of_still fun run => ?_
  obtain ⟨-, events, rfl⟩ := runs_resolveFirst run
  rfl

theorem maintains_valueObject (v : ValueObjects) (className space : String) (d : TypeDef) :
    Maintains P (valueObject v className space d) := by
  refine maintains_of_still fun run => ?_
  obtain ⟨events, -, rfl⟩ := runs_valueObject.1 run
  rfl

theorem maintains_add (h : ∀ c, P c → P (c.add m)) : Maintains P (add m) := by
  refine ⟨fun run hs => ?_⟩
  obtain ⟨-, rfl⟩ := runs_add.1 run
  exact h _ hs

theorem maintains_addEntity (h : ∀ c previous, P c → P (c.add (keepRawArray previous m))) :
    Maintains P (addEntity m) := by
  refine ⟨fun run hs => ?_⟩
  obtain ⟨-, rfl⟩ := runs_addEntity.1 run
  exact h _ _ hs

theorem maintains_rawArrays {fqcn : String} : Maintains (Originates v ambient built) (rawArrays fqcn) := by
  refine ⟨fun run hs => ?_⟩
  obtain ⟨c, grown, rfl⟩ := runs_rawArrays.1 run
  have kept := originates_addRawArrays hs [fqcn]
  rwa [grown] at kept

end Maintains

/-! ## One level -/

section Levels

variable (v : ValueObjects) (ambient : String) (built : TypeDef → Prop)

def OriginatesSet (set : TypeSet) : Prop :=
  ∀ {name space className : String}, IsTrimmed space → (∀ d, Builds set d → built d) →
    Maintains (Originates v ambient built) (buildSet v ambient (.entity name space) className set)

def OriginatesDefinition (d : TypeDef) : Prop :=
  ∀ {name space className : String}, IsTrimmed space → (∀ d', Builds ⟨d, []⟩ d' → built d') →
    Maintains (Originates v ambient built) (buildDefinition v ambient (.entity name space) className d)

def OriginatesProperties (properties : List (String × TypeSet)) : Prop :=
  ∀ {into : ClassModel}, (∀ entry ∈ properties, ∀ d, Builds (walked entry.2.first) d → built d) →
    Maintains (Originates v ambient built) (buildProperties v ambient properties into)

def OriginatesProperty (d : TypeDef) : Prop :=
  ∀ {key : String}, (∀ d', Builds (walked d) d' → built d') →
    Maintains (Originates v ambient built) (propertyClass v ambient key d)

end Levels

theorem originatesSet {set : TypeSet}
    (h : ∀ d, sizeOf d < sizeOf set → OriginatesDefinition v ambient built d) : OriginatesSet v ambient built set := by
  intro name space className trim all
  rw [buildSet]
  refine (maintains_resolveFirst set).bind fun found ran => ?_
  obtain ⟨_, _, run⟩ := ran
  obtain ⟨stands, -⟩ := runs_resolveFirst run
  exact h found.1 found.2 trim fun d' hb => all d' (hb.of_standsFor stands)

theorem originatesDefinition_object {traits : Traits} {properties : List (String × TypeSet)}
    (h : OriginatesProperties v ambient built properties) :
    OriginatesDefinition v ambient built (.object traits properties) := by
  intro name space className trim all
  have stands : standsFor? ⟨.object traits properties, []⟩ = some (.object traits properties) := rfl
  rw [buildDefinition]
  refine (h fun entry he d hb => all d (.property stands he hb)).bind fun m ran => ?_
  obtain ⟨_, _, run⟩ := ran
  obtain rfl := eq_of_runs_buildProperties run
  refine maintains_addEntity fun c previous hc => ?_
  have origin : Made v ambient built (entityOf v ambient name space properties) := .entity trim (all _ (.here stands))
  refine hc.add origin (.of_entity origin (kind_entityOf name space properties) ?_)
  rw [keepRawArray_eq]
  rfl

theorem originatesDefinition_array {traits : Traits} {items : List TypeSet}
    (h : ∀ set ∈ items, OriginatesSet v ambient built set) :
    OriginatesDefinition v ambient built (.array traits items) := by
  intro name space className trim all
  have stands : standsFor? ⟨.array traits items, []⟩ = some (.array traits items) := rfl
  rw [buildDefinition]
  refine (maintains_fromExcept _).bind fun item ran => ?_
  obtain ⟨_, _, run⟩ := ran
  obtain ⟨d, target, source, hi⟩ := itemType_ok.1 (runs_fromExcept.1 run).1.symm
  obtain rfl := hi.only
  refine (maintains_resolveFirst _).bind fun found ran => ?_
  obtain ⟨d', smaller⟩ := found
  obtain ⟨_, _, run⟩ := ran
  obtain rfl := Option.some.inj (hi.standsFor.symm.trans (runs_resolveFirst run).1)
  refine (h _ List.mem_cons_self (isTrimmed_extractNamespace ambient target) fun d' hb =>
    all d' (.item stands hb)).bind fun _ _ => ?_
  -- what is left is the wrapper, with the raw array form of its items before it or without
  have wrapped : Maintains (Originates v ambient built) (do
      let wrapper ← valueObject v (v.filters.className className)
        (extractNamespace ambient (.array traits [⟨d, []⟩])) (.array traits [⟨d, []⟩])
      add (wrapper.addImport (qualify (extractNamespace ambient target) (v.filters.className item.sourceName)))) := by
    refine (maintains_valueObject v _ _ _).bind fun wrapper ran => ?_
    obtain ⟨_, _, run⟩ := ran
    obtain ⟨events, hb, -⟩ := runs_valueObject.1 run
    exact maintains_add fun c hc => hc.add (.list hi (all _ (.here stands)) hb) (.refl _)
  simp only
  split
  · exact maintains_rawArrays.bind fun _ _ => wrapped
  · exact wrapped

/-- The class of a single value may be added. -/
theorem maintains_made {className : String} {d : TypeDef} (hd : IsScalar d) (hb : built d)
    (run : ∃ s s', Runs (valueObject v (v.filters.className className) (extractNamespace ambient d) d) s (.ok m) s') :
    Maintains (Originates v ambient built) (add m) := by
  obtain ⟨_, _, run⟩ := run
  obtain ⟨events, made, -⟩ := runs_valueObject.1 run
  exact maintains_add fun c hc => hc.add (.value hd hb made) (.refl _)

theorem originatesDefinition_value {d : TypeDef} (hd : IsScalar d) : OriginatesDefinition v ambient built d := by
  intro name space className trim all
  cases d with
  | string | integer | number | boolean =>
    rw [buildDefinition]
    exact (maintains_valueObject v _ _ _).bind fun m run => maintains_made hd (all _ (.here rfl)) run
  | _ => cases hd

theorem originatesDefinition_reference {traits : Traits} {pointer : String} {resolved : Option TypeSet} :
    OriginatesDefinition v ambient built (.reference traits pointer resolved) := by
  intro name space className trim all
  rw [buildDefinition]
  exact maintains_throw _

theorem originatesProperties_nil : OriginatesProperties v ambient built [] := by
  intro into all
  rw [buildProperties]
  exact maintains_pure into

theorem originatesProperties_cons {key : String} {set : TypeSet} {rest : List (String × TypeSet)}
    (first : OriginatesProperty v ambient built set.first) (others : OriginatesProperties v ambient built rest) :
    OriginatesProperties v ambient built ((key, set) :: rest) := by
  intro into all
  rw [buildProperties]
  refine (maintains_noteUnion set).bind fun _ _ => ?_
  refine (first (all _ List.mem_cons_self)).bind fun fqcn _ => ?_
  exact others fun entry he => all entry (List.mem_cons_of_mem _ he)

theorem originatesProperty_reference {traits : Traits} {pointer : String} {inner : TypeSet}
    (h : OriginatesSet v ambient built inner) :
    OriginatesProperty v ambient built (.reference traits pointer (some inner)) := by
  intro key all
  rw [propertyClass]
  refine (maintains_noteUnion inner).bind fun _ _ => ?_
  exact (h (isTrimmed_extractNamespace ambient _) all).bind fun _ _ => maintains_pure _

theorem originatesProperty_dangling {traits : Traits} {pointer : String} :
    OriginatesProperty v ambient built (.reference traits pointer none) := by
  intro key all
  rw [propertyClass]
  exact maintains_throw _

theorem originatesProperty_object {traits : Traits} {properties : List (String × TypeSet)}
    (h : OriginatesDefinition v ambient built (.object traits properties)) :
    OriginatesProperty v ambient built (.object traits properties) := by
  intro key all
  rw [propertyClass]
  exact (h (isTrimmed_extractNamespace ambient _) all).bind fun _ _ => maintains_pure _

theorem originatesProperty_array {traits : Traits} {items : List TypeSet}
    (h : OriginatesDefinition v ambient built (.array traits items)) :
    OriginatesProperty v ambient built (.array traits items) := by
  intro key all
  rw [propertyClass]
  exact (h (isTrimmed_extractNamespace ambient _) all).bind fun _ _ => maintains_pure _

theorem originatesProperty_value {d : TypeDef} (hd : IsScalar d) : OriginatesProperty v ambient built d := by
  intro key all
  cases d with
  | string | integer | number | boolean =>
    rw [propertyClass]
    refine (maintains_valueObject v _ _ _).bind fun m run => ?_
    exact (maintains_made hd (all _ (.here rfl)) run).bind fun _ _ => maintains_pure m.fqcn
  | _ => cases hd

/-! ## All levels -/

variable (v ambient built)

theorem originates_levels : Levels (OriginatesSet v ambient built) (OriginatesDefinition v ambient built) (OriginatesProperties v ambient built)
    (OriginatesProperty v ambient built) where
  set := originatesSet
  object := originatesDefinition_object
  array := originatesDefinition_array
  reference := originatesDefinition_reference
  value := originatesDefinition_value
  nil := originatesProperties_nil
  cons := originatesProperties_cons
  propertyObject := originatesProperty_object
  propertyArray := originatesProperty_array
  propertyReference := originatesProperty_reference
  propertyDangling := originatesProperty_dangling
  propertyValue := originatesProperty_value

theorem originatesSet_all (set : TypeSet) : OriginatesSet v ambient built set := (originates_levels v ambient built).ofSet_all set

end SchemaClasses
