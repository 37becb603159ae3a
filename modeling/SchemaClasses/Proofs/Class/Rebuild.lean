/-
Every function that builds classes can be mirrored: from the collection that it left in the end a second
run of it takes the same way.
-/
import SchemaClasses.Proofs.Class.Replay

namespace SchemaClasses

open ClassModel Collection Build

variable {v : ValueObjects} {ambient : String}

/-! ## Entities -/

/-- The entity that building properties ends with does not depend on the classes that are there. -/
theorem eq_of_runs_buildProperties {properties : List (String × TypeSet)} {into m : ClassModel} {s s' : BuildState}
    (h : Runs (buildProperties v ambient properties into) s (.ok m) s') :
    m = properties.foldl (withSchemaProperty v ambient) into :=
  (buildsProperties_all v ambient (fun _ => True) properties (fun _ _ => ⟨trivial, fun _ _ => trivial⟩) h).2.1

/-! ## One level -/

section Levels

variable (v : ValueObjects) (ambient : String)

/-- Building a definition can be mirrored, whatever it is named after. -/
def MirrorsDefinition (d : TypeDef) : Prop :=
  ∀ name space className, Mirrors Anything (buildDefinition v ambient (.entity name space) className d)

def MirrorsSet (set : TypeSet) : Prop :=
  ∀ name space className, Mirrors Anything (buildSet v ambient (.entity name space) className set)

def MirrorsProperties (properties : List (String × TypeSet)) : Prop :=
  ∀ into, Mirrors Anything (buildProperties v ambient properties into)

def MirrorsProperty (d : TypeDef) : Prop := ∀ key, Mirrors Anything (propertyClass v ambient key d)

end Levels

theorem mirrorsSet {set : TypeSet} (h : ∀ d, sizeOf d < sizeOf set → MirrorsDefinition v ambient d) :
    MirrorsSet v ambient set := by
  intro name space className
  rw [buildSet]
  exact (mirrors_resolveFirst set).andThen fun found => h found.1 found.2 name space className

theorem mirrorsDefinition_object {traits : Traits} {properties : List (String × TypeSet)}
    (h : MirrorsProperties v ambient properties) : MirrorsDefinition v ambient (.object traits properties) := by
  intro name space className
  rw [buildDefinition]
  refine (h _).bind (fun m _ => m = entityOf v ambient name space properties)
    (fun _ hr => eq_of_runs_buildProperties hr) fun m => mirrors_of_given ?_
  rintro rfl
  exact mirrors_addEntity ((assembled_foldl properties .start).orderly orderly_entity)
    (kind_entityOf name space properties) (methods_entityOf name space properties)

/-- What is done with the class of a value object is done with an orderly class that is no entity. -/
theorem mirrors_valueObject_bind {α : Type} {className space : String} {d : TypeDef} {next : ClassModel → Build α}
    (hn : ∀ m, m.Orderly → m.kind ≠ .entity → Mirrors Anything (next m)) :
    Mirrors Anything (valueObject v className space d >>= next) := by
  refine mirrors_valueObject.bind (fun m _ => m.Orderly ∧ m.kind ≠ .entity) ?_
    fun m => mirrors_of_given fun ⟨orderly, other⟩ => hn m orderly other
  intro s s' m _ hr
  obtain ⟨events, hb, -⟩ := runs_valueObject.1 hr
  obtain ⟨orderly, kind, hk⟩ := orderly_build hb
  refine ⟨orderly, ?_⟩
  rw [hk]
  rintro ⟨⟩

theorem mirrorsDefinition_array {traits : Traits} {items : List TypeSet}
    (h : ∀ set ∈ items, MirrorsSet v ambient set) : MirrorsDefinition v ambient (.array traits items) := by
  intro name space className
  rw [buildDefinition]
  refine mirrors_fromExcept.andThen fun item => ?_
  cases items with
  | nil => exact mirrors_pure
  | cons itemSet rest =>
    refine (mirrors_resolveFirst itemSet).bind (fun r _ => standsFor? itemSet = some r.val)
      (fun _ hr => (runs_resolveFirst hr).1) fun found => ?_
    obtain ⟨d, smaller⟩ := found
    -- the class of the items is there when it is to gain the pair
    refine (h itemSet List.mem_cons_self _ _ _).weaken.bind (fun _ c => c.contains
      (qualify (extractNamespace ambient d) (v.filters.className item.sourceName)) = true) ?_ fun _ => ?_
    · intro s s' _ stands hr
      obtain ⟨-, d', found, built⟩ := buildsSet_all v ambient (fun _ => True) itemSet
        (isTrimmed_extractNamespace ambient d) (fun _ _ => trivial) hr
      obtain rfl := Option.some.inj (Eq.trans stands.symm found)
      rw [builtName_self] at built
      exact built.contains
    · have wrapper : Mirrors Anything (valueObject v (v.filters.className className)
          (extractNamespace ambient (.array traits (itemSet :: rest))) (.array traits (itemSet :: rest)) >>= fun m =>
            add (m.addImport (qualify (extractNamespace ambient d) (v.filters.className item.sourceName)))) :=
        mirrors_valueObject_bind fun m orderly other =>
          mirrors_add orderly.addImport (by rwa [ClassModel.kind_addImport])
      simp only
      split
      · exact mirrors_rawArrays.andThen fun _ => wrapper
      · exact wrapper.weaken

theorem mirrorsDefinition_value {d : TypeDef} (hd : IsScalar d) : MirrorsDefinition v ambient d := by
  intro name space className
  cases d with
  | string | integer | number | boolean =>
    rw [buildDefinition]
    exact mirrors_valueObject_bind fun m orderly other => mirrors_add orderly other
  | _ => cases hd

theorem mirrorsDefinition_reference {traits : Traits} {pointer : String} {resolved : Option TypeSet} :
    MirrorsDefinition v ambient (.reference traits pointer resolved) := by
  intro name space className
  rw [buildDefinition]
  exact mirrors_throw

theorem mirrorsProperties_nil : MirrorsProperties v ambient [] := by
  intro into
  rw [buildProperties]
  exact mirrors_pure

theorem mirrorsProperties_cons {key : String} {set : TypeSet} {rest : List (String × TypeSet)}
    (hc : MirrorsProperty v ambient set.first) (ht : MirrorsProperties v ambient rest) :
    MirrorsProperties v ambient ((key, set) :: rest) := by
  intro into
  rw [buildProperties]
  exact mirrors_noteUnion.andThen fun _ => (hc key).andThen fun _ => ht _

theorem mirrorsProperty_reference {traits : Traits} {pointer : String} {inner : TypeSet}
    (h : MirrorsSet v ambient inner) : MirrorsProperty v ambient (.reference traits pointer (some inner)) := by
  intro key
  rw [propertyClass]
  exact mirrors_noteUnion.andThen fun _ => (h _ _ _).andThen fun _ => mirrors_pure

theorem mirrorsProperty_dangling {traits : Traits} {pointer : String} :
    MirrorsProperty v ambient (.reference traits pointer none) := by
  intro key
  rw [propertyClass]
  exact mirrors_throw

theorem mirrorsProperty_object {traits : Traits} {properties : List (String × TypeSet)}
    (h : MirrorsDefinition v ambient (.object traits properties)) :
    MirrorsProperty v ambient (.object traits properties) := by
  intro key
  rw [propertyClass]
  exact (h _ _ _).andThen fun _ => mirrors_pure

theorem mirrorsProperty_array {traits : Traits} {items : List TypeSet}
    (h : MirrorsDefinition v ambient (.array traits items)) : MirrorsProperty v ambient (.array traits items) := by
  intro key
  rw [propertyClass]
  exact (h _ _ _).andThen fun _ => mirrors_pure

theorem mirrorsProperty_value {d : TypeDef} (hd : IsScalar d) : MirrorsProperty v ambient d := by
  intro key
  cases d with
  | string | integer | number | boolean =>
    rw [propertyClass]
    exact mirrors_valueObject_bind fun m orderly other =>
      (mirrors_add orderly other).andThen fun _ => mirrors_pure
  | _ => cases hd

/-! ## All levels -/

variable (v ambient)

theorem mirrors_levels : Levels (MirrorsSet v ambient) (MirrorsDefinition v ambient) (MirrorsProperties v ambient)
    (MirrorsProperty v ambient) where
  set := mirrorsSet
  object := mirrorsDefinition_object
  array := mirrorsDefinition_array
  reference := mirrorsDefinition_reference
  value := mirrorsDefinition_value
  nil := mirrorsProperties_nil
  cons := mirrorsProperties_cons
  propertyObject := mirrorsProperty_object
  propertyArray := mirrorsProperty_array
  propertyReference := mirrorsProperty_reference
  propertyDangling := mirrorsProperty_dangling
  propertyValue := mirrorsProperty_value

theorem mirrorsDefinition_all (d : TypeDef) : MirrorsDefinition v ambient d :=
  (mirrors_levels v ambient).ofDefinition_all d

theorem mirrorsProperties_all (properties : List (String × TypeSet)) : MirrorsProperties v ambient properties :=
  (mirrors_levels v ambient).ofProperties_all properties

end SchemaClasses
