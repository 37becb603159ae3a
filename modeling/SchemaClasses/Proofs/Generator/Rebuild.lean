/-
Building a set twice: the second time, from the collection of the first one, succeeds in silence and
changes nothing, not even the order of members.
-/
import SchemaClasses.Proofs.Class.Rebuild
import SchemaClasses.Proofs.Generator.RawArray

namespace SchemaClasses

open ClassModel Collection Build

variable {v : ValueObjects} {ambient : String} {m : ClassModel} {s : BuildState}

/-- Only an object has a say in what becomes of the class that it is to fill. -/
theorem buildDefinition_into {into : ClassModel} {className : String} {d : TypeDef}
    (h : ∀ traits properties, d ≠ .object traits properties) :
    buildDefinition v ambient into className d = buildDefinition v ambient (.entity "" "") className d := by
  cases d with
  | object traits properties => exact absurd rfl (h traits properties)
  | _ => rw [buildDefinition, buildDefinition]

/-! ## Actions that change nothing -/

section Rests

variable {α β : Type} {action : Build α} {a : α} {b : β} {c : Collection} {events : List Event}

/-- The action succeeds in silence and leaves the collection as it is, whatever was reported before. -/
def Rests (action : Build α) (a : α) (c : Collection) : Prop :=
  ∀ reported, ∃ more, Silent more ∧ Runs action ⟨c, reported⟩ (.ok a) ⟨c, reported ++ more⟩

theorem Rests.bind {next : α → Build β} (first : Rests action a c) (second : Rests (next a) b c) :
    Rests (action >>= next) b c := by
  intro reported
  obtain ⟨more, still, first⟩ := first reported
  obtain ⟨more', still', second⟩ := second (reported ++ more)
  refine ⟨more ++ more', fun fqcn he => ?_, runs_bind_ok.2 ⟨_, _, first, ?_⟩⟩
  · exact (List.mem_append.1 he).elim (still fqcn) (still' fqcn)
  · rw [← List.append_assoc]
    exact second

/-- What leaves the collection empty leaves every collection as it is. -/
theorem rests_of_empty (hm : Mirrors Anything action) (h : Runs action {} (.ok a) ⟨{}, events⟩)
    (silent : Silent events) (hc : AllOrderly c) : Rests action a c := by
  intro reported
  obtain ⟨made, more, again, still, mirror⟩ := @Mirrors.again _ _ _ hm _ _ _ h trivial silent sound_empty c
    ⟨c, reported⟩ hc (fun _ _ hm => by cases hm) (mirror_empty c)
  rw [mirror.eq_final hc fun _ _ hm => by cases hm] at again
  exact ⟨more, still, again⟩

/-- What can be mirrored from nothing changes nothing when it is done again. -/
theorem rests_of_mirrors (hm : Mirrors Anything action) (h : Runs action ⟨{}, events⟩ (.ok a) s)
    (silent : Silent s.events) : Silent events ∧ AllOrderly s.collection ∧ Rests action a s.collection := by
  obtain ⟨sound, -⟩ := hm.sound h trivial silent sound_empty
  refine ⟨hm.silent h trivial silent, sound.toAllOrderly, fun reported => ?_⟩
  obtain ⟨made, more, again, still, mirror⟩ := @Mirrors.again _ _ _ hm _ _ _ h trivial silent sound_empty
    s.collection ⟨s.collection, reported⟩ sound.toAllOrderly (.refl _) (mirror_empty _)
  rw [mirror.eq_final sound.toAllOrderly fun _ _ => id] at again
  exact ⟨more, still, again⟩

/-- The entity that the first run ended with is made again and put where it stands. -/
theorem runs_addEntity_again {classes : Collection} (hc : Sound c) (hm : m.Orderly)
    (quiet : c.addEvents (keepRawArray (c.get? m.fqcn) m) = [])
    (mirror : Mirror (c.add (keepRawArray (c.get? m.fqcn) m)) c classes) (reported : List Event) :
    Runs (addEntity m) ⟨classes, reported⟩ (.ok ()) ⟨c.add (keepRawArray (c.get? m.fqcn) m),
      reported ++ [.entityBuilt m.fqcn m.properties.length]⟩ := by
  have orderly : (keepRawArray (c.get? m.fqcn) m).Orderly := orderly_keepRawArray hm
  have fqcn := fqcn_keepRawArray (c.get? m.fqcn) m
  -- what stands under the name in the second run is the class that was made, up to order
  obtain ⟨there, ht, same⟩ :=
    mirror.exists_reordered hc.toAllOrderly (maturesInto_add hc.toAllOrderly quiet) get?_add_self
  have there_orderly := same.symm.orderly orderly
  have remade : keepRawArray (classes.get? m.fqcn) m = keepRawArray (c.get? m.fqcn) m := by
    have alike := same.method_eq there_orderly.toTidy
    rw [fqcn] at ht
    rw [ht, keepRawArray_congr (alike _) (alike _)]
    exact keepRawArray_keepRawArray hm fun earlier he => hc.orderly he
  have silence := addEvents_of_reordered there_orderly ht same
  have ended := (mirror.add get?_add_self).eq_final (hc.toAllOrderly.add orderly) fun _ _ => id
  rw [keepRawArray_of_held orderly.own fun _ _ => id] at ended
  refine runs_addEntity.2 ⟨rfl, ?_⟩
  rw [remade]
  simp only [BuildState.add, BuildState.report, silence, ended, List.append_nil]

end Rests

/-! ## Definitions and sets -/

section Again

variable {into : ClassModel} {className : String} {events : List Event}

/-- An object that fills a given class does so in the same way again. -/
theorem rests_object {traits : Traits} {properties : List (String × TypeSet)} (orderly : into.Orderly)
    (h : Runs (buildDefinition v ambient into className (.object traits properties)) ⟨{}, events⟩ (.ok ()) s)
    (silent : Silent s.events) : Silent events ∧ AllOrderly s.collection ∧
      Rests (buildDefinition v ambient into className (.object traits properties)) () s.collection := by
  rw [buildDefinition] at h ⊢
  obtain ⟨m, s₁, hp, ha⟩ := runs_bind_ok.1 h
  obtain ⟨-, rfl⟩ := runs_addEntity.1 ha
  have mirrors := mirrorsProperties_all v ambient properties into
  have hm : m.Orderly := by
    rw [eq_of_runs_buildProperties hp]
    exact (assembled_foldl properties .start).orderly orderly
  have quiet := silent.of_append_right.addEvents_eq
  have before := silent.of_append_left.of_append_left
  obtain ⟨sound, -⟩ := mirrors.sound hp trivial before sound_empty
  have final : AllOrderly (s₁.collection.add (keepRawArray (s₁.collection.get? m.fqcn) m)) :=
    sound.toAllOrderly.add (orderly_keepRawArray hm)
  refine ⟨mirrors.silent hp trivial before, final, fun reported => ?_⟩
  obtain ⟨classes, more, again, still, mirror⟩ := @Mirrors.again _ _ _ mirrors _ _ _ hp trivial before sound_empty
    _ ⟨_, reported⟩ final (maturesInto_add sound.toAllOrderly quiet) (mirror_empty _)
  have added := runs_addEntity_again sound hm quiet mirror (reported ++ more)
  rw [List.append_assoc] at added
  refine ⟨_, fun fqcn he => ?_, runs_bind_ok.2 ⟨m, _, again, added⟩⟩
  exact (List.mem_append.1 he).elim (still fqcn) (silent_of_all rfl fqcn)

theorem rests_definition {d : TypeDef} (orderly : into.Orderly)
    (h : Runs (buildDefinition v ambient into className d) ⟨{}, events⟩ (.ok ()) s) (silent : Silent s.events) :
    Silent events ∧ AllOrderly s.collection ∧ Rests (buildDefinition v ambient into className d) () s.collection := by
  by_cases object : ∃ traits properties, d = .object traits properties
  · obtain ⟨traits, properties, rfl⟩ := object
    exact rests_object orderly h silent
  · rw [buildDefinition_into fun traits properties hd => object ⟨traits, properties, hd⟩] at h ⊢
    exact rests_of_mirrors (mirrorsDefinition_all v ambient d "" "" className) h silent

end Again

/-- The class that the list of objects is built for. -/
def rowsTarget : ClassModel :=
  .entity (conventionalNames.className "r") (extractNamespace (Generator.ambient {}) Generator.rowsRoot)

end SchemaClasses
