/-
Where the hints of a generated entity lead: to classes of the result, save those of properties that
stray.
-/
import SchemaClasses.Proofs.Class.Hints
import SchemaClasses.Proofs.Generator.Basic

namespace SchemaClasses.Generator

variable {g : Generator}

theorem hintsKnown_finish {v : ValueObjects} {ambient : String} {met : String × TypeSet → Prop} {c : Collection}
    (h : HintsKnown v ambient met c) :
    HintsKnown v ambient met (g.finish c).1 := by
  apply finish_induction h
  · intro f c addition hs fqcn found hf hk
    obtain ⟨m, hm, rfl⟩ := Collection.of_get?_mapClasses hf
    have entity : m.kind = .entity := by
      rw [addition.same] at hk
      exact hk
    have kept : ∀ name, c.contains name = true → (c.mapClasses f).contains name = true :=
      fun name hn => (Collection.contains_mapClasses name).trans hn
    have known := (hs fqcn m hm entity).mono fun _ ho => ho.mono kept
    apply known.of_eq <;> rw [addition.same]
  · intro c m exception _ hs
    apply hs.add
    intro entity
    rw [exception] at entity
    cases entity

/-- Every hint of an entity stands for a class of the result, unless a property strays that the entity
has its class from: then the class was added, but under another name than the one promised. -/
theorem generate_hints (plain : PlainNames g.filters) {schema : Json} {rootName : String} {c : Collection}
    (h : (g.generate schema rootName).1 = .ok c) : ∃ set, (Schema.parse schema rootName).1 = .ok set ∧
      ∀ m ∈ c.toList, m.kind = .entity → ∀ p ∈ m.properties.values,
        c.contains (hinted m p) = true ∨ ∃ entry, Meets set entry ∧ Strays g.ambient entry.2.first ∧
          hinted m p = promisedName g.valueObjects g.ambient entry.1 entry.2.first ∧
          hinted m p ≠ addedName g.valueObjects g.ambient entry.1 entry.2.first ∧
          c.contains (addedName g.valueObjects g.ambient entry.1 entry.2.first) = true := by
  obtain ⟨set, state, hp, hb, rfl, -⟩ := generate_ok h
  have plain : PlainNames g.valueObjects.filters := plain
  have steps := build_steps hb
  have keyed := @keyed_finish g _ (steps.keyed Collection.keyed_empty)
  have known := @hintsKnown_finish g _ _ _ _ (steps.hintsKnown plain hintsKnown_empty)
  refine ⟨set, hp, fun m hm entity p hmem => ?_⟩
  rcases (known m.fqcn m (keyed.mem_toList_iff.1 hm) entity).hinted p hmem with there | ⟨entry, hmet, stray, he, there⟩
  · exact .inl there
  · have apart := (addedName_ne_iff g.valueObjects entry.1 entry.2.first).2 stray
    exact .inr ⟨entry, hmet, stray, he.symm, he ▸ apart.symm, there⟩

/-! ## A property that strays -/

section Detour

open Build

/-- A document whose property refers to a reference in a namespace of its own. -/
def detour : Json := .object [
  ("properties", .object [("p", .object [("$ref", .string "#/definitions/a")])]),
  ("definitions", .object [
    ("a", .object [("$ref", .string "#/definitions/b"), ("ns", .string "X")]),
    ("b", .object [("type", .string "string")])])]

def detourTarget : TypeSet := ⟨.reference { name := "a", segments := some "X" } "#/definitions/b"
  (some ⟨.string { name := "b" } none none, []⟩), []⟩

def detourProperty : TypeDef := .reference { name := "p" } "#/definitions/a" (some detourTarget)

def detourRoot : TypeDef := .object { name := "r", required := true } [("p", ⟨detourProperty, []⟩)]

def detourText : ClassModel :=
  named (Template.Scalar.text.build conventionalNames true "b") (conventionalNames.className "a")
    (extractNamespace (ambient {}) (.string { name := "b" } none none))

def detourEntity : ClassModel :=
  entityOf (valueObjects {}) (ambient {}) (conventionalNames.className "r")
    (extractNamespace (ambient {}) detourRoot) [("p", ⟨detourProperty, []⟩)]

/-- What the build of the property leaves. -/
def detourState : BuildState := (BuildState.report {} [.valueObjectBuilt detourText.fqcn "string"]).add detourText

def detourBuilt : BuildState := detourState.addEntity detourEntity

theorem propertyClass_detour : Runs (propertyClass (valueObjects {}) (ambient {}) "p" detourProperty) {}
    (.ok (promisedName (valueObjects {}) (ambient {}) "p" detourProperty)) detourState := by
  have text : Runs (buildSet (valueObjects {}) (ambient {}) (.entity (conventionalNames.className "a")
      (extractNamespace (ambient {}) detourTarget.first)) "a" detourTarget) {} (.ok ()) detourState := by
    rw [buildSet]
    refine runs_bind_ok.2 ⟨_, _, rfl, ?_⟩
    show Runs (buildDefinition _ _ _ _ (.string _ _ _)) _ _ _
    rw [buildDefinition]
    exact runs_bind_ok.2 ⟨_, _, runs_valueObject.2 ⟨_, rfl, rfl⟩, rfl⟩
  unfold detourProperty
  rw [propertyClass]
  exact runs_bind_ok.2 ⟨_, _, rfl, runs_bind_ok.2 ⟨_, _, text, rfl⟩⟩

theorem build_detour : build {} ⟨detourRoot, []⟩ "r" = (.ok (), detourBuilt) :=
  buildSet_single propertyClass_detour

theorem parse_detour : Schema.parse detour "r" = (.ok ⟨detourRoot, []⟩, []) := by
  unfold detourRoot detourProperty detourTarget
  cbv

def detourClasses : Collection := (finish {} detourBuilt.collection).1

theorem generate_detour : (generate {} detour "r").1 = .ok detourClasses :=
  congrArg Prod.fst (generate_of_build parse_detour build_detour)

theorem hints_detour : (detourClasses.get? "App\\R").map (fun m =>
    (m.kind, m.fqcn, m.properties.values.map (hinted m))) = some (.entity, "App\\R", ["App\\X\\A"]) := by
  decide +kernel

/-- The hint of the property stands for a class that is not there. -/
theorem generate_hints_detour : ∃ c, (generate {} detour "r").1 = .ok c ∧ c.contains "App\\X\\A" = false ∧
    ∃ m ∈ c.toList, m.fqcn = "App\\R" ∧ ∃ p ∈ m.properties.values, hinted m p = "App\\X\\A" ∧
    ∃ set, (Schema.parse detour "r").1 = .ok set ∧ ∃ entry, Meets set entry ∧ Strays (ambient {}) entry.2.first ∧
      c.contains (addedName (valueObjects {}) (ambient {}) entry.1 entry.2.first) = true := by
  have absent : detourClasses.contains "App\\X\\A" = false := by decide +kernel
  obtain ⟨m, hm, he⟩ := Option.map_eq_some_iff.1 hints_detour
  have hm : m ∈ detourClasses.toList := Collection.mem_toList_of_get? hm
  simp only [Prod.mk.injEq] at he
  obtain ⟨entity, fqcn, hints⟩ := he
  have listed : "App\\X\\A" ∈ m.properties.values.map (hinted m) := by
    rw [hints]
    exact List.mem_singleton_self _
  obtain ⟨p, hp, hint⟩ := List.mem_map.1 listed
  obtain ⟨set, hset, leads⟩ := @generate_hints {} plainNames_conventional _ _ _ generate_detour
  refine ⟨detourClasses, generate_detour, absent, m, hm, fqcn, p, hp, hint, set, hset, ?_⟩
  rcases leads m hm entity p hp with there | ⟨entry, meets, stray, -, -, there⟩
  · rw [hint, absent] at there
    cases there
  · exact ⟨entry, meets, stray, there⟩

end Detour

end SchemaClasses.Generator
