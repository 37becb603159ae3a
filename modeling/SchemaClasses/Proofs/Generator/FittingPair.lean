/-
The raw array form of a generated entity goes through its own properties, as long as the class was not
put in the place of one of another shape.
-/
import SchemaClasses.Proofs.Class.FittingPair
import SchemaClasses.Proofs.Generator.Basic

namespace SchemaClasses.Generator

variable {g : Generator} {c : Collection} {events : List Event}

/-- The static pairs of entities fit, save those of replaced classes, and no property comes twice. -/
def StaticPairsFit (events : List Event) (c : Collection) : Prop :=
  ∀ fqcn m method, c.get? fqcn = some m → m.kind = .entity → m.methods.at? "fromArray" = some method →
    method.isStatic = true → (m.properties.values.map (·.name)).Nodup ∧
      (HasFittingPair m ∨ Event.classReplaced fqcn ∈ events)

theorem staticPairsFit_of_pairsFit (h : PairsFit events c) : StaticPairsFit events c := by
  intro fqcn m method hm hk hf _
  have fits := h fqcn m hm hk
  refine ⟨?_, fits.fits (Entries.hasName_of_at? hf)⟩
  rw [fits.own.names_eq]
  exact fits.tidy.properties

/-- An addition changes no property and no line of the pair. -/
theorem hasFittingPair_addition {f : ClassModel → ClassModel} {m : ClassModel} (addition : Addition f)
    (h : HasFittingPair m) : HasFittingPair (f m) := by
  obtain ⟨parts, perm, assigns, reads⟩ := h
  refine ⟨parts, ?_, addition.map_at? assigns, addition.map_at? reads⟩
  rw [addition.same]
  exact perm

theorem staticPairsFit_finish (h : StaticPairsFit events c) : StaticPairsFit events (g.finish c).1 := by
  apply finish_induction h
  · intro f c addition hs fqcn found method hf hk hm static
    obtain ⟨m, before, rfl⟩ := Collection.of_get?_mapClasses hf
    rw [addition.kind] at hk
    obtain ⟨once, fits⟩ := hs fqcn m method before hk (addition.fresh hm static) static
    refine ⟨?_, fits.imp_left (hasFittingPair_addition addition)⟩
    rw [addition.same]
    exact once
  · intro c m exception _ hs fqcn found method hf hk
    rcases Collection.of_get?_add hf with ⟨-, rfl⟩ | ⟨-, hf⟩
    · rw [exception] at hk
      cases hk
    · exact hs fqcn found method hf hk

/-- Every entity of a result that has a static `fromArray` assigns and reads its own properties, each
once and under its raw key, unless the class was put in the place of one of another shape: then it may
have the pair of that class. -/
theorem generate_fittingPairs {schema : Json} {rootName : String} (h : (g.generate schema rootName).1 = .ok c) :
    ∀ m ∈ c.toList, m.kind = .entity → ∀ method, m.methods.at? "fromArray" = some method →
      method.isStatic = true → (m.properties.values.map (·.name)).Nodup ∧
        (HasFittingPair m ∨ Event.classReplaced m.fqcn ∈ (g.generate schema rootName).2) := by
  obtain ⟨set, state, -, hb, rfl, events, he⟩ := generate_ok h
  have steps := build_steps hb
  have keyed := @keyed_finish g _ (steps.keyed Collection.keyed_empty)
  have fit := @staticPairsFit_finish g _ _ (staticPairsFit_of_pairsFit (steps.pairsFit pairsFit_empty))
  intro m hm hk method hf static
  obtain ⟨once, fits⟩ := fit m.fqcn m method (keyed.mem_toList_iff.1 hm) hk hf static
  refine ⟨once, fits.imp_right fun replaced => ?_⟩
  rw [he]
  simp [replaced]

/-! ## An entity of the same name among its own items -/

section Shadowed

open Build

/-- A document whose list has items under the name of the document itself. -/
def shadowed : Json := .object [
  ("properties", .object [("list", .object [
    ("items", .object [("title", .string "e"), ("properties", .object [])])])])]

def shadowedItem : TypeDef := .object { name := "e" } []

def shadowedList : TypeDef := .array { name := "list" } [⟨shadowedItem, []⟩]

def shadowedRoot : TypeDef := .object { name := "e", required := true } [("list", ⟨shadowedList, []⟩)]

def shadowedName : String := qualify (extractNamespace (ambient {}) shadowedItem) (conventionalNames.className "e")

def shadowedInner : ClassModel :=
  entityOf (valueObjects {}) (ambient {}) (conventionalNames.className "e")
    (extractNamespace (ambient {}) shadowedItem) []

def shadowedWrapper : ClassModel :=
  (named (Template.ListOf.build conventionalNames true "list" ⟨"e", .array⟩)
    (conventionalNames.className "list") (extractNamespace (ambient {}) shadowedList)).addImport shadowedName

def shadowedOuter : ClassModel :=
  entityOf (valueObjects {}) (ambient {}) (conventionalNames.className "e")
    (extractNamespace (ambient {}) shadowedRoot) [("list", ⟨shadowedList, []⟩)]

/-- What the build of the list leaves: the class of its items has the pair of a class without
properties. -/
def shadowedState : BuildState where
  collection := ((({} : Collection).add shadowedInner).adjust shadowedName (·.withRawArray [])).add shadowedWrapper
  events := [.entityBuilt shadowedName 0, .valueObjectBuilt "App\\List" "array"]

/-- The class of the document takes over that pair. -/
def shadowedBuilt : BuildState :=
  (shadowedState.report [.entityBuilt shadowedName 1]).add
    (keepRawArray (some (shadowedInner.withRawArray [])) shadowedOuter)

theorem get?_shadowedInner : (({} : Collection).add shadowedInner).get? shadowedName = some shadowedInner :=
  Collection.get?_add_self

theorem addRawArrays_shadowed : addRawArrays (({} : Collection).add shadowedInner) [shadowedName] =
    (.ok (), (({} : Collection).add shadowedInner).adjust shadowedName (·.withRawArray [])) := by
  have lacks : lacksRawArray shadowedInner = true := by decide +kernel
  rw [addRawArrays_add get?_shadowedInner lacks rfl]
  exact addRawArrays_nil

theorem propertyClass_shadowed : Runs (propertyClass (valueObjects {}) (ambient {}) "list" shadowedList) {}
    (.ok (promisedName (valueObjects {}) (ambient {}) "list" shadowedList)) shadowedState := by
  have items : Runs (buildSet (valueObjects {}) (ambient {}) (.entity (conventionalNames.className "e")
      (extractNamespace (ambient {}) shadowedItem)) "e" ⟨shadowedItem, []⟩) {} (.ok ())
      ⟨({} : Collection).add shadowedInner, [.entityBuilt shadowedName 0]⟩ := by
    rw [buildSet]
    refine runs_bind_ok.2 ⟨_, _, rfl, ?_⟩
    show Runs (buildDefinition _ _ _ _ (.object _ _)) _ _ _
    rw [buildDefinition]
    refine runs_bind_ok.2 ⟨shadowedInner, {}, ?_, runs_addEntity.2 ⟨rfl, rfl⟩⟩
    rw [buildProperties]
    exact runs_pure.2 ⟨rfl, rfl⟩
  have none : ((({} : Collection).add shadowedInner).adjust shadowedName (·.withRawArray [])).get?
      shadowedWrapper.fqcn = none := Option.isNone_iff_eq_none.1 (by decide +kernel)
  unfold shadowedList
  rw [propertyClass]
  refine runs_bind_ok.2 ⟨(), shadowedState, ?_, runs_pure.2 ⟨rfl, rfl⟩⟩
  rw [buildDefinition]
  refine runs_bind_ok.2 ⟨⟨"e", .array⟩, _, rfl, ?_⟩
  refine runs_bind_ok.2 ⟨_, _, rfl, runs_bind_ok.2 ⟨_, _, items, ?_⟩⟩
  refine runs_bind_ok.2 ⟨_, _, runs_rawArrays.2 ⟨_, addRawArrays_shadowed, rfl⟩, ?_⟩
  refine runs_bind_ok.2 ⟨_, _, runs_valueObject.2 ⟨_, rfl, rfl⟩, runs_add.2 ⟨rfl, ?_⟩⟩
  show _ = BuildState.add _ shadowedWrapper
  simp only [BuildState.add, BuildState.report, Collection.addEvents, Collection.conflicts, none]
  rfl

theorem build_shadowed : build {} ⟨shadowedRoot, []⟩ "e" = (.ok (), shadowedBuilt) := by
  have apart : shadowedName ≠ shadowedWrapper.fqcn := by decide +kernel
  have found : shadowedState.collection.get? shadowedOuter.fqcn = some (shadowedInner.withRawArray []) := by
    rw [show shadowedOuter.fqcn = shadowedName from fqcn_entityOf _ _ _, shadowedState, Collection.get?_add,
      if_neg apart, Collection.get?_adjust, if_pos rfl, get?_shadowedInner]
    rfl
  have left : shadowedState.addEntity shadowedOuter = shadowedBuilt := by
    unfold BuildState.addEntity
    rw [found]
    rfl
  rw [← left]
  exact buildSet_single propertyClass_shadowed

theorem parse_shadowed : Schema.parse shadowed "e" = (.ok ⟨shadowedRoot, []⟩, []) := by
  unfold shadowedRoot shadowedList shadowedItem
  cbv

def shadowedClasses : Collection := (finish {} shadowedBuilt.collection).1

theorem generate_shadowed : (generate {} shadowed "e").1 = .ok shadowedClasses :=
  congrArg Prod.fst (generate_of_build parse_shadowed build_shadowed)

theorem entity_shadowed : (shadowedClasses.get? "App\\E").map (fun m => (m.kind, m.fqcn,
    m.properties.length, (m.methods.at? "fromArray").map fun method => (method.isStatic, method.body.length))) =
    some (.entity, "App\\E", 1, some (true, 2)) := by decide +kernel

/-- The class has a property that its pair does not go through, and the replacement is reported. -/
theorem generate_fittingPairs_shadowed : ∃ c, (generate {} shadowed "e").1 = .ok c ∧ ∃ m ∈ c.toList,
    m.fqcn = "App\\E" ∧ ¬ HasFittingPair m ∧ Event.classReplaced "App\\E" ∈ (generate {} shadowed "e").2 := by
  obtain ⟨m, hm, he⟩ := Option.map_eq_some_iff.1 entity_shadowed
  simp only [Prod.mk.injEq] at he
  obtain ⟨entity, fqcn, count, pair⟩ := he
  obtain ⟨method, hmethod, he⟩ := Option.map_eq_some_iff.1 pair
  simp only [Prod.mk.injEq] at he
  obtain ⟨static, lines⟩ := he
  have hm : m ∈ shadowedClasses.toList := Collection.mem_toList_of_get? hm
  -- a fitting pair would have one line for the property
  have misfit : ¬ HasFittingPair m := by
    rintro ⟨parts, perm, assigns, -⟩
    rw [hmethod] at assigns
    have length := congrArg List.length (Option.some.inj assigns)
    have parts_length := perm.length_eq
    simp only [lines, List.length_append, List.length_map, List.length_cons, List.length_nil] at length
    simp only [Entries.values, List.length_map, count] at parts_length
    omega
  obtain ⟨-, fits⟩ := @generate_fittingPairs {} _ _ _ generate_shadowed m hm entity method hmethod static
  rw [fqcn] at fits
  exact ⟨shadowedClasses, generate_shadowed, m, hm, fqcn, misfit, fits.resolve_left misfit⟩

end Shadowed

end SchemaClasses.Generator
