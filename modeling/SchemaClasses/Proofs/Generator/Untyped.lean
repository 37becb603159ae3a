/-
Generating with types in comments. It fails where generating with native types fails, and gives the same
classes; each type that was written natively stands in the comment over its member, that of a getter's result
in the comment over the property.
-/
import SchemaClasses.Proofs.Generator.Basic
import SchemaClasses.Proofs.Source.Types

namespace SchemaClasses

/-- The exceptions of the same enum. -/
theorem matches_ofClass {filters : NameFilters} {m m' : ClassModel} (h : TypesMoved filters m m') :
    Matches (TypesMoved filters) (EnumException.ofClass filters true m) (EnumException.ofClass filters false m') := by
  unfold EnumException.ofClass
  rw [← h.kind_eq, ← h.fqcn_eq]
  split
  · exact .ok (typesMoved_exception _ _)
  · exact .error _

namespace Generator

variable {g : Generator} {c c' : Collection}

/-- The generator with types written natively or in comments. -/
def withTypes (g : Generator) (typed : Bool) : Generator := { g with settings := { g.settings with typed := typed } }

/-- Both builds end alike, with classes that are the same but for the flag of types. -/
theorem build_untyped (g : Generator) (set : TypeSet) (rootName : String) : ∃ outcome s s',
    (g.withTypes true).build set rootName = (outcome, s) ∧ (g.withTypes false).build set rootName = (outcome, s') ∧
      s.collection.untyped = s'.collection.untyped := by
  have both := parallelSet_all (g.withTypes true).valueObjects false g.ambient set
    (.entity (g.filters.className rootName) (extractNamespace g.ambient set.first)) (g.filters.className rootName)
  obtain ⟨outcome, s', run, matched, same⟩ := both.runs rfl
    (show Runs _ {} ((g.withTypes true).build set rootName).1 ((g.withTypes true).build set rootName).2 from rfl)
  exact ⟨_, _, s', rfl, run.trans (Prod.ext (eq_of_matches matched).symm rfl), same⟩

theorem moved_exceptions (h : c.Moved g.filters c') : List.Forall₂ (TypesMoved g.filters)
    ((g.withTypes true).exceptions c) ((g.withTypes false).exceptions c') := by
  unfold exceptions
  exact List.rel_filterMap (R := TypesMoved g.filters) (fun _ _ moved => (matches_ofClass moved).toOption) h.values

theorem finish_withTypes (g : Generator) (typed : Bool) (c : Collection) : (g.withTypes typed).finish c =
    let c := c.mapClasses (·.setTyped typed)
    let c := if g.settings.getters then c.addGetters g.filters typed else c
    let c := if g.settings.constants then c.addPropertyConstants g.filters else c
    if g.settings.exceptions then c.addAll ((g.withTypes typed).exceptions c) else (c, []) := rfl

/-- What is added in the end keeps the classes side by side. -/
theorem moved_finish (same : c.untyped = c'.untyped) (documented : ∀ m ∈ c.toList, m.Documented) :
    ((g.withTypes true).finish c).1.Moved g.filters ((g.withTypes false).finish c').1 := by
  have moved : (c.mapClasses (·.setTyped true)).Moved g.filters (c'.mapClasses (·.setTyped false)) := by
    show Collection.Moved _ _ c'.untyped
    rw [← same]
    exact moved_setTyped documented
  rw [finish_withTypes, finish_withTypes]
  simp only
  generalize c.mapClasses (·.setTyped true) = c, c'.mapClasses (·.setTyped false) = c' at moved ⊢
  have getters : (if g.settings.getters then c.addGetters g.filters true else c).Moved g.filters
      (if g.settings.getters then c'.addGetters g.filters false else c') := by
    split
    · exact moved.mapClasses fun _ _ h => h.withGetters
    · exact moved
  generalize (if g.settings.getters then c.addGetters g.filters true else c) = c,
    (if g.settings.getters then c'.addGetters g.filters false else c') = c' at getters ⊢
  have constants : (if g.settings.constants then c.addPropertyConstants g.filters else c).Moved g.filters
      (if g.settings.constants then c'.addPropertyConstants g.filters else c') := by
    split
    · exact getters.mapClasses fun _ _ h => h.withPropertyConstants
    · exact getters
  generalize (if g.settings.constants then c.addPropertyConstants g.filters else c) = c,
    (if g.settings.constants then c'.addPropertyConstants g.filters else c') = c' at constants ⊢
  -- the exceptions are those of the classes as they are now
  have exceptions := moved_exceptions constants
  split
  · exact constants.addAll exceptions
  · exact constants

/-- With types in comments a generation ends as with native types: with the same fault, or with the same classes
under the same names in the same order. These have the same members, and what was written as a native type
stands in the comment over the member instead, or in that over the property that a getter gives. -/
theorem generate_withTypes (g : Generator) (schema : Json) (rootName : String) :
    Matches (fun c c' => c.classes.Beside
        (fun m m' => TypesMoved g.filters m m' ∧ Source.TypesTold g.filters m m') c'.classes)
      ((g.withTypes true).generate schema rootName).1 ((g.withTypes false).generate schema rootName).1 := by
  unfold generate
  generalize Schema.parse schema rootName = parsed
  obtain ⟨e | set, events⟩ := parsed
  · exact .error e
  · obtain ⟨outcome, s, s', built, built', same⟩ := build_untyped g set rootName
    simp only [built, built']
    cases outcome with
    | error e => exact .error e
    | ok _ =>
      have steps := build_steps built
      have documented : ∀ m ∈ s.collection.toList, m.Documented := fun m hm =>
        (steps.documented fun _ _ h => by cases h) m.fqcn m
          (((steps.keyed Collection.keyed_empty).mem_toList_iff).1 hm)
      have moved := @moved_finish g _ _ same documented
      exact .ok (moved.imp fun _ _ h => ⟨h, Source.typesTold h⟩)

/-! ## An object with a list of texts -/

section Texts

open Build

/-- A document of an object with one property, a list of texts. -/
def texts : Json := .object [("properties", .object [("l", .object [("items", .object [("type", .string "string")])])])]

def textsItem : TypeDef := .string { name := "l_item" } none none

def textsList : TypeDef := .array { name := "l" } [⟨textsItem, []⟩]

def textsRoot : TypeDef := .object { name := "r", required := true } [("l", ⟨textsList, []⟩)]

/-- The usual generator, with types written natively or in comments. -/
def usual (typed : Bool) : Generator := withTypes {} typed

def textsText (typed : Bool) : ClassModel :=
  named (Template.Scalar.text.build conventionalNames typed "l_item") (conventionalNames.className "l_item")
    (extractNamespace (ambient {}) textsItem)

def textsMade (typed : Bool) : ClassModel :=
  named (Template.ListOf.build conventionalNames typed "l" ⟨"l_item", .string⟩) (conventionalNames.className "l")
    (extractNamespace (ambient {}) textsList)

def textsWrapper (typed : Bool) : ClassModel := (textsMade typed).addImport
  (qualify (extractNamespace (ambient {}) textsItem) (conventionalNames.className "l_item"))

def textsEntity : ClassModel :=
  entityOf (valueObjects {}) (ambient {}) (conventionalNames.className "r") (extractNamespace (ambient {}) textsRoot)
    [("l", ⟨textsList, []⟩)]

/-- What the build of the list leaves. -/
def textsState (typed : Bool) : BuildState :=
  (((BuildState.report {} [.valueObjectBuilt (textsText typed).fqcn "string"]).add (textsText typed)).report
    [.valueObjectBuilt (textsMade typed).fqcn "array"]).add (textsWrapper typed)

theorem propertyClass_texts (typed : Bool) : Runs (propertyClass (usual typed).valueObjects (ambient {}) "l" textsList) {}
    (.ok (promisedName (usual typed).valueObjects (ambient {}) "l" textsList)) (textsState typed) := by
  have text : (usual typed).valueObjects.build (conventionalNames.className "l_item")
      (extractNamespace (ambient {}) textsItem) textsItem =
      .ok (textsText typed, [.valueObjectBuilt (textsText typed).fqcn "string"]) := rfl
  have list : (usual typed).valueObjects.build (conventionalNames.className "l")
      (extractNamespace (ambient {}) textsList) textsList =
      .ok (textsMade typed, [.valueObjectBuilt (textsMade typed).fqcn "array"]) := rfl
  unfold textsList at list ⊢
  rw [propertyClass]
  refine runs_bind_ok.2 ⟨(), textsState typed, ?_, runs_pure.2 ⟨rfl, rfl⟩⟩
  rw [buildDefinition]
  refine runs_bind_ok.2 ⟨⟨"l_item", .string⟩, _, rfl, ?_⟩
  refine runs_bind_ok.2 ⟨_, _, rfl, runs_bind_ok.2 ⟨_, _, buildSet_value trivial text, ?_⟩⟩
  exact runs_bind_ok.2 ⟨_, _, runs_valueObject.2 ⟨_, list, rfl⟩, runs_add.2 ⟨rfl, rfl⟩⟩

theorem build_texts (typed : Bool) :
    (usual typed).build ⟨textsRoot, []⟩ "r" = (.ok (), (textsState typed).addEntity textsEntity) :=
  buildSet_single (propertyClass_texts typed)

theorem parse_texts : Schema.parse texts "r" = (.ok ⟨textsRoot, []⟩, []) := by
  unfold textsRoot textsList textsItem
  cbv

def textsClasses (typed : Bool) : Collection := ((usual typed).finish ((textsState typed).addEntity textsEntity).collection).1

theorem generate_texts (typed : Bool) : ((usual typed).generate texts "r").1 = .ok (textsClasses typed) :=
  congrArg Prod.fst (generate_of_build parse_texts (build_texts typed))

/-- Every type that is native in one class is told in the comment over the same member of another, word for
word. -/
structure EveryTypeTold (m m' : ClassModel) : Prop where
  properties : ∀ name p, m.properties.at? name = some p → ∃ p', m'.properties.at? name = some p' ∧
    "@var " ++ p.typeHint ∈ Source.propertyDoc false p'
  params : ∀ name method, m.methods.at? name = some method → ∃ method', m'.methods.at? name = some method' ∧
    ∀ p ∈ method.params, ∀ hint, p.typeHint = some hint → Source.paramTag hint p ∈ Source.methodDoc false method'
  results : ∀ name method, m.methods.at? name = some method → ∃ method', m'.methods.at? name = some method' ∧
    ∀ hint, method.returnType = some hint → "@return " ++ hint ∈ Source.methodDoc false method'

/-- With types in comments the list calls itself one of items, not an array, and the getter in the entity says
nothing of its result. -/
theorem generate_texts_untold : ∃ c c',
    ((usual true).generate texts "r").1 = .ok c ∧ ((usual false).generate texts "r").1 = .ok c' ∧
    (∃ m m', c.get? "App\\L" = some m ∧ c'.get? "App\\L" = some m' ∧ ¬ EveryTypeTold m m') ∧
    ∃ m m', c.get? "App\\R" = some m ∧ c'.get? "App\\R" = some m' ∧ ¬ EveryTypeTold m m' := by
  have list : ∃ m m', (textsClasses true).get? "App\\L" = some m ∧ (textsClasses false).get? "App\\L" = some m' ∧
      ∃ p p', m.properties.at? "l" = some p ∧ m'.properties.at? "l" = some p' ∧
        ¬ "@var " ++ p.typeHint ∈ Source.propertyDoc false p' := by
    refine ⟨_, _, rfl, rfl, _, _, rfl, rfl, ?_⟩
    decide +kernel
  have entity : ∃ m m', (textsClasses true).get? "App\\R" = some m ∧ (textsClasses false).get? "App\\R" = some m' ∧
      ∃ method method', m.methods.at? "l" = some method ∧ m'.methods.at? "l" = some method' ∧
        method.returnType = some "?L" ∧ Source.methodDoc false method' = [] := by
    refine ⟨_, _, rfl, rfl, _, _, rfl, rfl, ?_⟩
    decide +kernel
  obtain ⟨l, l', hl, hl', p, p', hp, hp', untold⟩ := list
  obtain ⟨r, r', hr, hr', getter, getter', hg, hg', result, silent⟩ := entity
  refine ⟨_, _, generate_texts true, generate_texts false, ⟨l, l', hl, hl', fun told => ?_⟩,
    r, r', hr, hr', fun told => ?_⟩
  · obtain ⟨found, hf, said⟩ := told.properties "l" p hp
    rw [hp'] at hf
    cases hf
    exact untold said
  · obtain ⟨found, hf, said⟩ := told.results "l" getter hg
    rw [hg'] at hf
    cases hf
    have mentioned := said "?L" result
    rw [silent] at mentioned
    cases mentioned

end Texts

end Generator

end SchemaClasses
