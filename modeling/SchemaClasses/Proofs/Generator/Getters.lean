/-
Which property a getter returns. Getters are added under names that are filtered from names of properties, and two
properties can have one such name: the getter of the last one takes the place of the others.
-/
import SchemaClasses.Proofs.Class.Properties
import SchemaClasses.Proofs.Generator.Origin

namespace SchemaClasses

/-! ## One class -/

namespace ClassModel

variable {filters : NameFilters} {typed : Bool} {m : ClassModel} {name : String}

/-- Under a name that no method had is the getter of the last property whose getter is called so. -/
theorem at?_withGetters (plain : m.isLikeValueObject = false) (free : m.hasMethod name = false) :
    (m.withGetters filters typed).methods.at? name =
      (m.properties.values.reverse.find? (filters.methodName ·.name == name)).map (getter filters typed) := by
  have none : m.methods.at? name = none := Option.not_isSome_iff_eq_none.1 (Bool.eq_false_iff.1 free)
  -- no getter of that name is left out as one that is there
  have missing : (fun method : Method => decide ((!m.hasMethod method.name) = true ∧ (method.name == name) = true)) =
      (·.name == name) := by
    funext method
    by_cases called : method.name = name <;> simp [called, free]
  rw [withGetters, plain, if_neg Bool.false_ne_true, at?_addMethods, none, Option.or_none, missingGetters,
    ← List.filter_reverse, List.find?_filter, missing, ← List.map_reverse, List.find?_map]
  rfl

/-- A property has its getter unless a property behind it has one of the same name. -/
theorem exists_getter (plain : m.isLikeValueObject = false) (distinct : (m.properties.values.map (·.name)).Nodup)
    {front back : List Property} {p : Property} (here : m.properties.values = front ++ p :: back)
    (free : m.hasMethod (filters.methodName p.name) = false) :
    ∃ method, (m.withGetters filters typed).methods.at? (filters.methodName p.name) = some method ∧
      (method.body = ["return $this->" ++ p.name ++ ";"] ↔
        ∀ other ∈ back, filters.methodName other.name ≠ filters.methodName p.name) := by
  rw [at?_withGetters plain free]
  rw [here] at distinct ⊢
  rw [List.reverse_append, List.reverse_cons, List.append_assoc, List.find?_append]
  cases last : back.reverse.find? fun other => filters.methodName other.name == filters.methodName p.name with
  | none =>
    refine ⟨getter filters typed p, ?_, ⟨fun _ other ho called => ?_, fun _ => rfl⟩⟩
    · simp
    · exact List.find?_eq_none.1 last other (List.mem_reverse.2 ho) (beq_iff_eq.2 called)
  | some other =>
    have behind : other ∈ back := List.mem_reverse.1 (List.mem_of_find?_eq_some last)
    have called := List.find?_some last
    rw [beq_iff_eq] at called
    refine ⟨getter filters typed other, rfl, ⟨fun same => ?_, fun apart => absurd called (apart other behind)⟩⟩
    -- the getter returns another property
    have names : other.name = p.name := by
      have line : "return $this->" ++ other.name ++ ";" = "return $this->" ++ p.name ++ ";" :=
        List.head_eq_of_cons_eq same
      simpa [String.append_left_inj, String.append_right_inj] using line
    rw [List.map_append, List.map_cons, List.nodup_append, List.nodup_cons] at distinct
    exact absurd (names ▸ List.mem_map_of_mem behind) distinct.2.1.1

end ClassModel

namespace Generator

variable {g : Generator} {schema : Json} {rootName fqcn : String} {c : Collection} {m : ClassModel}

/-! ## Results -/

/-- The classes that were built as they are when getters are added to them. -/
def beforeGetters (g : Generator) (built : Collection) : Collection := built.mapClasses (·.setTyped g.settings.typed)

/-- The same classes with getters. -/
def afterGetters (g : Generator) (built : Collection) : Collection :=
  (g.beforeGetters built).addGetters g.filters g.settings.typed

/-- A class keeps its getters to the end, unless an exception takes its name. -/
theorem exists_finished (on : g.settings.getters = true) (hm : (g.afterGetters c).get? fqcn = some m) :
    ∃ final, (g.finish c).1.get? fqcn = some final ∧ (final.kind = .exception ∨ final.methods = m.methods) := by
  have after : (c.mapClasses (·.setTyped g.settings.typed)).addGetters g.filters g.settings.typed = g.afterGetters c :=
    rfl
  unfold finish
  simp only [on, if_true, after]
  have constants : ∃ last, (if g.settings.constants then (g.afterGetters c).addPropertyConstants g.filters
      else g.afterGetters c).get? fqcn = some last ∧ last.methods = m.methods := by
    split
    · refine ⟨m.withPropertyConstants g.filters, ?_, by rw [ClassModel.withPropertyConstants_eq]⟩
      rw [Collection.addPropertyConstants, Collection.get?_mapClasses, hm]
      rfl
    · exact ⟨m, hm, rfl⟩
  generalize (if g.settings.constants then (g.afterGetters c).addPropertyConstants g.filters
    else g.afterGetters c) = c' at constants ⊢
  obtain ⟨last, hl, same⟩ := constants
  split
  · by_cases taken : ∃ made ∈ g.exceptions c', made.fqcn = fqcn
    · obtain ⟨made, hmade, rfl⟩ := taken
      obtain ⟨final, hf, -, there⟩ := Collection.exists_of_mem_addAll (g.exceptions c') (c := c') hmade
      obtain ⟨enum, -, thrown⟩ := mem_exceptions.1 hf
      exact ⟨final, there, .inl (kind_of_exception thrown)⟩
    · refine ⟨last, ?_, .inr same⟩
      rw [Collection.get?_addAll_of_ne fun made hmade called => taken ⟨made, hmade, called⟩]
      exact hl
  · exact ⟨last, hl, .inr same⟩

/-- Every property of an entity without marker method gets a getter under the name that its own name is filtered to,
if there was no method of that name, and the getter returns this very property if and only if no property behind it
has a getter of the same name. The entity is in the result with these methods, unless an exception takes its name. -/
theorem generate_getters (h : (g.generate schema rootName).1 = .ok c) (on : g.settings.getters = true) :
    ∃ set state, (Schema.parse schema rootName).1 = .ok set ∧ g.build set rootName = (.ok (), state) ∧
      ∀ fqcn m, (g.beforeGetters state.collection).get? fqcn = some m → m.kind = .entity → m.hasMarkerMethod = false →
        ∃ m', (g.afterGetters state.collection).get? fqcn = some m' ∧
          (∃ final, c.get? fqcn = some final ∧ (final.kind = .exception ∨ final.methods = m'.methods)) ∧
          ∀ front p back, m.properties.values = front ++ p :: back →
            m.hasMethod (g.filters.methodName p.name) = false →
            ∃ method, m'.methods.at? (g.filters.methodName p.name) = some method ∧
              (method.body = ["return $this->" ++ p.name ++ ";"] ↔
                ∀ other ∈ back, g.filters.methodName other.name ≠ g.filters.methodName p.name) := by
  obtain ⟨set, state, hp, hb, rfl, -⟩ := generate_ok h
  refine ⟨set, state, hp, hb, fun fqcn m hm kind unmarked => ?_⟩
  have origin : Originates g.valueObjects g.ambient (Builds set) (g.beforeGetters state.collection) :=
    (originates_build hb).mapClasses (addition_setTyped g.settings.typed)
  obtain ⟨made, madeFor, gained⟩ := origin fqcn m hm
  have made_kind : made.kind = .entity := by
    rw [gained.same] at kind
    exact kind
  obtain ⟨name, space, traits, properties, -, rfl⟩ := madeFor.exists_object made_kind
  have own : m.properties = schemaProperties g.valueObjects g.ambient properties := by
    rw [gained.same]
    exact properties_entityOf name space properties
  have distinct : (m.properties.values.map (·.name)).Nodup := own ▸ nodup_names_schemaProperties properties
  have plain : m.isLikeValueObject = false := by
    simp [ClassModel.isLikeValueObject, ClassModel.isValueObject, kind, unmarked]
  have there : (g.afterGetters state.collection).get? fqcn = some (m.withGetters g.filters g.settings.typed) := by
    rw [afterGetters, Collection.addGetters, Collection.get?_mapClasses, hm]
    rfl
  exact ⟨_, there, exists_finished on there, fun front p back here free =>
    ClassModel.exists_getter plain distinct here free⟩

/-! ## Two properties with one getter -/

section Doubled

open Build

/-- A document of an object with two properties, whose names differ but are split into the same words once they are
filtered. -/
def doubled : Json := .object [("properties",
  .object [("a_b_c", .object [("type", .string "string")]), ("a_bc", .object [("type", .string "string")])])]

def doubledText (name : String) : TypeDef := .string { name } none none

def doubledProperties : List (String × TypeSet) :=
  [("a_b_c", ⟨doubledText "a_b_c", []⟩), ("a_bc", ⟨doubledText "a_bc", []⟩)]

def doubledRoot : TypeDef := .object { name := "r", required := true } doubledProperties

def doubledClass (name : String) : ClassModel :=
  named (Template.Scalar.text.build conventionalNames true (nameOr name "text")) (conventionalNames.className name)
    (extractNamespace (ambient {}) (doubledText name))

def doubledEntity : ClassModel :=
  entityOf (valueObjects {}) (ambient {}) (conventionalNames.className "r")
    (extractNamespace (ambient {}) doubledRoot) doubledProperties

/-- What the build of a property leaves. -/
def addDoubled (s : BuildState) (name : String) : BuildState :=
  (s.report [.valueObjectBuilt (doubledClass name).fqcn "string"]).add (doubledClass name)

def doubledBuilt : BuildState := (addDoubled (addDoubled {} "a_b_c") "a_bc").addEntity doubledEntity

theorem propertyClass_doubled (s : BuildState) (name : String) :
    Runs (propertyClass (valueObjects {}) (ambient {}) name (doubledText name)) s
      (.ok (promisedName (valueObjects {}) (ambient {}) name (doubledText name))) (addDoubled s name) := by
  have text : (valueObjects {}).build (conventionalNames.className name)
      (extractNamespace (ambient {}) (doubledText name)) (doubledText name) =
      .ok (doubledClass name, [.valueObjectBuilt (doubledClass name).fqcn "string"]) := rfl
  exact propertyClass_value trivial text

theorem build_doubled : build {} ⟨doubledRoot, []⟩ "r" = (.ok (), doubledBuilt) :=
  buildSet_of_properties (buildProperties_cons (propertyClass_doubled _ "a_b_c")
    (buildProperties_cons (propertyClass_doubled _ "a_bc") (buildProperties_nil _)))

theorem parse_doubled : Schema.parse doubled "r" = (.ok ⟨doubledRoot, []⟩, []) := by
  unfold doubledRoot doubledProperties doubledText
  cbv

def doubledClasses : Collection := (finish {} doubledBuilt.collection).1

theorem generate_doubled : (generate {} doubled "r").1 = .ok doubledClasses :=
  congrArg Prod.fst (generate_of_build parse_doubled build_doubled)

/-- The entity as it is before it has getters. -/
theorem bare_doubled : ((beforeGetters {} doubledBuilt.collection).get? "App\\R").map (fun m =>
    (m.kind, m.hasMarkerMethod, m.properties.values.map (·.name), m.methods.length)) =
      some (.entity, false, ["aBC", "aBc"], 0) := by
  decide +kernel

theorem entity_doubled : (doubledClasses.get? "App\\R").map (fun m => (m.kind, m.properties.values.map (·.name))) =
    some (.entity, ["aBC", "aBc"]) := by
  decide +kernel

/-- The getter of the first property has been displaced, though there was no method in the way. -/
theorem generate_getters_doubled : ∃ c m p method, (generate {} doubled "r").1 = .ok c ∧ c.get? "App\\R" = some m ∧
    p ∈ m.properties.values ∧ m.methods.at? (conventionalNames.methodName p.name) = some method ∧
    method.body ≠ ["return $this->" ++ p.name ++ ";"] := by
  obtain ⟨set, state, parsed, built, entities⟩ := @generate_getters {} _ _ _ generate_doubled rfl
  rw [parse_doubled] at parsed
  obtain rfl := Except.ok.inj parsed
  obtain rfl := (Prod.mk.inj (build_doubled.symm.trans built)).2
  obtain ⟨m, hm, facts⟩ := Option.map_eq_some_iff.1 bare_doubled
  obtain ⟨last, hl, lastFacts⟩ := Option.map_eq_some_iff.1 entity_doubled
  simp only [Prod.mk.injEq] at facts lastFacts
  obtain ⟨kind, unmarked, names, bare⟩ := facts
  obtain ⟨lastKind, lastNames⟩ := lastFacts
  obtain ⟨m', -, ⟨final, hf, methods⟩, getters⟩ := entities "App\\R" m hm kind unmarked
  obtain rfl : last = final := Option.some.inj (hl.symm.trans hf)
  have stays : last.methods = m'.methods := methods.resolve_left fun thrown => by cases lastKind.symm.trans thrown
  -- the names of both properties are filtered to one
  obtain ⟨p, rest, here, hp, hrest⟩ := List.map_eq_cons_iff.1 names
  obtain ⟨q, _, rfl, hq, -⟩ := List.map_eq_cons_iff.1 hrest
  have one : conventionalNames.methodName q.name = conventionalNames.methodName p.name := by
    rw [hp, hq]
    decide +kernel
  have free : m.hasMethod (conventionalNames.methodName p.name) = false := by
    rw [ClassModel.hasMethod, List.length_eq_zero_iff.1 bare]
    rfl
  obtain ⟨method, there, body⟩ := getters [] p _ here free
  have aBC : "aBC" ∈ last.properties.values.map (·.name) := lastNames ▸ List.mem_cons_self
  obtain ⟨kept, hkept, called⟩ := List.mem_map.1 aBC
  refine ⟨doubledClasses, last, kept, method, generate_doubled, hl, hkept, ?_, fun returns => ?_⟩
  · rw [called, ← hp, stays, there]
  · rw [called, ← hp] at returns
    exact body.1 returns q List.mem_cons_self one

end Doubled

end Generator

end SchemaClasses
