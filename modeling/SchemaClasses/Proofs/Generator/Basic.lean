/-
One generation taken apart: the document is parsed, its classes are built step by step from nothing,
and what is added to finished classes leaves their names, imports and properties alone.
-/
import SchemaClasses.Generator
import SchemaClasses.Proofs.Class.Graph
import Mathlib

namespace SchemaClasses

/-! ## Additions to finished classes -/

namespace ClassModel

theorem withGetters_eq (filters : NameFilters) (typed : Bool) (c : ClassModel) :
    c.withGetters filters typed = { c with methods := (c.withGetters filters typed).methods } := by
  unfold withGetters
  split
  · rfl
  · exact addMethods_eq _ c

theorem withPropertyConstants_eq (filters : NameFilters) (c : ClassModel) :
    c.withPropertyConstants filters = { c with constants := (c.withPropertyConstants filters).constants } := by
  unfold withPropertyConstants
  split
  · rfl
  · exact foldl_addConstant_eq _ c

end ClassModel

/-- A change of classes that keeps every method and adds no static ones; all that it changes besides
are constants and the flag of types. -/
structure Addition (f : ClassModel → ClassModel) : Prop where
  same : ∀ m, f m = { m with methods := (f m).methods, constants := (f m).constants, typed := (f m).typed }
  keeps : ∀ {m name method}, m.methods.at? name = some method → (f m).methods.at? name = some method
  fresh : ∀ {m name method}, (f m).methods.at? name = some method → method.isStatic = true →
    m.methods.at? name = some method

theorem Addition.kind {f : ClassModel → ClassModel} (h : Addition f) (m : ClassModel) : (f m).kind = m.kind := by
  rw [h.same]

theorem Addition.map_at? {f : ClassModel → ClassModel} {m : ClassModel} {α : Type} (h : Addition f)
    {read : Method → α} {name : String} {value : α} (hm : (m.methods.at? name).map read = some value) :
    ((f m).methods.at? name).map read = some value := by
  obtain ⟨method, there, rfl⟩ := Option.map_eq_some_iff.1 hm
  rw [h.keeps there]
  rfl

theorem addition_setTyped (typed : Bool) : Addition (·.setTyped typed) := ⟨fun _ => rfl, id, fun h _ => h⟩

theorem addition_withGetters (filters : NameFilters) (typed : Bool) : Addition (·.withGetters filters typed) where
  same := fun m => by rw [ClassModel.withGetters_eq]
  keeps := fun {m name method} h => by
    unfold ClassModel.withGetters
    split
    · exact h
    · -- no missing getter has the name of a method that is there
      have none : (m.missingGetters filters typed).reverse.find? (·.name == name) = none := by
        rw [List.find?_eq_none]
        intro getter hg he
        have missing := (List.mem_filter.1 (List.mem_reverse.1 hg)).2
        rw [beq_iff_eq.1 he, ClassModel.hasMethod, Entries.hasName_of_at? h] at missing
        cases missing
      rw [ClassModel.at?_addMethods, none]
      exact h
  fresh := fun {m name method} h static => by
    unfold ClassModel.withGetters at h
    split at h
    · exact h
    · rw [ClassModel.at?_addMethods] at h
      rcases Option.or_eq_some_iff.1 h with h | ⟨-, h⟩
      · have hg := (List.mem_filter.1 (List.mem_reverse.1 (List.mem_of_find?_eq_some h))).1
        obtain ⟨p, -, rfl⟩ := List.mem_map.1 hg
        cases static
      · exact h

theorem addition_withPropertyConstants (filters : NameFilters) : Addition (·.withPropertyConstants filters) := by
  have methods : ∀ m : ClassModel, (m.withPropertyConstants filters).methods = m.methods := fun m => by
    rw [ClassModel.withPropertyConstants_eq]
  refine ⟨fun m => ?_, fun {m _ _} h => ?_, fun {m _ _} h _ => ?_⟩
  · rw [ClassModel.withPropertyConstants_eq]
  · rw [methods]
    exact h
  · rwa [methods] at h

/-- The exception of an enum is an exception. -/
theorem kind_of_exception {filters : NameFilters} {typed : Bool} {m made : ClassModel}
    (h : EnumException.ofClass filters typed m = .ok made) : made.kind = .exception := by
  unfold EnumException.ofClass at h
  split at h
  · obtain rfl := Except.ok.inj h
    unfold EnumException.build
    simp only
    rw [ClassModel.addMethod, ClassModel.addImport_eq, ClassModel.addImport_eq]
  · cases h

namespace Collection

theorem contains_mapClasses {change : ClassModel → ClassModel} {c : Collection} (fqcn : String) :
    (c.mapClasses change).contains fqcn = c.contains fqcn := by
  unfold contains Entries.hasName
  rw [show (c.mapClasses change).classes.at? fqcn = (c.classes.at? fqcn).map change from Entries.at?_map,
    Option.isSome_map]

/-- What holds of a collection and survives each addition holds when all is added. -/
theorem addAll_induction {P : Collection → Prop} : ∀ (models : List ClassModel) {c : Collection}, P c →
    (∀ c', ∀ m ∈ models, (Silent (c.addAll models).2 → c'.addEvents m = []) → P c' → P (c'.add m)) →
    P (c.addAll models).1
  | [], _, h, _ => h
  | m :: rest, c, h, step => by
    have first : P (c.add m) := step c m List.mem_cons_self (fun silent => silent.of_append_left.addEvents_eq) h
    exact addAll_induction rest first fun c' m' hm silent =>
      step c' m' (List.mem_cons_of_mem _ hm) fun all => silent all.of_append_right

end Collection

/-! ## Keys -/

theorem Step.keyed {v : ValueObjects} {ambient : String} {met : String × TypeSet → Prop} {s s' : BuildState}
    (h : Step v ambient met s s') (hk : s.collection.Keyed) : s'.collection.Keyed := by
  cases h with
  | report events => exact hk
  | value | list | entity => exact hk.add _
  | @pair fqcn c ha =>
    have := keyed_addRawArrays s.collection [fqcn] hk
    rw [ha] at this
    exact this

theorem Steps.keyed {v : ValueObjects} {ambient : String} {met : String × TypeSet → Prop} {s s' : BuildState}
    (h : Steps v ambient met s s') (hk : s.collection.Keyed) : s'.collection.Keyed :=
  h.keep (·.keyed) hk

namespace Generator

variable {g : Generator} {schema : Json} {rootName : String} {c : Collection}

/-! ## Stages -/

theorem build_steps {set : TypeSet} {state : BuildState} (h : g.build set rootName = (.ok (), state)) :
    Steps g.valueObjects g.ambient (Meets set) {} state :=
  (buildsSet_all g.valueObjects g.ambient (Meets set) set (isTrimmed_extractNamespace g.ambient set.first)
    (fun _ hm => hm) h).1

/-- A successful generation is parsed, built and finished. -/
theorem generate_ok (h : (g.generate schema rootName).1 = .ok c) : ∃ set state,
    (Schema.parse schema rootName).1 = .ok set ∧ g.build set rootName = (.ok (), state) ∧
      c = (g.finish state.collection).1 ∧ ∃ events, (g.generate schema rootName).2 =
        (Schema.parse schema rootName).2 ++ state.events ++ (g.finish state.collection).2 ++ events := by
  unfold generate at h ⊢
  generalize Schema.parse schema rootName = parsed at h ⊢
  obtain ⟨_ | set, events⟩ := parsed
  · cases h
  · simp only at h ⊢
    generalize hb : g.build set rootName = built at h ⊢
    obtain ⟨_ | _, state⟩ := built
    · cases h
    · exact ⟨set, state, rfl, hb, (Except.ok.inj h).symm, _, rfl⟩

theorem generate_of_build {set : TypeSet} {state : BuildState} (hp : Schema.parse schema rootName = (.ok set, []))
    (hb : g.build set rootName = (.ok (), state)) : g.generate schema rootName =
      (.ok (g.finish state.collection).1, state.events ++ (g.finish state.collection).2 ++
        [.modelBuilt rootName (g.finish state.collection).1.size]) := by
  unfold generate
  rw [hp]
  simp only
  rw [hb]
  rfl

/-- Types, getters and constants are additions to all classes, each made or left out; exceptions come
last. -/
theorem exists_finish {P : Collection → Prop} (h : P c)
    (change : ∀ (f : ClassModel → ClassModel) (c : Collection), Addition f → P c → P (c.mapClasses f)) :
    ∃ before, P before ∧
      g.finish c = if g.settings.exceptions then before.addAll (g.exceptions before) else (before, []) := by
  unfold finish
  simp only
  have typed := change _ c (addition_setTyped g.settings.typed) h
  generalize c.mapClasses (·.setTyped g.settings.typed) = c at typed ⊢
  have getters : P (if g.settings.getters then c.addGetters g.filters g.settings.typed else c) := by
    split
    · exact change _ c (addition_withGetters g.filters g.settings.typed) typed
    · exact typed
  generalize (if g.settings.getters then c.addGetters g.filters g.settings.typed else c) = c at getters ⊢
  have constants : P (if g.settings.constants then c.addPropertyConstants g.filters else c) := by
    split
    · exact change _ c (addition_withPropertyConstants g.filters) getters
    · exact getters
  exact ⟨_, constants, rfl⟩

/-- The exceptions of a collection are exceptions of its enums. -/
theorem mem_exceptions {made : ClassModel} : made ∈ g.exceptions c ↔
    ∃ enum ∈ c.toList, EnumException.ofClass g.filters g.settings.typed enum = .ok made := by
  unfold exceptions
  rw [List.mem_filterMap]
  constructor
  · rintro ⟨enum, hm, he⟩
    exact ⟨enum, hm, eq_ok_of_toOption he⟩
  · rintro ⟨enum, hm, he⟩
    refine ⟨enum, hm, ?_⟩
    rw [he]
    rfl

/-- What holds of a collection holds of the finished one, if it survives additions to all classes and
the addition of exceptions. -/
theorem finish_induction {P : Collection → Prop} (h : P c)
    (change : ∀ (f : ClassModel → ClassModel) (c : Collection), Addition f → P c → P (c.mapClasses f))
    (exception : ∀ (c' : Collection) m, m.kind = .exception →
      (Collection.Silent (g.finish c).2 → c'.addEvents m = []) → P c' → P (c'.add m)) : P (g.finish c).1 := by
  obtain ⟨before, hb, last⟩ := @exists_finish g c P h change
  rw [last] at exception ⊢
  split at exception
  · rename_i exceptions
    rw [if_pos exceptions]
    apply Collection.addAll_induction _ hb
    intro c' m hm silent
    obtain ⟨enum, -, made⟩ := mem_exceptions.1 hm
    exact exception c' m (kind_of_exception made) silent
  · rename_i none
    rw [if_neg none]
    exact hb

theorem keyed_finish (h : c.Keyed) : (g.finish c).1.Keyed := by
  apply finish_induction h
  · intro f c addition hk
    apply hk.mapClasses
    intro m
    rw [addition.same]
    rfl
  · exact fun c m _ _ hk => hk.add m

end Generator

end SchemaClasses
