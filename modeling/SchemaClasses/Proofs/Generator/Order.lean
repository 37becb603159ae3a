/-
The classes of a result stand in dependency order, and exceptions stand last.
-/
import SchemaClasses.Proofs.Class.Order
import SchemaClasses.Proofs.Generator.RawArray

namespace SchemaClasses

/-- What every class uses stands before it, and every exception stands behind all other classes. -/
structure Ranked (c : Collection) : Prop where
  uses : ∀ {fqcn m}, c.get? fqcn = some m → Uses (StandsBefore c · fqcn) m
  last : ∀ {fqcn m other found}, c.get? fqcn = some m → m.kind = .exception → c.get? other = some found →
    found.kind ≠ .exception → StandsBefore c other fqcn

variable {c : Collection} {m : ClassModel} {f : ClassModel → ClassModel} {names : String → Prop}

theorem Ordered.ranked (h : Ordered c) : Ranked c :=
  ⟨h.uses, fun hm exception => absurd exception (h.kind hm)⟩

/-! ## Additions -/

theorem Uses.addition (h : Uses names m) (addition : Addition f) : Uses names (f m) where
  entity := fun hk => by
    rw [addition.kind] at hk
    apply (h.entity hk).of_eq <;> rw [addition.same]
  list := fun hk => by
    rw [addition.kind] at hk
    obtain ⟨itemClass, conversion, lines, all⟩ := h.list hk
    refine ⟨itemClass, conversion, lines.addition addition, ?_⟩
    rw [addition.candidates_eq]
    exact all

theorem Ranked.addition (h : Ranked c) (addition : Addition f) : Ranked (c.mapClasses f) := by
  have same : ∀ {first second}, StandsBefore (c.mapClasses f) first second ↔ StandsBefore c first second := by
    intro first second
    unfold StandsBefore
    rw [Collection.names_mapClasses]
  constructor
  · intro fqcn _ hm
    obtain ⟨before, hb, rfl⟩ := Collection.of_get?_mapClasses hm
    exact ((h.uses hb).addition addition).mono fun first => same.2
  · intro fqcn m other m' hm exception hm' none
    obtain ⟨before, hb, rfl⟩ := Collection.of_get?_mapClasses hm
    obtain ⟨before', hb', rfl⟩ := Collection.of_get?_mapClasses hm'
    rw [addition.kind] at exception none
    exact same.2 (h.last hb exception hb' none)

/-- An exception comes last, or takes the place of an exception. -/
theorem Ranked.exception (h : Ranked c) (hk : m.kind = .exception) (silent : c.addEvents m = []) :
    Ranked (c.add m) := by
  constructor
  · intro fqcn found hf
    rcases Collection.of_get?_add hf with ⟨-, rfl⟩ | ⟨-, hf⟩
    · exact uses_nothing (by simp [hk]) (by simp [hk])
    · exact (h.uses hf).mono fun first there => there.add m
  · intro fqcn found other found' hf exception hf' none
    have hf' : c.get? other = some found' := by
      rcases Collection.of_get?_add hf' with ⟨-, rfl⟩ | ⟨-, hf'⟩
      · exact absurd hk none
      · exact hf'
    rcases Collection.of_get?_add hf with ⟨rfl, -⟩ | ⟨-, hf⟩
    · cases hb : c.get? m.fqcn with
      | none => exact standsBefore_add (Collection.contains_of_get? hf') hb
      | some before =>
        exact (h.last hb ((Collection.kind_of_silent silent hb).trans hk) hf' none).add m
    · exact (h.last hf exception hf' none).add m

/-! ## Results -/

/-- The order of a collection is a dependency order: the class of every property of an entity and the item
class of every list stand strictly before it, and every exception stands behind all other classes. -/
structure InDependencyOrder (c : Collection) : Prop where
  distinct : c.names.Nodup
  entity : ∀ m ∈ c.toList, m.kind = .entity → ∀ p ∈ m.properties.values, StandsBefore c (hinted m p) m.fqcn
  list : ∀ m ∈ c.toList, m.kind = .valueObject .array → ∃ itemClass conversion, ItemLines m itemClass conversion ∧
    StandsBefore c (importedOrLocal m (plainHint itemClass)) m.fqcn
  exception : ∀ m ∈ c.toList, m.kind = .exception → ∀ other ∈ c.toList, other.kind ≠ .exception →
    StandsBefore c other.fqcn m.fqcn

theorem Ranked.inDependencyOrder (h : Ranked c) (keyed : c.Keyed) : InDependencyOrder c where
  distinct := keyed.distinct
  entity := fun _ hm hk => ((h.uses (keyed.mem_toList_iff.1 hm)).entity hk).hinted
  list := fun m hm hk =>
    let ⟨itemClass, conversion, lines, all⟩ := (h.uses (keyed.mem_toList_iff.1 hm)).list hk
    ⟨itemClass, conversion, lines, all _ (importedOrLocal_mem m _)⟩
  exception := fun _ hm exception _ ho none =>
    h.last (keyed.mem_toList_iff.1 hm) exception (keyed.mem_toList_iff.1 ho) none

namespace Generator

variable {g : Generator}

theorem ranked_finish (h : Ranked c) (silent : Collection.Silent (g.finish c).2) : Ranked (g.finish c).1 :=
  finish_induction h (fun _ _ addition hs => hs.addition addition)
    fun _ _ hk quiet hs => hs.exception hk (quiet silent)

/-- A result without replaced classes is in dependency order, if no reference of the document leads to a
reference. -/
theorem generate_order (plain : PlainNames g.filters) {schema : Json} {rootName : String}
    (h : (g.generate schema rootName).1 = .ok c) (silent : Collection.Silent (g.generate schema rootName).2)
    (direct : ∀ set, (Schema.parse schema rootName).1 = .ok set → Direct set) : InDependencyOrder c := by
  obtain ⟨set, state, hp, hb, rfl, events, he⟩ := generate_ok h
  rw [he] at silent
  have steps := build_steps hb
  have keyed := @keyed_finish g _ (steps.keyed Collection.keyed_empty)
  have built := silent.of_append_left.of_append_left.of_append_right
  have plain : PlainNames g.valueObjects.filters := plain
  have ordered := steps.ordered plain (fun _ hm => (direct set hp).not_strays hm) built closed_empty ordered_empty
  exact (ranked_finish ordered.ranked silent.of_append_left.of_append_right).inDependencyOrder keyed

/-! ## An object with an enum -/

section Sized

open Build

/-- A document with a reference to an enum, which gets an exception. -/
def sized : Json := .object [
  ("properties", .object [("size", .object [("$ref", .string "#/definitions/size")])]),
  ("definitions", .object [("size", .object [("enum", .array [.string "s"])])])]

def sizedTarget : TypeSet := ⟨.string { name := "size" } none (some ["s"]), []⟩

def sizedProperty : TypeDef := .reference { name := "size" } "#/definitions/size" (some sizedTarget)

def sizedRoot : TypeDef := .object { name := "r", required := true } [("size", ⟨sizedProperty, []⟩)]

def sizedMade : ClassModel × List Event := Template.Enum.build conventionalNames true "size" ["s"]

def sizedEnum : ClassModel := ValueObjects.withException conventionalNames
  (named sizedMade.1 (conventionalNames.className "size") (extractNamespace (ambient {}) sizedTarget.first))

def sizedEntity : ClassModel :=
  entityOf (valueObjects {}) (ambient {}) (conventionalNames.className "r")
    (extractNamespace (ambient {}) sizedRoot) [("size", ⟨sizedProperty, []⟩)]

/-- What the build of the property leaves. -/
def sizedState : BuildState :=
  (BuildState.report {} (sizedMade.2 ++ [.valueObjectBuilt sizedEnum.fqcn "string"])).add sizedEnum

def sizedBuilt : BuildState := sizedState.addEntity sizedEntity

theorem propertyClass_sized : Runs (propertyClass (valueObjects {}) (ambient {}) "size" sizedProperty) {}
    (.ok (promisedName (valueObjects {}) (ambient {}) "size" sizedProperty)) sizedState :=
  propertyClass_reference_value trivial rfl

theorem build_sized : build {} ⟨sizedRoot, []⟩ "r" = (.ok (), sizedBuilt) :=
  buildSet_single propertyClass_sized

theorem parse_sized : Schema.parse sized "r" = (.ok ⟨sizedRoot, []⟩, []) := by
  unfold sizedRoot sizedProperty sizedTarget
  cbv

theorem direct_sized : Direct ⟨sizedRoot, []⟩ := by
  -- the property is the only reference, and the enum the only thing that it leads to
  have target : ∀ {traits pointer inner}, ¬ Schema.Occurs (.reference traits pointer (some inner)) sizedTarget := by
    intro traits pointer inner h
    cases h with
    | here hd | property hd | item hd | target hd => cases List.mem_singleton.1 hd
  have property : ∀ {traits pointer inner},
      Schema.Occurs (.reference traits pointer (some inner)) ⟨sizedProperty, []⟩ → inner = sizedTarget := by
    intro traits pointer inner h
    cases h with
    | property hd | item hd => cases List.mem_singleton.1 hd
    | here hd =>
      cases List.mem_singleton.1 hd
      rfl
    | target hd h =>
      cases List.mem_singleton.1 hd
      exact absurd h target
  intro traits pointer inner h
  cases h with
  | here hd | item hd | target hd => cases List.mem_singleton.1 hd
  | property hd hp h =>
    cases List.mem_singleton.1 hd
    cases List.mem_singleton.1 hp
    rw [property h]
    rintro _ _ _ ⟨⟩

def sizedClasses : Collection := (finish {} sizedBuilt.collection).1

theorem generate_sized : (generate {} sized "r").1 = .ok sizedClasses :=
  congrArg Prod.fst (generate_of_build parse_sized build_sized)

theorem silent_sized : Collection.Silent (generate {} sized "r").2 := by
  rw [congrArg Prod.snd (generate_of_build parse_sized build_sized)]
  exact Collection.silent_of_all (by decide +kernel)

theorem entity_sized : (sizedClasses.get? "App\\R").map (fun m =>
    (m.kind, m.fqcn, m.properties.values.map (hinted m))) = some (.entity, "App\\R", ["App\\Size"]) := by
  decide +kernel

theorem exception_sized : (sizedClasses.get? "App\\Exception\\InvalidSize").map (fun m => (m.kind, m.fqcn)) =
    some (.exception, "App\\Exception\\InvalidSize") := by decide +kernel

/-- The enum comes before the object, and its exception comes last. -/
theorem generate_order_sized : ∃ c, (generate {} sized "r").1 = .ok c ∧ StandsBefore c "App\\Size" "App\\R" ∧
    StandsBefore c "App\\R" "App\\Exception\\InvalidSize" := by
  have order := @generate_order _ {} plainNames_conventional _ _ generate_sized silent_sized fun set hp => by
    rw [parse_sized] at hp
    exact Except.ok.inj hp ▸ direct_sized
  obtain ⟨m, hm, he⟩ := Option.map_eq_some_iff.1 entity_sized
  have hm : m ∈ sizedClasses.toList := Collection.mem_toList_of_get? hm
  simp only [Prod.mk.injEq] at he
  obtain ⟨entity, fqcn, hints⟩ := he
  obtain ⟨thrown, ht, he⟩ := Option.map_eq_some_iff.1 exception_sized
  have ht : thrown ∈ sizedClasses.toList := Collection.mem_toList_of_get? ht
  simp only [Prod.mk.injEq] at he
  obtain ⟨exception, fqcn'⟩ := he
  have listed : "App\\Size" ∈ m.properties.values.map (hinted m) := by
    rw [hints]
    exact List.mem_singleton_self _
  obtain ⟨p, hp, hint⟩ := List.mem_map.1 listed
  refine ⟨sizedClasses, generate_sized, ?_, ?_⟩
  · rw [← hint, ← fqcn]
    exact order.entity m hm entity p hp
  · rw [← fqcn, ← fqcn']
    exact order.exception thrown ht exception m hm (by simp [entity])

end Sized

end Generator

end SchemaClasses
