/-
Where the classes of a result come from: from definitions of the schema, with members added, and from enums
among these, whose exceptions are added last.
-/
import SchemaClasses.Proofs.Class.Origin
import SchemaClasses.Proofs.Generator.Basic

namespace SchemaClasses

/-! ## Adding several classes -/

namespace Collection

variable {m found : ClassModel} {fqcn : String}

/-- Classes of other names leave a class where it is. -/
theorem get?_addAll_of_ne : ∀ {models : List ClassModel} {c : Collection},
    (∀ m ∈ models, m.fqcn ≠ fqcn) → (c.addAll models).1.get? fqcn = c.get? fqcn
  | [], _, _ => rfl
  | first :: rest, c, other => by
    rw [List.forall_mem_cons] at other
    unfold addAll
    simp only
    rw [get?_addAll_of_ne other.2, get?_add, if_neg other.1.symm]

/-- A class that is there after several additions is one of those added, or was there before under a name
that none of them has. -/
theorem of_get?_addAll : ∀ (models : List ClassModel) {c : Collection},
    (c.addAll models).1.get? fqcn = some found →
      (found ∈ models ∧ found.fqcn = fqcn) ∨ ((∀ m ∈ models, m.fqcn ≠ fqcn) ∧ c.get? fqcn = some found)
  | [], c, h => .inr ⟨fun _ hm => (by cases hm), h⟩
  | m :: rest, c, h => by
    rcases of_get?_addAll rest h with ⟨hm, he⟩ | ⟨others, h⟩
    · exact .inl ⟨List.mem_cons_of_mem _ hm, he⟩
    · rcases of_get?_add h with ⟨rfl, rfl⟩ | ⟨hn, h⟩
      · exact .inl ⟨List.mem_cons_self, rfl⟩
      · exact .inr ⟨List.forall_mem_cons.2 ⟨hn.symm, others⟩, h⟩

/-- Under the name of an added class stands one of those added. -/
theorem exists_of_mem_addAll : ∀ (models : List ClassModel) {c : Collection} {m : ClassModel}, m ∈ models →
    ∃ last ∈ models, last.fqcn = m.fqcn ∧ (c.addAll models).1.get? m.fqcn = some last
  | first :: rest, c, m, hm => by
    -- the last one with the name is found in the rest, if there is one
    by_cases later : ∃ m' ∈ rest, m'.fqcn = m.fqcn
    · obtain ⟨m', hm', he⟩ := later
      obtain ⟨last, hl, same, there⟩ := exists_of_mem_addAll rest (c := c.add first) hm'
      rw [he] at same there
      exact ⟨last, List.mem_cons_of_mem _ hl, same, there⟩
    · obtain rfl : m = first := (List.mem_cons.1 hm).resolve_right fun hr => later ⟨m, hr, rfl⟩
      have there : ((c.add m).addAll rest).1.get? m.fqcn = some m := by
        apply addAll_induction rest (P := fun c => c.get? m.fqcn = some m) get?_add_self
        intro c' m' hm' _ there
        rw [get?_add, if_neg fun he => later ⟨m', hm', he.symm⟩]
        exact there
      exact ⟨m, List.mem_cons_self, rfl, there⟩

end Collection

theorem Addition.gained {f : ClassModel → ClassModel} (h : Addition f) (m : ClassModel) : Gained m (f m) := by
  refine ⟨?_, h.keeps⟩
  exact h.same m

theorem Originates.mapClasses {v : ValueObjects} {ambient : String} {built : TypeDef → Prop} {c : Collection}
    {f : ClassModel → ClassModel} (h : Originates v ambient built c) (addition : Addition f) :
    Originates v ambient built (c.mapClasses f) := by
  intro fqcn found hf
  obtain ⟨m, hm, rfl⟩ := Collection.of_get?_mapClasses hf
  obtain ⟨made, origin, gained⟩ := h fqcn m hm
  exact ⟨made, origin, gained.trans (addition.gained m)⟩

/-! ## Results -/

namespace Generator

variable {g : Generator} {schema : Json} {rootName : String} {c : Collection}

theorem originates_build {set : TypeSet} {state : BuildState} (h : g.build set rootName = (.ok (), state)) :
    Originates g.valueObjects g.ambient (Builds set) state.collection :=
  (originatesSet_all g.valueObjects g.ambient (Builds set) set
    (isTrimmed_extractNamespace g.ambient set.first) fun _ hb => hb).keeps h originates_empty

/-- The classes of a result are those of definitions of the schema, with members added; where the settings
ask for exceptions, those of the enums among them are added last. -/
theorem generate_originates (h : (g.generate schema rootName).1 = .ok c) :
    ∃ set before, (Schema.parse schema rootName).1 = .ok set ∧ before.Keyed ∧
      Originates g.valueObjects g.ambient (Builds set) before ∧
      c = if g.settings.exceptions then (before.addAll (g.exceptions before)).1 else before := by
  obtain ⟨set, state, hp, hb, rfl, -⟩ := generate_ok h
  have keyed := (build_steps hb).keyed Collection.keyed_empty
  obtain ⟨before, ⟨keyed, origin⟩, last⟩ := @exists_finish g _
    (fun c => c.Keyed ∧ Originates g.valueObjects g.ambient (Builds set) c)
    ⟨keyed, originates_build hb⟩ fun f c addition hs =>
      ⟨hs.1.mapClasses fun m => by rw [addition.same]; rfl, hs.2.mapClasses addition⟩
  refine ⟨set, before, hp, keyed, origin, ?_⟩
  rw [last]
  split
  · rfl
  · rfl

end Generator

end SchemaClasses
