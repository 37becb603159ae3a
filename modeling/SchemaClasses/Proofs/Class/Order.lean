/-
The order in which classes are added is a dependency order, as long as no class is replaced by one of
another shape and no reference leads to a reference: what a class uses is there when its name first comes,
and a later class of that name uses the same.
-/
import SchemaClasses.Proofs.Class.Closure
import SchemaClasses.Proofs.Schema.Unresolved

namespace SchemaClasses

open Template

/-! ## Positions -/

/-- A name comes before another one. -/
def StandsBefore (c : Collection) (first second : String) : Prop := [first, second].Sublist c.names

variable {c c' : Collection} {m m' : ClassModel} {fqcn first second : String}

theorem StandsBefore.add (h : StandsBefore c first second) (m : ClassModel) :
    StandsBefore (c.add m) first second := by
  unfold StandsBefore
  rw [Collection.names_add]
  split
  · exact h
  · exact h.trans (List.sublist_append_left _ _)

/-- What is there stands before a class under a new name. -/
theorem standsBefore_add (there : c.contains first = true) (new : c.get? m.fqcn = none) :
    StandsBefore (c.add m) first m.fqcn := by
  have fresh : m.fqcn ∉ c.names := Entries.at?_eq_none_iff.1 new
  unfold StandsBefore
  rw [Collection.names_add, if_neg fresh]
  exact (List.singleton_sublist.2 (Collection.contains_iff_mem_names.1 there)).append (.refl [m.fqcn])

/-! ## What a class uses -/

/-- The classes that a class uses are among some names: those of an entity's properties, that of a list's
items. -/
structure Uses (names : String → Prop) (m : ClassModel) : Prop where
  entity : m.kind = .entity → HintsAmong names m
  list : m.kind = .valueObject .array → ∃ itemClass conversion, ItemLines m itemClass conversion ∧
    ∀ target ∈ candidates m (plainHint itemClass), names target

variable {names names' : String → Prop}

theorem Uses.mono (h : Uses names m) (sub : ∀ name, names name → names' name) : Uses names' m where
  entity := fun hk => (h.entity hk).mono sub
  list := fun hk =>
    let ⟨itemClass, conversion, lines, all⟩ := h.list hk
    ⟨itemClass, conversion, lines, fun target ht => sub target (all target ht)⟩

theorem HintsAmong.alike (h : HintsAmong names m) (alike : m.Alike m') : HintsAmong names m' := by
  refine ⟨fun fqcn hi => h.imports fqcn (alike.imports.mem_iff.2 hi), fun p hp => ?_⟩
  obtain ⟨fqcn, hn, hs, there⟩ := h.hints p ((alike.properties.map Prod.snd).mem_iff.2 hp)
  rw [alike.space] at there
  exact ⟨fqcn, hn, hs, there.imp_left alike.imports.mem_iff.1⟩

/-- Classes of the same shape use the same. -/
theorem Uses.alike (h : Uses names m) (tidy : m.Tidy) (alike : m.Alike m') : Uses names m' where
  entity := fun hk => (h.entity (alike.kind.trans hk)).alike alike
  list := fun hk => by
    obtain ⟨itemClass, conversion, ⟨current, wraps, arg, items, unwraps⟩, all⟩ := h.list (alike.kind.trans hk)
    rw [alike.method_eq tidy] at current wraps unwraps
    refine ⟨itemClass, conversion, ⟨current, wraps, arg, items, unwraps⟩, fun target ht => all target ?_⟩
    exact mem_candidates_of_perm alike.space.symm alike.imports.symm ht

/-- A class that is neither an entity nor a list uses nothing. -/
theorem uses_nothing (entity : m.kind ≠ .entity) (list : m.kind ≠ .valueObject .array) : Uses names m :=
  ⟨fun hk => absurd hk entity, fun hk => absurd hk list⟩

/-- What every class uses stands before it, and there are no exceptions yet. -/
structure Ordered (c : Collection) : Prop where
  uses : ∀ {fqcn m}, c.get? fqcn = some m → Uses (StandsBefore c · fqcn) m
  kind : ∀ {fqcn m}, c.get? fqcn = some m → m.kind ≠ .exception

theorem ordered_empty : Ordered {} where
  uses := fun h => by cases h
  kind := fun h => by cases h

/-- A class may be added in silence once what it uses is there. -/
theorem Ordered.add (h : Ordered c) (tidy : ∀ fqcn m, c.get? fqcn = some m → m.Tidy) (silent : c.addEvents m = [])
    (hk : m.kind ≠ .exception) (hm : Uses (c.contains · = true) m) : Ordered (c.add m) := by
  refine ⟨fun {fqcn found} hf => ?_, fun {fqcn found} hf => ?_⟩
  · rcases Collection.of_get?_add hf with ⟨rfl, rfl⟩ | ⟨-, hf⟩
    · cases hb : c.get? m.fqcn with
      | none => exact hm.mono fun first there => standsBefore_add there hb
      -- a class that was there before had its place by the same uses
      | some before =>
        have alike := Collection.alike_of_silent silent (tidy _ before hb) hb
        exact ((h.uses hb).alike (tidy _ before hb) alike).mono fun first there => there.add m
    · exact (h.uses hf).mono fun first there => there.add m
  · rcases Collection.of_get?_add hf with ⟨-, rfl⟩ | ⟨-, hf⟩
    · exact hk
    · exact h.kind hf

theorem Ordered.grows (h : Ordered c) (hg : Grows c c') (same : c'.names = c.names) : Ordered c' := by
  have before : ∀ {first second}, StandsBefore c first second → StandsBefore c' first second := by
    unfold StandsBefore
    rw [same]
    exact id
  refine ⟨fun {fqcn found} hf => ?_, fun {fqcn found} hf => ?_⟩
  · obtain ⟨m, hm, paired⟩ := hg.exists_before hf
    have uses := (h.uses hm).mono fun _ hb => before hb
    rcases paired with rfl | ⟨lacks, lines, rfl⟩
    · exact uses
    -- only entities gain the pair
    · refine ⟨fun hk => (uses.entity hk).of_eq rfl rfl rfl, fun hk => ?_⟩
      have hk : m.kind = .valueObject .array := hk
      rw [entity_of_lacks lacks] at hk
      cases hk
  · obtain ⟨m, hm, paired⟩ := hg.exists_before hf
    rw [paired.kind]
    exact h.kind hm

/-! ## Direct references -/

/-- Every reference in a type set leads to something that is no reference itself. -/
def Direct (set : TypeSet) : Prop :=
  ∀ traits pointer inner, Schema.Occurs (.reference traits pointer (some inner)) set →
    ∀ traits' pointer' resolved, inner.first ≠ .reference traits' pointer' resolved

variable {d : TypeDef} {set : TypeSet} {ambient : String}

theorem occurs_of_first (h : Schema.Occurs d ⟨set.first, []⟩) : Schema.Occurs d set := by
  have front : ∀ {d'}, d' ∈ (⟨set.first, []⟩ : TypeSet).toList → d' ∈ set.toList := fun {d'} hd =>
    List.mem_singleton.1 hd ▸ List.mem_cons_self
  cases h with
  | here hd => exact .here (front hd)
  | property hd hp h => exact .property (front hd) hp h
  | item hd hi h => exact .item (front hd) hi h
  | target hd h => exact .target (front hd) h

theorem occurs_of_standsFor {target : TypeDef} (stands : standsFor? set = some target)
    (h : Schema.Occurs d ⟨target, []⟩) : Schema.Occurs d set := by
  obtain ⟨first, others⟩ := set
  cases first with
  | reference _ _ resolved =>
    cases resolved with
    | none => cases stands
    | some inner =>
      obtain ⟨first, others'⟩ := inner
      refine .target List.mem_cons_self (@occurs_of_first d ⟨first, others'⟩ ?_)
      cases first with
      | reference => cases stands
      | _ =>
        cases stands
        exact h
  | _ =>
    cases stands
    exact @occurs_of_first d ⟨_, others⟩ h

theorem occurs_of_walked {d' : TypeDef} {others : List TypeDef} (h : Schema.Occurs d (walked d')) :
    Schema.Occurs d ⟨d', others⟩ := by
  cases d' with
  | reference _ _ resolved =>
    cases resolved with
    | none => exact @occurs_of_first d ⟨_, others⟩ h
    | some inner => exact .target List.mem_cons_self h
  | _ => exact @occurs_of_first d ⟨_, others⟩ h

/-- What is met on the way through a set stands in it. -/
theorem Meets.occurs {entry : String × TypeSet} (h : Meets set entry) (hd : Schema.Occurs d entry.2) :
    Schema.Occurs d set := by
  induction h with
  | property stands he => exact occurs_of_standsFor stands (.property List.mem_cons_self he hd)
  | deeper stands he _ ih =>
    exact occurs_of_standsFor stands (.property List.mem_cons_self he (occurs_of_walked (ih hd)))
  | item stands _ ih =>
    exact occurs_of_standsFor stands (.item List.mem_cons_self List.mem_cons_self (ih hd))

/-- Where references are direct no property strays. -/
theorem Direct.not_strays (h : Direct set) {entry : String × TypeSet} (hm : Meets set entry) :
    ¬ Strays ambient entry.2.first := by
  obtain ⟨key, first, others⟩ := entry
  intro stray
  cases first with
  | reference traits pointer resolved =>
    cases resolved with
    | none => exact stray
    | some inner =>
      obtain ⟨target, stands, -, apart⟩ := stray
      have direct := h traits pointer inner (hm.occurs (.here List.mem_cons_self))
      obtain ⟨first, others⟩ := inner
      cases first with
      | reference => exact direct _ _ _ rfl
      | _ =>
        cases stands
        exact apart rfl
  | _ => exact stray

/-! ## Steps -/

variable {v : ValueObjects} {met : String × TypeSet → Prop} {s s' : BuildState}

theorem uses_list {itemClass space : String} {conversion : Conversion} (list : IsList m itemClass conversion)
    (hn : IsShort itemClass) (hq : '?' ∉ itemClass.toList) (hs : IsTrimmed space)
    (there : HasItemClass c (qualify space itemClass) conversion) :
    Uses (c.contains · = true) (m.addImport (qualify space itemClass)) := by
  refine ⟨fun hk => ?_, fun _ => ⟨itemClass, conversion, list.lines.of_methods (ClassModel.methods_addImport ..), ?_⟩⟩
  · exact absurd ((ClassModel.kind_addImport ..).symm.trans hk) list.ne_entity
  · rw [plainHint_of_not_mem hq, candidates_addImport list.imports hn hs]
    intro target ht
    obtain ⟨t, ht', -⟩ := there
    rw [List.mem_singleton.1 ht]
    exact Collection.contains_of_get? ht'

theorem uses_entity (plain : PlainNames v.filters) (straight : ∀ entry, met entry → ¬ Strays ambient entry.2.first)
    {name space : String} {properties : List (String × TypeSet)} {previous : Option ClassModel}
    (all : ∀ entry ∈ properties, met entry ∧ c.contains (addedName v ambient entry.1 entry.2.first) = true) :
    Uses (c.contains · = true) (Build.keepRawArray previous (entityOf v ambient name space properties)) := by
  have hints : HintsAmong (c.contains · = true) (entityOf v ambient name space properties) := by
    apply hintsAmong_foldl plain properties hintsAmong_entity
    intro entry he
    obtain ⟨hm, there⟩ := all entry he
    have same := not_not.1 fun ne => straight entry hm ((addedName_ne_iff v entry.1 entry.2.first).1 ne)
    rwa [same] at there
  refine ⟨fun _ => ?_, fun hk => ?_⟩
  · apply hints.of_eq <;> rw [keepRawArray_eq]
  · rw [kind_keepRawArray, kind_entityOf] at hk
    cases hk

theorem Step.ordered (plain : PlainNames v.filters)
    (straight : ∀ entry, met entry → ¬ Strays ambient entry.2.first) (h : Step v ambient met s s')
    (silent : Collection.Silent s'.events)
    (tidy : ∀ fqcn m, s.collection.get? fqcn = some m → m.Tidy) (hs : Ordered s.collection) :
    Ordered s'.collection := by
  cases h with
  | report events => exact hs
  | value hd hb =>
    obtain ⟨-, -, conversion, -, value⟩ := build_scalar hd hb
    obtain ⟨kind, hk, -, other⟩ := value.kind
    exact hs.add tidy silent.of_append_right.addEvents_eq (by simp [hk])
      (uses_nothing value.ne_entity (by simp [hk, other]))
  | @list c className traits items item d target source reported hi hb there =>
    obtain ⟨-, -, list⟩ := build_array hi hb
    refine hs.add tidy silent.of_append_right.addEvents_eq ?_ (uses_list list (plain.short _) (plain.unmarked _)
      (isTrimmed_extractNamespace ambient target) there)
    simp [list.kind]
  | @entity name space properties trim all =>
    refine hs.add tidy silent.of_append_right.addEvents_eq ?_ (uses_entity plain straight all)
    simp [kind_entityOf]
  | @pair fqcn c ha =>
    have names := names_addRawArrays s.collection [fqcn]
    rw [ha] at names
    exact hs.grows (grows_of_addRawArrays ha) names

theorem Steps.ordered (plain : PlainNames v.filters)
    (straight : ∀ entry, met entry → ¬ Strays ambient entry.2.first) (h : Steps v ambient met s s')
    (silent : Collection.Silent s'.events) (closed : Closed [] s.collection)
    (hs : Ordered s.collection) : Ordered s'.collection :=
  -- the classes are tidy because the collections stay closed
  (@Steps.keep v ambient met s s'
    (fun s => Collection.Silent s.events → Closed [] s.collection ∧ Ordered s.collection) h
    (fun step before silent =>
      let ⟨closed, ordered⟩ := before (step.silent silent)
      ⟨step.closed plain silent closed,
        step.ordered plain straight silent (fun fqcn m hm => (closed fqcn m hm).tidy) ordered⟩)
    (fun _ => ⟨closed, hs⟩) silent).2

end SchemaClasses
