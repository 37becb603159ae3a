/-
The raw array form is closed: what an entity with the pair converts its properties with is there, and
so is what a list makes its items with. While the work list runs, some entities are still to come.
-/
import SchemaClasses.Proofs.Class.Growth
import SchemaClasses.Proofs.Class.ValueObject

namespace SchemaClasses

/-! ## Candidates of a short name -/

/-- The classes that a short name may stand for, whatever the order of the imports: the imports of that
short name, else the class of the own namespace. -/
def candidates (m : ClassModel) (short : String) : List String :=
  match m.imports.filter fun fqcn => shortName fqcn == short with
  | [] => [qualify m.space short]
  | found => found

theorem importedOrLocal_congr {m m' : ClassModel} (space : m'.space = m.space) (imports : m'.imports = m.imports)
    (short : String) : importedOrLocal m' short = importedOrLocal m short := by
  unfold importedOrLocal
  rw [space, imports]

/-- A short name stands for the first of its candidates. -/
theorem importedOrLocal_eq (m : ClassModel) (short : String) :
    some (importedOrLocal m short) = (candidates m short).head? := by
  unfold importedOrLocal candidates
  rw [← List.head?_filter]
  cases m.imports.filter fun fqcn => shortName fqcn == short <;> rfl

theorem importedOrLocal_mem (m : ClassModel) (short : String) : importedOrLocal m short ∈ candidates m short :=
  List.mem_of_mem_head? (importedOrLocal_eq m short).symm

/-- Classes of the same shape have the same candidates. -/
theorem mem_candidates_of_perm {m m' : ClassModel} (space : m.space = m'.space) (imports : m.imports.Perm m'.imports)
    {short fqcn : String} (h : fqcn ∈ candidates m short) : fqcn ∈ candidates m' short := by
  have perm := imports.filter fun fqcn => shortName fqcn == short
  unfold candidates at h ⊢
  rw [space] at h
  generalize m.imports.filter _ = found, m'.imports.filter _ = found' at h perm ⊢
  cases found with
  | nil =>
    rw [List.nil_perm.1 perm]
    exact h
  | cons first rest =>
    cases found' with
    | nil => cases List.perm_nil.1 perm
    | cons first' rest' => exact perm.mem_iff.1 h

theorem candidates_congr {m m' : ClassModel} (space : m'.space = m.space) (imports : m'.imports = m.imports)
    (short : String) : candidates m' short = candidates m short := by
  unfold candidates
  rw [space, imports]

/-- Where there are several candidates, they are imports of the short name. -/
theorem import_of_candidates {m : ClassModel} {short a b : String} (ha : a ∈ candidates m short)
    (hb : b ∈ candidates m short) (ne : a ≠ b) : a ∈ m.imports ∧ shortName a = short := by
  have among : ∀ fqcn ∈ m.imports.filter (fun fqcn => shortName fqcn == short),
      fqcn ∈ m.imports ∧ shortName fqcn = short := fun fqcn hf =>
    ⟨(List.mem_filter.1 hf).1, beq_iff_eq.1 (List.mem_filter.1 hf).2⟩
  unfold candidates at ha hb
  generalize m.imports.filter _ = found at among ha hb
  cases found with
  | nil => exact absurd ((List.mem_singleton.1 ha).trans (List.mem_singleton.1 hb).symm) ne
  | cons first rest => exact among a ha

/-- In another order of the imports a short name stands for the same class, unless both classes are
imports of that name. -/
theorem imports_of_reordered {m : ClassModel} {imports : List String} (perm : imports.Perm m.imports) {short : String}
    (ne : importedOrLocal m short ≠ importedOrLocal { m with imports := imports } short) :
    importedOrLocal m short ∈ m.imports ∧ importedOrLocal { m with imports := imports } short ∈ m.imports ∧
      shortName (importedOrLocal m short) = shortName (importedOrLocal { m with imports := imports } short) := by
  have now := importedOrLocal_mem m short
  have before : importedOrLocal { m with imports := imports } short ∈ candidates m short :=
    @mem_candidates_of_perm { m with imports := imports } m rfl perm _ _ (importedOrLocal_mem _ short)
  obtain ⟨imported, named⟩ := import_of_candidates now before ne
  obtain ⟨imported', named'⟩ := import_of_candidates before now ne.symm
  exact ⟨imported, imported', named.trans named'.symm⟩

/-! ## What stays -/

variable {c c' : Collection} {fqcn : String} {m : ClassModel} {pending rest : List String}

/-- No class that converts goes, and none changes its kind or loses a method. -/
def KeepsConversions (c c' : Collection) : Prop :=
  ∀ fqcn m conversion, c.get? fqcn = some m → m.kind.conversion? = some conversion →
    ∃ m', c'.get? fqcn = some m' ∧ m'.kind = m.kind ∧ ∀ name, m.hasMethod name = true → m'.hasMethod name = true

theorem hasMethod_withRawArray {lines : List PropertyLines} {name : String} (h : m.hasMethod name = true) :
    (m.withRawArray lines).hasMethod name = true := by
  simp [ClassModel.withRawArray, hasMethod_addMethod, h]

theorem converts_withRawArray (lines : List PropertyLines) (m : ClassModel) :
    (m.withRawArray lines).Converts .array := by
  constructor <;> simp [ClassModel.withRawArray, hasMethod_addMethod, fromArrayMethod, toArrayMethod,
    Method.namedConstructor, Conversion.array]

theorem Grows.keepsConversions (h : Grows c c') : KeepsConversions c c' := by
  intro fqcn m conversion hm hk
  obtain ⟨m', hm', hp⟩ := h.exists_paired hm
  refine ⟨m', hm', hp.kind, fun name hn => ?_⟩
  rcases hp with rfl | ⟨-, lines, rfl⟩
  · exact hn
  · exact hasMethod_withRawArray hn

/-- Adding a class in silence keeps the conversions: it replaces one of the same shape at most. -/
theorem keepsConversions_add (tidy : ∀ fqcn m, c.get? fqcn = some m → m.Tidy) (silent : c.addEvents m = []) :
    KeepsConversions c (c.add m) := by
  intro fqcn found conversion hf hk
  rw [Collection.get?_add]
  split
  · rename_i he
    subst he
    have alike := Collection.alike_of_silent silent (tidy _ _ hf) hf
    exact ⟨m, rfl, alike.kind.symm, fun name hn => (alike.hasMethod_eq (tidy _ _ hf) name).symm.trans hn⟩
  · exact ⟨found, hf, rfl, fun _ hn => hn⟩

/-! ## Closed collections -/

/-- A class that converts, or an entity whose pair is still to come. -/
def Converting (pending : List String) (c : Collection) (fqcn : String) : Prop :=
  ∃ m conversion, c.get? fqcn = some m ∧ m.kind.conversion? = some conversion ∧
    (m.Converts conversion ∨ m.kind = .entity ∧ fqcn ∈ pending)

theorem Converting.keeps (h : Converting pending c fqcn) (keeps : KeepsConversions c c') :
    Converting pending c' fqcn := by
  obtain ⟨m, conversion, hm, hk, hc⟩ := h
  obtain ⟨m', hm', kind, methods⟩ := keeps fqcn m conversion hm hk
  refine ⟨m', conversion, hm', kind ▸ hk, ?_⟩
  rcases hc with ⟨hw, hu⟩ | ⟨entity, hp⟩
  · exact .inl ⟨methods _ hw, methods _ hu⟩
  · exact .inr ⟨kind.trans entity, hp⟩

/-- What a list makes its items with is there. -/
def ListClosed (c : Collection) (m : ClassModel) : Prop :=
  ∃ itemClass conversion target, ItemLines m itemClass conversion ∧
    (∀ fqcn ∈ candidates m (plainHint itemClass), fqcn = target) ∧
    ∃ t, c.get? target = some t ∧ t.kind.conversion? = some conversion ∧ t.Converts conversion

theorem ListClosed.keeps (h : ListClosed c m) (keeps : KeepsConversions c c') : ListClosed c' m := by
  obtain ⟨itemClass, conversion, target, lines, only, t, ht, hk, hw, hu⟩ := h
  obtain ⟨t', ht', kind, methods⟩ := keeps target t conversion ht hk
  exact ⟨itemClass, conversion, target, lines, only, t', ht', kind ▸ hk, methods _ hw, methods _ hu⟩

/-- The pair of an entity is complete, and its properties convert or are still to come. The imports are
in the order that they had when the pair was made. -/
def EntityClosed (pending : List String) (c : Collection) (m : ClassModel) : Prop :=
  m.hasMethod "toArray" = true ∧ ∃ imports, imports.Perm m.imports ∧ ∀ p ∈ m.properties.values,
    Converting pending c (importedOrLocal { m with imports := imports } (plainHint p.typeHint))

/-- A class of a collection is closed: a value object converts as its kind says, an entity with the pair
and a list find what they convert with. -/
structure ClassClosed (pending : List String) (c : Collection) (m : ClassModel) : Prop where
  tidy : m.Tidy
  value : ∀ kind, m.kind = .valueObject kind → m.Converts kind.conversion
  entity : m.kind = .entity → m.hasMethod "fromArray" = true → EntityClosed pending c m
  list : m.kind = .valueObject .array → ListClosed c m

/-- All classes are closed. -/
def Closed (pending : List String) (c : Collection) : Prop :=
  ∀ fqcn m, c.get? fqcn = some m → ClassClosed pending c m

theorem ClassClosed.keeps (h : ClassClosed pending c m) (keeps : KeepsConversions c c') : ClassClosed pending c' m where
  tidy := h.tidy
  value := h.value
  entity := fun hk hm =>
    let ⟨pair, imports, perm, all⟩ := h.entity hk hm
    ⟨pair, imports, perm, fun p hp => (all p hp).keeps keeps⟩
  list := fun hk => (h.list hk).keeps keeps

/-- Entities that are no longer to come need no place in the work list. -/
theorem ClassClosed.weaken {pending' : List String} (h : ClassClosed pending c m)
    (sub : ∀ target, Converting pending c target → Converting pending' c target) : ClassClosed pending' c m where
  tidy := h.tidy
  value := h.value
  entity := fun hk hm =>
    let ⟨pair, imports, perm, all⟩ := h.entity hk hm
    ⟨pair, imports, perm, fun p hp => sub _ (all p hp)⟩
  list := h.list

theorem closed_empty : Closed pending {} := fun _ _ h => by cases h

/-- A class that does not lack the pair converts. -/
theorem Closed.converts (h : Closed pending c) (hm : c.get? fqcn = some m) (lacks : lacksRawArray m = false)
    {conversion : Conversion} (hk : m.kind.conversion? = some conversion) : m.Converts conversion := by
  cases kind : m.kind with
  | entity =>
    rw [kind] at hk
    obtain rfl := Option.some.inj hk
    have pair : m.hasMethod "fromArray" = true := by simpa [lacksRawArray, kind] using lacks
    exact ⟨pair, ((h fqcn m hm).entity kind pair).1⟩
  | valueObject k =>
    rw [kind] at hk
    obtain rfl := Option.some.inj hk
    exact (h fqcn m hm).value k kind
  | exception =>
    rw [kind] at hk
    cases hk

/-! ## The work list -/

theorem propertyLines_ok {p : Property} {line : PropertyLines} (h : propertyLines c m p = .ok line) :
    ∃ t conversion, c.get? line.fqcn = some t ∧ t.kind.conversion? = some conversion ∧
      line.fqcn = importedOrLocal m (plainHint p.typeHint) ∧ line.isEntity = (t.kind == .entity) := by
  unfold propertyLines at h
  simp only at h
  split at h
  · cases h
  · rename_i t ht
    split at h
    · cases h
    · rename_i conversion hk
      obtain rfl := Except.ok.inj h
      split
      · exact ⟨t, conversion, ht, hk, rfl, rfl⟩
      · exact ⟨t, conversion, ht, hk, rfl, rfl⟩

/-- The lines of all properties are those of each one. -/
theorem forall₂_allPropertyLines : ∀ {ps : List Property} {lines : List PropertyLines},
    allPropertyLines c m ps = .ok lines → List.Forall₂ (fun p line => propertyLines c m p = .ok line) ps lines
  | [], _, h => by
    obtain rfl := Except.ok.inj h
    exact .nil
  | p :: rest, lines, h => by
    unfold allPropertyLines at h
    obtain ⟨line, hl, h⟩ := except_bind_eq_ok.1 h
    obtain ⟨others, ho, h⟩ := except_bind_eq_ok.1 h
    obtain rfl := Except.ok.inj h
    exact .cons hl (forall₂_allPropertyLines ho)

/-- A name may leave the work list once its class does not lack the pair. -/
theorem Closed.done (h : Closed (fqcn :: rest) c)
    (lacks : ∀ m, c.get? fqcn = some m → lacksRawArray m = false) : Closed rest c := by
  refine fun other m hm => (h other m hm).weaken fun target ⟨t, conversion, ht, hk, hc⟩ => ⟨t, conversion, ht, hk, ?_⟩
  rcases hc with hc | ⟨entity, hp⟩
  · exact .inl hc
  · rcases List.mem_cons.1 hp with rfl | hp
    -- the class that leaves the list has what it was waiting for
    · exact .inl (h.converts ht (lacks t ht) hk)
    · exact .inr ⟨entity, hp⟩

/-- An entity that gains the pair puts the entities of its properties on the work list. -/
theorem Closed.gain {lines : List PropertyLines} (h : Closed (fqcn :: rest) c) (hm : c.get? fqcn = some m)
    (lacks : lacksRawArray m = true) (ho : allPropertyLines c m m.properties.values = .ok lines) :
    Closed (entitiesOf lines ++ rest) (c.adjust fqcn (·.withRawArray lines)) := by
  have keeps : KeepsConversions c (c.adjust fqcn (·.withRawArray lines)) := (grows_adjust hm lacks).keepsConversions
  have kind := entity_of_lacks lacks
  have gained : (c.adjust fqcn (·.withRawArray lines)).get? fqcn = some (m.withRawArray lines) := by
    rw [Collection.get?_adjust, if_pos rfl, hm]
    rfl
  -- the entity itself no longer waits: it has the pair now
  have sub : ∀ target, Converting (fqcn :: rest) (c.adjust fqcn (·.withRawArray lines)) target →
      Converting (entitiesOf lines ++ rest) (c.adjust fqcn (·.withRawArray lines)) target := by
    rintro target ⟨t, conversion, ht, hk, hc⟩
    refine ⟨t, conversion, ht, hk, ?_⟩
    rcases hc with hc | ⟨entity, hp⟩
    · exact .inl hc
    · rcases List.mem_cons.1 hp with rfl | hp
      · obtain rfl := Option.some.inj (gained.symm.trans ht)
        rw [entity] at hk
        obtain rfl := Option.some.inj hk
        exact .inl (converts_withRawArray lines m)
      · exact .inr ⟨entity, List.mem_append_right _ hp⟩
  intro other found hf
  rw [Collection.get?_adjust] at hf
  split at hf
  · rename_i he
    subst he
    rw [hm] at hf
    obtain rfl := Option.some.inj hf
    have closed := h _ m hm
    refine ⟨(closed.tidy.addMethod _).addMethod _, fun k hk => ?_, fun _ _ => ?_, fun hk => ?_⟩
    · have hk : m.kind = .valueObject k := hk
      rw [kind] at hk
      cases hk
    · refine ⟨(converts_withRawArray lines m).2, m.imports, .refl _, fun p hp => ?_⟩
      obtain ⟨line, hl, hp⟩ := exists_right_of_forall₂ (forall₂_allPropertyLines ho) hp
      obtain ⟨t, conversion, ht, hk, hn, entity⟩ := propertyLines_ok hp
      have same : importedOrLocal { m.withRawArray lines with imports := m.imports } (plainHint p.typeHint) =
          line.fqcn := hn.symm
      rw [same]
      obtain ⟨t', ht', kind', methods⟩ := keeps _ t conversion ht hk
      refine ⟨t', conversion, ht', kind' ▸ hk, ?_⟩
      -- an entity goes on the work list, any other class converts already
      by_cases he : t.kind = .entity
      · have isEntity : line.isEntity = true := by
          rw [entity, he]
          rfl
        have listed : line.fqcn ∈ entitiesOf lines :=
          List.mem_map_of_mem (List.mem_filter.2 ⟨hl, isEntity⟩)
        exact .inr ⟨kind'.trans he, List.mem_append_left _ listed⟩
      · have none : lacksRawArray t = false := by simp [lacksRawArray, he]
        obtain ⟨hw, hu⟩ := h.converts ht none hk
        exact .inl ⟨methods _ hw, methods _ hu⟩
    · have hk : m.kind = .valueObject .array := hk
      rw [kind] at hk
      cases hk
  · exact ((h other found hf).keeps keeps).weaken sub

/-- A work list that comes through leaves a closed collection. -/
theorem closed_addRawArrays (c : Collection) (pending : List String) (h : Closed pending c)
    (ho : (addRawArrays c pending).1 = .ok ()) : Closed [] (addRawArrays c pending).2 := by
  induction c, pending using addRawArrays_induction with
  | done c =>
    rw [addRawArrays_nil]
    exact h
  | skip c fqcn rest hs ih =>
    rw [addRawArrays_skip' hs] at ho ⊢
    exact ih (h.done hs) ho
  | fails c fqcn rest m e hf hl he =>
    rw [addRawArrays_error hf hl he] at ho
    cases ho
  | adds c fqcn rest m lines hf hl hp ih =>
    rw [addRawArrays_add hf hl hp] at ho ⊢
    exact ih (h.gain hf hl hp) ho

end SchemaClasses
