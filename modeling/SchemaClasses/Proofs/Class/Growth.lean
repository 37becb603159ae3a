/-
What giving entities the raw array form changes: some entities that had none gain the pair, and
nothing else. Once it is through, every entity that it was asked for has the pair.
-/
import SchemaClasses.Class.RawArray
import SchemaClasses.Proofs.Class.Collection

namespace SchemaClasses

variable {c c' : Collection} {pending : List String} {outcome : Except GenerateError Unit} {fqcn : String}
  {m : ClassModel}

/-- Only an entity lacks the raw array form. -/
theorem entity_of_lacks (lacks : lacksRawArray m = true) : m.kind = .entity := by
  simp only [lacksRawArray, Bool.and_eq_true, beq_iff_eq] at lacks
  exact lacks.1

/-- A class stays as it is, or it is an entity that gains the pair. -/
def Paired (m m' : ClassModel) : Prop :=
  m' = m ∨ lacksRawArray m = true ∧ ∃ lines, m' = m.withRawArray lines

theorem Paired.trans {m m' m'' : ClassModel} (h : Paired m m') (h' : Paired m' m'') : Paired m m'' := by
  rcases h with rfl | ⟨hl, lines, rfl⟩
  · exact h'
  · rcases h' with rfl | ⟨hl', -⟩
    · exact .inr ⟨hl, lines, rfl⟩
    · rw [lacksRawArray_withRawArray] at hl'
      cases hl'

theorem Paired.kind {m m' : ClassModel} (h : Paired m m') : m'.kind = m.kind := by
  rcases h with rfl | ⟨-, lines, rfl⟩ <;> rfl

/-- Nothing comes or goes, and some entities gain the pair. -/
def Grows (c c' : Collection) : Prop := ∀ fqcn, Option.Rel Paired (c.get? fqcn) (c'.get? fqcn)

theorem Grows.refl (c : Collection) : Grows c c := by
  intro fqcn
  cases c.get? fqcn with
  | none => exact .none
  | some m => exact .some (.inl rfl)

theorem Grows.trans {c'' : Collection} (h : Grows c c') (h' : Grows c' c'') : Grows c c'' := by
  intro fqcn
  have first := h fqcn
  have second := h' fqcn
  generalize c.get? fqcn = a, c'.get? fqcn = b, c''.get? fqcn = d at first second
  cases first with
  | none =>
    cases second
    exact .none
  | some hp =>
    cases second with
    | some hp' => exact .some (hp.trans hp')

theorem grows_adjust {lines : List PropertyLines} (hf : c.get? fqcn = some m) (lacks : lacksRawArray m = true) :
    Grows c (c.adjust fqcn (·.withRawArray lines)) := by
  intro other
  rw [Collection.get?_adjust]
  split
  · rename_i he
    subst he
    rw [hf]
    exact .some (.inr ⟨lacks, lines, rfl⟩)
  · exact Grows.refl c other

theorem Grows.exists_paired (h : Grows c c') (hf : c.get? fqcn = some m) :
    ∃ m', c'.get? fqcn = some m' ∧ Paired m m' := by
  have hp := h fqcn
  rw [hf] at hp
  generalize c'.get? fqcn = found at hp
  cases hp with
  | some hp => exact ⟨_, rfl, hp⟩

theorem Grows.exists_before {m' : ClassModel} (h : Grows c c') (hf : c'.get? fqcn = some m') :
    ∃ m, c.get? fqcn = some m ∧ Paired m m' := by
  have hp := h fqcn
  rw [hf] at hp
  generalize c.get? fqcn = found at hp
  cases hp with
  | some hp => exact ⟨_, rfl, hp⟩

/-- Classes without lack have none later on. -/
theorem Grows.lacks (h : Grows c c') {m' : ClassModel} (hm : lacksRawArray m = false)
    (hf : c.get? fqcn = some m) (hf' : c'.get? fqcn = some m') : lacksRawArray m' = false := by
  obtain ⟨found, hg, hp⟩ := h.exists_paired hf
  rw [hf'] at hg
  cases hg
  rcases hp with rfl | ⟨hl, -⟩
  · exact hm
  · rw [hm] at hl
    cases hl

/-! ## One step of the work list -/

/-- The entities among the classes of properties, which an entity puts on the work list. -/
def entitiesOf (lines : List PropertyLines) : List String := (lines.filter (·.isEntity)).map (·.fqcn)

section Steps

variable {rest : List String} {lines : List PropertyLines}

theorem addRawArrays_nil : addRawArrays c [] = (.ok (), c) := by rw [addRawArrays]

theorem addRawArrays_none (hf : c.get? fqcn = none) : addRawArrays c (fqcn :: rest) = addRawArrays c rest := by
  rw [addRawArrays]
  split
  · rfl
  · rename_i hg
    rw [hf] at hg
    cases hg

theorem addRawArrays_skip (hf : c.get? fqcn = some m) (hl : lacksRawArray m = false) :
    addRawArrays c (fqcn :: rest) = addRawArrays c rest := by
  rw [addRawArrays]
  split
  · rfl
  · rename_i hg
    rw [hf] at hg
    cases hg
    simp [hl]

theorem addRawArrays_error {e : GenerateError} (hf : c.get? fqcn = some m) (hl : lacksRawArray m = true)
    (he : allPropertyLines c m m.properties.values = .error e) : addRawArrays c (fqcn :: rest) = (.error e, c) := by
  rw [addRawArrays]
  split
  · rename_i hg
    rw [hf] at hg
    cases hg
  · rename_i hg
    rw [hf] at hg
    cases hg
    simp [hl, he]

theorem addRawArrays_add (hf : c.get? fqcn = some m) (hl : lacksRawArray m = true)
    (ho : allPropertyLines c m m.properties.values = .ok lines) : addRawArrays c (fqcn :: rest) =
      addRawArrays (c.adjust fqcn (·.withRawArray lines)) (entitiesOf lines ++ rest) := by
  rw [addRawArrays]
  split
  · rename_i hg
    rw [hf] at hg
    cases hg
  · rename_i hg
    rw [hf] at hg
    cases hg
    simp [hl, ho, entitiesOf]

end Steps

/-- What holds of every step of the work list holds of the whole: `P` of an empty list, of a name that
needs nothing, of an entity with lines that could not be made, and of one that gets the pair. -/
theorem addRawArrays_induction {P : Collection → List String → Prop}
    (done : ∀ c, P c [])
    (skip : ∀ c fqcn rest, (∀ m, c.get? fqcn = some m → lacksRawArray m = false) → P c rest → P c (fqcn :: rest))
    (fails : ∀ c fqcn rest m e, c.get? fqcn = some m → lacksRawArray m = true →
      allPropertyLines c m m.properties.values = .error e → P c (fqcn :: rest))
    (adds : ∀ c fqcn rest m lines, c.get? fqcn = some m → lacksRawArray m = true →
      allPropertyLines c m m.properties.values = .ok lines →
      P (c.adjust fqcn (·.withRawArray lines)) (entitiesOf lines ++ rest) →
      P c (fqcn :: rest))
    (c : Collection) (pending : List String) : P c pending := by
  induction c, pending using addRawArrays.induct with
  | case1 c => exact done c
  | case2 c fqcn rest found ih =>
    refine skip c fqcn rest (fun m hf => ?_) ih
    rw [found] at hf
    cases hf
  | case3 c fqcn rest m found lacks e hl => exact fails c fqcn rest m e found lacks hl
  | case4 c fqcn rest m found lacks lines hl smaller ih => exact adds c fqcn rest m lines found lacks hl ih
  | case5 c fqcn rest m found lacks ih =>
    refine skip c fqcn rest (fun m' hf => ?_) ih
    rw [found] at hf
    cases hf
    simpa using lacks

/-! ## The whole work list -/

theorem addRawArrays_skip' {rest : List String} (h : ∀ m, c.get? fqcn = some m → lacksRawArray m = false) :
    addRawArrays c (fqcn :: rest) = addRawArrays c rest := by
  cases hf : c.get? fqcn with
  | none => exact addRawArrays_none hf
  | some m => exact addRawArrays_skip hf (h m hf)

/-- What the gain of one entity keeps, the whole work list keeps. -/
theorem addRawArrays_keeps {P : Collection → Prop}
    (gain : ∀ {c fqcn m lines}, c.get? fqcn = some m → lacksRawArray m = true →
      allPropertyLines c m m.properties.values = .ok lines → P c → P (c.adjust fqcn (·.withRawArray lines)))
    (c : Collection) (pending : List String) (h : P c) : P (addRawArrays c pending).2 := by
  induction c, pending using addRawArrays_induction with
  | done c =>
    rw [addRawArrays_nil]
    exact h
  | skip c fqcn rest hs ih =>
    rw [addRawArrays_skip' hs]
    exact ih h
  | fails c fqcn rest m e hf hl he =>
    rw [addRawArrays_error hf hl he]
    exact h
  | adds c fqcn rest m lines hf hl ho ih =>
    rw [addRawArrays_add hf hl ho]
    exact ih (gain hf hl ho h)

theorem addRawArrays_grows (c : Collection) (pending : List String) : Grows c (addRawArrays c pending).2 :=
  addRawArrays_keeps (fun hf hl _ grown => grown.trans (grows_adjust hf hl)) c pending (.refl c)

theorem grows_of_addRawArrays (h : addRawArrays c pending = (outcome, c')) : Grows c c' := by
  have grows := addRawArrays_grows c pending
  rwa [h] at grows

/-- Every entity that the pair was asked for has it in the end. -/
theorem addRawArrays_done (c : Collection) (pending : List String) (ho : (addRawArrays c pending).1 = .ok ()) :
    ∀ fqcn ∈ pending, ∀ m, (addRawArrays c pending).2.get? fqcn = some m → lacksRawArray m = false := by
  induction c, pending using addRawArrays_induction with
  | done c =>
    intro fqcn hm
    cases hm
  | skip c fqcn rest h ih =>
    rw [addRawArrays_skip' h] at ho ⊢
    intro other hm m' hg
    rcases List.mem_cons.1 hm with rfl | hm
    -- the class had no lack when its turn came, and the rest of the work takes nothing away
    · obtain ⟨m, hf, -⟩ := (addRawArrays_grows c rest).exists_before hg
      exact (addRawArrays_grows c rest).lacks (h m hf) hf hg
    · exact ih ho other hm m' hg
  | fails c fqcn rest m e hf hl he =>
    rw [addRawArrays_error hf hl he] at ho
    cases ho
  | adds c fqcn rest m lines hf hl hp ih =>
    rw [addRawArrays_add hf hl hp] at ho ⊢
    intro other hm m' hg
    rcases List.mem_cons.1 hm with rfl | hm
    -- the class gains the pair now and keeps it through the rest of the work
    · refine (addRawArrays_grows _ _).lacks (lacksRawArray_withRawArray lines m) ?_ hg
      rw [Collection.get?_adjust, if_pos rfl, hf]
      rfl
    · exact ih ho other (List.mem_append_right _ hm) m' hg

theorem keyed_addRawArrays (c : Collection) (pending : List String) (h : c.Keyed) :
    (addRawArrays c pending).2.Keyed :=
  addRawArrays_keeps (fun _ _ _ keyed => keyed.adjust fun _ => rfl) c pending h

theorem names_addRawArrays (c : Collection) (pending : List String) : (addRawArrays c pending).2.names = c.names :=
  addRawArrays_keeps (fun _ _ _ same => Entries.names_adjust.trans same) c pending rfl

end SchemaClasses
