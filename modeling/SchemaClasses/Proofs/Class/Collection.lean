/-
Laws of collections: every class stands under its own name, each name once, and what is added stays
until a class of the same name takes its place.
-/
import SchemaClasses.Class.Collection
import SchemaClasses.Proofs.Class.Basic

namespace SchemaClasses.Collection

variable {c : Collection} {model : ClassModel} {fqcn other : String}

theorem contains_iff : c.contains fqcn = true ↔ ∃ model, c.get? fqcn = some model := by
  unfold contains Entries.hasName get?
  exact Option.isSome_iff_exists

theorem get?_add : (c.add model).get? other = if other = model.fqcn then some model else c.get? other :=
  Entries.at?_put ..

theorem get?_add_self : (c.add model).get? model.fqcn = some model := by rw [get?_add, if_pos rfl]

/-- A class that is there after an addition is the added one, or was there before. -/
theorem of_get?_add {found : ClassModel} (h : (c.add model).get? other = some found) :
    other = model.fqcn ∧ model = found ∨ other ≠ model.fqcn ∧ c.get? other = some found := by
  rw [get?_add] at h
  split at h
  · exact .inl ⟨‹_›, Option.some.inj h⟩
  · exact .inr ⟨‹_›, h⟩

theorem contains_add : (c.add model).contains other = (other == model.fqcn || c.contains other) :=
  Entries.hasName_put

theorem get?_adjust {change : ClassModel → ClassModel} : (c.adjust fqcn change).get? other =
    if other = fqcn then (c.get? other).map change else c.get? other :=
  Entries.at?_adjust

/-- A class that is there after a change is a changed one, or was there before. -/
theorem of_get?_adjust {change : ClassModel → ClassModel} {found : ClassModel}
    (h : (c.adjust fqcn change).get? other = some found) :
    (other = fqcn ∧ ∃ before, c.get? fqcn = some before ∧ found = change before) ∨
      other ≠ fqcn ∧ c.get? other = some found := by
  rw [get?_adjust] at h
  split at h
  · obtain ⟨before, hb, rfl⟩ := Option.map_eq_some_iff.1 h
    exact .inl ⟨‹_›, before, ‹other = fqcn› ▸ hb, rfl⟩
  · exact .inr ⟨‹_›, h⟩

theorem get?_mapClasses {change : ClassModel → ClassModel} :
    (c.mapClasses change).get? other = (c.get? other).map change :=
  Entries.at?_map

theorem of_get?_mapClasses {change : ClassModel → ClassModel} {found : ClassModel}
    (h : (c.mapClasses change).get? other = some found) :
    ∃ before, c.get? other = some before ∧ change before = found :=
  Option.map_eq_some_iff.1 (get?_mapClasses.symm.trans h)

theorem contains_of_get? (h : c.get? fqcn = some model) : c.contains fqcn = true := contains_iff.2 ⟨model, h⟩

theorem mem_toList_of_get? (h : c.get? fqcn = some model) : model ∈ c.toList := Entries.mem_values_of_at? h

/-! ## Names -/

theorem contains_iff_mem_names : c.contains fqcn = true ↔ fqcn ∈ c.names := isSome_lookup

theorem names_add (c : Collection) (model : ClassModel) :
    (c.add model).names = if model.fqcn ∈ c.names then c.names else c.names ++ [model.fqcn] :=
  Entries.names_put

theorem names_adjust (c : Collection) (fqcn : String) (change : ClassModel → ClassModel) :
    (c.adjust fqcn change).names = c.names :=
  Entries.names_adjust

theorem names_mapClasses (c : Collection) (change : ClassModel → ClassModel) : (c.mapClasses change).names = c.names :=
  Entries.names_map

/-! ## Keys -/

/-- Every class stands under its own name, and no name comes twice. -/
structure Keyed (c : Collection) : Prop where
  distinct : c.classes.Distinct
  key : ∀ {fqcn model}, c.get? fqcn = some model → model.fqcn = fqcn

theorem keyed_empty : Keyed {} := ⟨Entries.distinct_nil, fun h => by cases h⟩

theorem Keyed.add (h : c.Keyed) (model : ClassModel) : (c.add model).Keyed := by
  refine ⟨h.distinct.put, fun {fqcn found} hf => ?_⟩
  rcases of_get?_add hf with ⟨rfl, rfl⟩ | ⟨-, hf⟩
  · rfl
  · exact h.key hf

theorem Keyed.mapClasses {change : ClassModel → ClassModel} (h : c.Keyed)
    (same : ∀ model, (change model).fqcn = model.fqcn) : (c.mapClasses change).Keyed := by
  refine ⟨?_, fun {fqcn found} hf => ?_⟩
  · unfold Entries.Distinct Collection.mapClasses
    rw [Entries.names_map]
    exact h.distinct
  · obtain ⟨model, hm, rfl⟩ := of_get?_mapClasses hf
    rw [same, h.key hm]

theorem Keyed.adjust {change : ClassModel → ClassModel} (h : c.Keyed)
    (same : ∀ model, (change model).fqcn = model.fqcn) : (c.adjust fqcn change).Keyed := by
  refine ⟨?_, fun {other found} hf => ?_⟩
  · unfold Entries.Distinct Collection.adjust
    rw [Entries.names_adjust]
    exact h.distinct
  · rcases of_get?_adjust hf with ⟨rfl, model, hm, rfl⟩ | ⟨-, hf⟩
    · rw [same, h.key hm]
    · exact h.key hf

theorem Keyed.mem_toList_iff (h : c.Keyed) : model ∈ c.toList ↔ c.get? model.fqcn = some model := by
  unfold toList
  rw [Entries.mem_values_iff h.distinct]
  constructor
  · rintro ⟨name, hn⟩
    rw [h.key hn]
    exact hn
  · exact fun hg => ⟨_, hg⟩

/-! ## Silent additions -/

/-- No class has taken the place of one of another shape. -/
def Silent (events : List Event) : Prop := ∀ fqcn, Event.classReplaced fqcn ∉ events

/-- Whether an event says that a class was replaced. -/
def isReplacement : Event → Bool
  | .classReplaced _ => true
  | _ => false

theorem silent_of_all {events : List Event} (h : events.all (!isReplacement ·) = true) : Silent events := by
  intro fqcn hm
  cases List.all_eq_true.1 h _ hm

theorem Silent.of_append_left {events events' : List Event} (h : Silent (events ++ events')) : Silent events :=
  fun fqcn hm => h fqcn (List.mem_append_left _ hm)

theorem Silent.of_append_right {events events' : List Event} (h : Silent (events ++ events')) : Silent events' :=
  fun fqcn hm => h fqcn (List.mem_append_right _ hm)

/-- Adding a class reports nothing but that it replaces another one. -/
theorem addEvents_cases (c : Collection) (model : ClassModel) :
    c.addEvents model = [] ∨ c.addEvents model = [.classReplaced model.fqcn] := by
  unfold addEvents
  split
  · exact .inr rfl
  · exact .inl rfl

theorem Silent.addEvents_eq (h : Silent (c.addEvents model)) : c.addEvents model = [] := by
  rcases c.addEvents_cases model with silent | replaced
  · exact silent
  · rw [replaced] at h
    exact absurd (List.mem_singleton_self _) (h model.fqcn)

/-- Adding a class in silence puts it in the place of one of the same shape, if of any. -/
theorem sameShape_of_silent {found : ClassModel} (silent : c.addEvents model = [])
    (hf : c.get? model.fqcn = some found) : found.sameShape model = true := by
  unfold addEvents conflicts at silent
  rw [hf] at silent
  cases hs : found.sameShape model with
  | true => rfl
  | false => simp [hs] at silent

theorem alike_of_silent {found : ClassModel} (silent : c.addEvents model = [])
    (ht : found.Tidy) (hf : c.get? model.fqcn = some found) : found.Alike model :=
  ClassModel.alike_of_sameShape ht (sameShape_of_silent silent hf)

theorem kind_of_silent {found : ClassModel} (silent : c.addEvents model = [])
    (hf : c.get? model.fqcn = some found) : found.kind = model.kind := by
  have same := sameShape_of_silent silent hf
  unfold ClassModel.sameShape at same
  simp only [Bool.and_eq_true, beq_iff_eq] at same
  tauto

end SchemaClasses.Collection
