/-
Getters and constants of properties in either order. Both leave alone a class that carries a marker method, and the
getter of a property can be such a method: getters that come first hide their class from the constants. In all other
classes the two keep out of each other's way.
-/
import SchemaClasses.Proofs.Class.Accessors
import SchemaClasses.Proofs.Class.Collection

namespace SchemaClasses

/-! ## Names of completed entries -/

theorem Entries.Completes.mem_names_iff {α : Type} {nameOf : α → String} {wanted : List α} {entries added : Entries α}
    {name : String} (h : Completes nameOf wanted entries added) :
    name ∈ names (entries ++ added) ↔ name ∈ entries.names ∨ ∃ value ∈ wanted, nameOf value = name := by
  constructor
  · intro hn
    rw [names, List.map_append, List.mem_append] at hn
    rcases hn with old | new
    · exact .inl old
    · obtain ⟨entry, he, rfl⟩ := List.mem_map.1 new
      exact .inr ⟨entry.2, h.own entry he⟩
  · rintro (old | ⟨value, hv, rfl⟩)
    · rw [names, List.map_append]
      exact List.mem_append_left _ old
    · exact h.complete value hv

/-! ## One class -/

namespace ClassModel

section Visits

variable (filters : NameFilters) (m : ClassModel)

/-- One of the getters of the class is a marker method. -/
def MarkedByGetters : Prop := ∃ p ∈ m.properties.values, filters.methodName p.name ∈ markerMethods

/-- Every property of the class has its constant. -/
def HasPropertyConstants : Prop := ∀ p ∈ m.properties.values, m.hasConstant (filters.constName p.name) = true

/-- A class that is to have constants, and that getters hide from them. -/
structure HiddenByGetters : Prop where
  plain : m.isLikeValueObject = false
  marked : m.MarkedByGetters filters
  lacks : ¬ m.HasPropertyConstants filters

instance : Decidable (m.MarkedByGetters filters) := inferInstanceAs (Decidable (∃ _ ∈ _, _))

instance : Decidable (m.HasPropertyConstants filters) := inferInstanceAs (Decidable (∀ _ ∈ _, _))

end Visits

variable {filters : NameFilters} {typed : Bool} {m : ClassModel} {name : String}

theorem hasMethod_withGetters (plain : m.isLikeValueObject = false) :
    (m.withGetters filters typed).hasMethod name = true ↔
      m.hasMethod name = true ∨ ∃ p ∈ m.properties.values, filters.methodName p.name = name := by
  obtain ⟨added, completes, gained⟩ := (gainsGetters_withGetters filters typed m).gained plain
  rw [gained]
  refine Entries.hasName_eq_true_iff.trans (completes.mem_names_iff.trans ?_)
  simp [hasMethod, Entries.hasName_eq_true_iff, getters, getter]

theorem hasConstant_withPropertyConstants (plain : m.isLikeValueObject = false) :
    (m.withPropertyConstants filters).hasConstant name = true ↔
      m.hasConstant name = true ∨ ∃ p ∈ m.properties.values, filters.constName p.name = name := by
  obtain ⟨added, completes, gained⟩ := (gainsPropertyConstants_withPropertyConstants filters m).gained plain
  rw [gained]
  refine Entries.hasName_eq_true_iff.trans (completes.mem_names_iff.trans ?_)
  simp [hasConstant, Entries.hasName_eq_true_iff, propertyConstants, propertyConstant]

/-- Getters hide a class from further additions if one of them is a marker method, and only then. -/
theorem isLikeValueObject_withGetters (plain : m.isLikeValueObject = false) :
    (m.withGetters filters typed).isLikeValueObject = true ↔ m.MarkedByGetters filters := by
  obtain ⟨added, -, gained⟩ := (gainsGetters_withGetters filters typed m).gained plain
  have kind : (m.withGetters filters typed).isValueObject = m.isValueObject := by
    rw [gained]
    rfl
  obtain ⟨value, marker⟩ := Bool.or_eq_false_iff.1 plain
  have unmarked := List.any_eq_false.1 marker
  unfold isLikeValueObject hasMarkerMethod
  rw [kind, value, Bool.false_or, List.any_eq_true]
  constructor
  · rintro ⟨name, hm, has⟩
    obtain ⟨p, hp, rfl⟩ := ((hasMethod_withGetters plain).1 has).resolve_left (unmarked name hm)
    exact ⟨p, hp, hm⟩
  · rintro ⟨p, hp, hm⟩
    exact ⟨_, hm, (hasMethod_withGetters plain).2 (.inr ⟨p, hp, rfl⟩)⟩

/-! ### Members of the other sort -/

theorem withGetters_constants (constants : Entries Constant) :
    withGetters filters typed { m with constants } = { m.withGetters filters typed with constants } := by
  unfold withGetters
  split
  · rename_i like
    rw [if_pos (show m.isLikeValueObject = true from like)]
  · rename_i plain
    rw [if_neg (show ¬ m.isLikeValueObject = true from plain), addMethods_eq, addMethods_eq _ m, methods_addMethods,
      methods_addMethods]
    rfl

theorem withPropertyConstants_methods {methods : Entries Method} (plain : m.isLikeValueObject = false)
    (still : isLikeValueObject { m with methods } = false) :
    withPropertyConstants filters { m with methods } = { m.withPropertyConstants filters with methods } := by
  unfold withPropertyConstants
  rw [still, plain, if_neg Bool.false_ne_true, if_neg Bool.false_ne_true, foldl_addConstant_eq,
    foldl_addConstant_eq _ m, constants_foldl_addConstant, constants_foldl_addConstant]
  rfl

/-- Constants change nothing where each property has its own. -/
theorem withPropertyConstants_eq_self_iff (plain : m.isLikeValueObject = false) :
    m.withPropertyConstants filters = m ↔ m.HasPropertyConstants filters := by
  constructor
  · intro same p hp
    rw [← same]
    exact (hasConstant_withPropertyConstants plain).2 (.inr ⟨p, hp, rfl⟩)
  · intro all
    have none : m.missingConstants filters = [] := by
      refine Entries.filter_missing_eq_nil fun k hk => ?_
      obtain ⟨p, hp, rfl⟩ := List.mem_map.1 hk
      exact Entries.hasName_eq_true_iff.1 (all p hp)
    rw [withPropertyConstants, plain, if_neg Bool.false_ne_true, none]
    rfl

/-! ### Both additions -/

theorem hiddenByGetters_iff (plain : m.isLikeValueObject = false) (marked : m.MarkedByGetters filters) :
    m.HiddenByGetters filters ↔ ¬ m.HasPropertyConstants filters :=
  ⟨(·.lacks), fun lacks => ⟨plain, marked, lacks⟩⟩

/-- Constants that come second are left out of a class that getters hide. -/
theorem withPropertyConstants_withGetters_of_marked (plain : m.isLikeValueObject = false)
    (marked : m.MarkedByGetters filters) :
    (m.withGetters filters typed).withPropertyConstants filters = m.withGetters filters typed := by
  rw [withPropertyConstants, if_pos ((isLikeValueObject_withGetters plain).2 marked)]

/-- The order of getters and constants does not matter to a class unless getters hide it from constants. -/
theorem accessors_comm_iff : (m.withGetters filters typed).withPropertyConstants filters =
    (m.withPropertyConstants filters).withGetters filters typed ↔ ¬ m.HiddenByGetters filters := by
  by_cases like : m.isLikeValueObject = true
  · have spared : ¬ m.HiddenByGetters filters := fun hidden => by simp [hidden.plain] at like
    rw [(gainsGetters_withGetters filters typed m).spared like,
      (gainsPropertyConstants_withPropertyConstants filters m).spared like,
      (gainsGetters_withGetters filters typed m).spared like]
    simp [spared]
  rw [Bool.not_eq_true] at like
  obtain ⟨methods, -, withMethods⟩ := (gainsGetters_withGetters filters typed m).gained like
  obtain ⟨constants, -, withConstants⟩ := (gainsPropertyConstants_withPropertyConstants filters m).gained like
  -- with constants first, the class gains both
  have both : (m.withPropertyConstants filters).withGetters filters typed =
      { m with methods := m.methods ++ methods, constants := m.constants ++ constants } := by
    rw [withConstants, withGetters_constants, withMethods]
  by_cases marked : m.MarkedByGetters filters
  · rw [withPropertyConstants_withGetters_of_marked like marked, both, withMethods, hiddenByGetters_iff like marked,
      not_not, ← withPropertyConstants_eq_self_iff like, withConstants]
    constructor
    · intro same
      exact congrArg (fun constants => { m with constants }) (congrArg ClassModel.constants same).symm
    · intro same
      exact congrArg (fun c : ClassModel => { c with methods := m.methods ++ methods }) same.symm
  · have still := Bool.eq_false_iff.2 fun like' => marked ((@isLikeValueObject_withGetters _ typed _ like).1 like')
    rw [withMethods] at still
    have free : ¬ m.HiddenByGetters filters := fun hidden => marked hidden.marked
    rw [both, withMethods, withPropertyConstants_methods like still, withConstants]
    simp [free]

/-- With constants second a class has them all unless getters hide it from them. -/
theorem hasPropertyConstants_iff (plain : m.isLikeValueObject = false) :
    ((m.withGetters filters typed).withPropertyConstants filters).HasPropertyConstants filters ↔
      ¬ m.HiddenByGetters filters := by
  by_cases marked : m.MarkedByGetters filters
  · obtain ⟨methods, -, withMethods⟩ := (gainsGetters_withGetters filters typed m).gained plain
    rw [withPropertyConstants_withGetters_of_marked plain marked, hiddenByGetters_iff plain marked, not_not,
      withMethods]
    rfl
  · have free : ¬ m.HiddenByGetters filters := fun hidden => marked hidden.marked
    have all : ((m.withPropertyConstants filters).withGetters filters typed).HasPropertyConstants filters := by
      obtain ⟨constants, completes, withConstants⟩ :=
        (gainsPropertyConstants_withPropertyConstants filters m).gained plain
      obtain ⟨methods, -, withMethods⟩ := (gainsGetters_withGetters filters typed m).gained plain
      rw [withConstants, withGetters_constants, withMethods]
      intro p hp
      exact Entries.hasName_eq_true_iff.2 (completes.complete _ (List.mem_map_of_mem hp))
    rw [accessors_comm_iff.2 free]
    simp [free, all]

end ClassModel

/-! ## Collections -/

namespace Collection

/-- Adding getters and adding the constants of properties give the same collection in either order if and only if no
class is hidden by its getters: one that is not like a value object, has a getter that makes it like one, and lacks the
constant of a property. If constants come second, these are the classes that miss one of them. -/
theorem addGetters_addPropertyConstants (filters : NameFilters) (typed : Bool) (c : Collection) :
    ((c.addGetters filters typed).addPropertyConstants filters =
        (c.addPropertyConstants filters).addGetters filters typed ↔
      ∀ m ∈ c.toList, ¬ m.HiddenByGetters filters) ∧
    ∀ fqcn m, c.get? fqcn = some m → m.isLikeValueObject = false →
      ∃ m', ((c.addGetters filters typed).addPropertyConstants filters).get? fqcn = some m' ∧
        (m'.HasPropertyConstants filters ↔ ¬ m.HiddenByGetters filters) := by
  constructor
  · unfold addGetters addPropertyConstants mapClasses toList Entries.values
    rw [Collection.mk.injEq, List.map_map, List.map_map, List.map_inj_left, List.forall_mem_map]
    simp only [Function.comp, Prod.mk.injEq, true_and, ClassModel.accessors_comm_iff]
  · intro fqcn m hm plain
    refine ⟨(m.withGetters filters typed).withPropertyConstants filters, ?_, ClassModel.hasPropertyConstants_iff plain⟩
    rw [addPropertyConstants, get?_mapClasses, addGetters, get?_mapClasses, hm]
    rfl

/-- An entity with a property that is called like a marker method. -/
def markedRecord : ClassModel :=
  (ClassModel.entity "R" "App").addProperty { name := "toString", typeHint := "ToString" }

def markedRecords : Collection := ({} : Collection).add markedRecord

/-- The order matters to this entity, which has no constant in the end if getters come first. -/
theorem addGetters_addPropertyConstants_markedRecords :
    (markedRecords.addGetters conventionalNames true).addPropertyConstants conventionalNames ≠
      (markedRecords.addPropertyConstants conventionalNames).addGetters conventionalNames true ∧
    ∃ m, ((markedRecords.addGetters conventionalNames true).addPropertyConstants conventionalNames).get? "App\\R" =
      some m ∧ ¬ m.HasPropertyConstants conventionalNames := by
  have hidden : markedRecord.HiddenByGetters conventionalNames := ⟨rfl, by decide +kernel, by decide +kernel⟩
  have there : markedRecords.get? "App\\R" = some markedRecord := rfl
  obtain ⟨order, classes⟩ := addGetters_addPropertyConstants conventionalNames true markedRecords
  obtain ⟨m, hm, constants⟩ := classes "App\\R" markedRecord there rfl
  refine ⟨fun same => ?_, m, hm, fun all => constants.1 all hidden⟩
  exact order.1 same markedRecord (mem_toList_of_get? there) hidden

end Collection

end SchemaClasses
