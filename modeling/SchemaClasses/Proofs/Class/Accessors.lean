/-
Getters and constants of properties only add to a class. What it had stays as it was and where it stood, what is new
stands behind that, and once every property has its member there is nothing left to add, whatever the names are made
by.
-/
import SchemaClasses.Class.Accessors
import SchemaClasses.Proofs.Class.Basic

namespace SchemaClasses

/-! ## Entries that lack some -/

namespace Entries

variable {α : Type} {nameOf : α → String} {wanted : List α} {entries added : Entries α} {name : String}

/-- Entries that complete others: each is one of the values that are wanted, under its own name, which was not there
and is there once, and then no name that is wanted is missing. -/
structure Completes (nameOf : α → String) (wanted : List α) (entries added : Entries α) : Prop where
  distinct : added.Distinct
  fresh : ∀ name ∈ added.names, name ∉ entries.names
  own : ∀ entry ∈ added, entry.2 ∈ wanted ∧ nameOf entry.2 = entry.1
  complete : ∀ value ∈ wanted, nameOf value ∈ names (entries ++ added)

/-- The values whose names are missing, each under its own name. -/
def missingPairs (nameOf : α → String) (wanted : List α) (entries : Entries α) : List (String × α) :=
  (wanted.filter fun value => !entries.hasName (nameOf value)).map fun value => (nameOf value, value)

theorem hasName_eq_true_iff : entries.hasName name = true ↔ name ∈ entries.names := isSome_lookup

theorem mem_missingPairs {pair : String × α} (h : pair ∈ missingPairs nameOf wanted entries) :
    pair.1 ∉ entries.names ∧ pair.2 ∈ wanted ∧ nameOf pair.2 = pair.1 := by
  obtain ⟨value, hv, rfl⟩ := List.mem_map.1 h
  obtain ⟨hw, missing⟩ := List.mem_filter.1 hv
  refine ⟨fun there => ?_, hw, rfl⟩
  rw [hasName_eq_true_iff.2 there] at missing
  cases missing

/-- What is missing completes the entries. -/
theorem completes_missingPairs (nameOf : α → String) (wanted : List α) (entries : Entries α) :
    Completes nameOf wanted entries (ofPairs (missingPairs nameOf wanted entries)) where
  distinct := distinct_ofPairs _
  fresh := fun name hn => by
    rw [names_ofPairs, List.mem_eraseDups] at hn
    obtain ⟨pair, hp, rfl⟩ := List.mem_map.1 hn
    exact (mem_missingPairs hp).1
  own := fun _ he => (mem_missingPairs (mem_of_mem_ofPairs he)).2
  complete := fun value hv => by
    rw [names, List.map_append, List.mem_append]
    by_cases there : entries.hasName (nameOf value) = true
    · exact .inl (hasName_eq_true_iff.1 there)
    · right
      have missing : value ∈ wanted.filter fun value => !entries.hasName (nameOf value) :=
        List.mem_filter.2 ⟨hv, by rw [Bool.eq_false_iff.2 there]; rfl⟩
      rw [← names, names_ofPairs, List.mem_eraseDups]
      exact List.mem_map.2 ⟨_, List.mem_map.2 ⟨value, missing, rfl⟩, rfl⟩

/-- Putting what is missing leaves what is there alone. -/
theorem foldl_put_missingPairs (nameOf : α → String) (wanted : List α) (entries : Entries α) :
    (missingPairs nameOf wanted entries).foldl (fun entries pair => entries.put pair.1 pair.2) entries =
      entries ++ ofPairs (missingPairs nameOf wanted entries) :=
  foldl_put_of_fresh fun _ hp => (mem_missingPairs hp).1

/-- Nothing is missing where every wanted name is there. -/
theorem filter_missing_eq_nil (complete : ∀ value ∈ wanted, nameOf value ∈ entries.names) :
    (wanted.filter fun value => !entries.hasName (nameOf value)) = [] := by
  rw [List.filter_eq_nil_iff]
  intro value hv
  rw [hasName_eq_true_iff.2 (complete value hv)]
  exact Bool.false_ne_true

end Entries

/-! ## One class -/

namespace ClassModel

variable (filters : NameFilters) (typed : Bool) (m : ClassModel)

/-- The getters of all properties. -/
def getters : List Method := m.properties.values.map (getter filters typed)

/-- The constants of all properties. -/
def propertyConstants : List Constant := m.properties.values.map (propertyConstant filters)

/-- What an addition does to a class: nothing to one that is like a value object, and to any other it adds members
that complete those that it has, behind them. `withMembers` is the class with other members of their sort and all else
as it was. -/
structure Gains {α : Type} (nameOf : α → String) (wanted : List α) (members : Entries α)
    (withMembers : Entries α → ClassModel) (m m' : ClassModel) : Prop where
  spared : m.isLikeValueObject = true → m' = m
  gained : m.isLikeValueObject = false → ∃ added, Entries.Completes nameOf wanted members added ∧
    m' = withMembers (members ++ added)

/-- A class that is not like a value object in the end was none before. -/
theorem Gains.exists_completes {α : Type} {nameOf : α → String} {wanted : List α} {members : Entries α}
    {withMembers : Entries α → ClassModel} {m m' : ClassModel} (h : Gains nameOf wanted members withMembers m m')
    (plain : ¬ m'.isLikeValueObject = true) :
    ∃ added, Entries.Completes nameOf wanted members added ∧ m' = withMembers (members ++ added) := by
  refine h.gained (Bool.eq_false_iff.2 fun like => plain ?_)
  rw [h.spared like, like]

/-- A class that gains its getters. -/
def GainsGetters (m m' : ClassModel) : Prop :=
  Gains Method.name (m.getters filters typed) m.methods (fun methods => { m with methods }) m m'

/-- A class that gains the constants of its properties. -/
def GainsPropertyConstants (m m' : ClassModel) : Prop :=
  Gains Constant.name (m.propertyConstants filters) m.constants (fun constants => { m with constants }) m m'

theorem gainsGetters_withGetters : GainsGetters filters typed m (m.withGetters filters typed) where
  spared := fun like => by rw [withGetters, if_pos like]
  gained := fun plain => by
    have methods := methods_addMethods (m.missingGetters filters typed) m
    refine ⟨_, Entries.completes_missingPairs _ _ _, ?_⟩
    rw [withGetters, plain, if_neg Bool.false_ne_true, addMethods_eq, methods]
    exact congrArg (fun methods => { m with methods }) (Entries.foldl_put_missingPairs ..)

theorem gainsPropertyConstants_withPropertyConstants :
    GainsPropertyConstants filters m (m.withPropertyConstants filters) where
  spared := fun like => by rw [withPropertyConstants, if_pos like]
  gained := fun plain => by
    have constants := constants_foldl_addConstant (m.missingConstants filters) m
    refine ⟨_, Entries.completes_missingPairs _ _ _, ?_⟩
    rw [withPropertyConstants, plain, if_neg Bool.false_ne_true, foldl_addConstant_eq, constants]
    exact congrArg (fun constants => { m with constants }) (Entries.foldl_put_missingPairs ..)

variable {filters typed m} {m' : ClassModel}

/-- A class that has its getters gains none, also not those of the other way of writing types. -/
theorem GainsGetters.withGetters_eq (h : GainsGetters filters typed m m') (typed' : Bool) :
    m'.withGetters filters typed' = m' := by
  unfold withGetters
  split
  · rfl
  · rename_i plain
    obtain ⟨added, completes, rfl⟩ := h.exists_completes plain
    have none : missingGetters filters typed' { m with methods := m.methods ++ added } = [] := by
      refine Entries.filter_missing_eq_nil fun made hm => ?_
      obtain ⟨p, hp, rfl⟩ := List.mem_map.1 hm
      exact completes.complete (getter filters typed p) (List.mem_map_of_mem hp)
    rw [none]
    rfl

theorem GainsPropertyConstants.withPropertyConstants_eq (h : GainsPropertyConstants filters m m') :
    m'.withPropertyConstants filters = m' := by
  unfold withPropertyConstants
  split
  · rfl
  · rename_i plain
    obtain ⟨added, completes, rfl⟩ := h.exists_completes plain
    have none : missingConstants filters { m with constants := m.constants ++ added } = [] :=
      Entries.filter_missing_eq_nil completes.complete
    rw [none]
    rfl

end ClassModel

/-! ## Collections -/

namespace Collection

open ClassModel

variable {change again : ClassModel → ClassModel}

theorem beside_mapClasses {R : ClassModel → ClassModel → Prop} (h : ∀ m, R m (change m)) (c : Collection) :
    Entries.Beside R c.classes (c.mapClasses change).classes :=
  List.forall₂_map_right_iff.2 (List.forall₂_same.2 fun entry _ => ⟨rfl, h entry.2⟩)

theorem mapClasses_mapClasses_eq (h : ∀ m, again (change m) = change m) (c : Collection) :
    (c.mapClasses change).mapClasses again = c.mapClasses change := by
  refine congrArg Collection.mk (List.map_map.trans (List.map_congr_left fun entry _ => ?_))
  exact congrArg (Prod.mk entry.1) (h entry.2)

/-- Adding getters, and adding the constants of properties, only adds: name by name in the same order, each class
gains what it lacks and keeps everything else, and a second run, also with the other way of writing types, changes
nothing. -/
theorem accessors_only_add (filters : NameFilters) (typed typed' : Bool) (c : Collection) :
    Entries.Beside (GainsGetters filters typed) c.classes (c.addGetters filters typed).classes ∧
      (c.addGetters filters typed).addGetters filters typed' = c.addGetters filters typed ∧
    Entries.Beside (GainsPropertyConstants filters) c.classes (c.addPropertyConstants filters).classes ∧
      (c.addPropertyConstants filters).addPropertyConstants filters = c.addPropertyConstants filters :=
  ⟨beside_mapClasses (gainsGetters_withGetters filters typed) c,
    mapClasses_mapClasses_eq (fun m => (gainsGetters_withGetters filters typed m).withGetters_eq typed') c,
    beside_mapClasses (gainsPropertyConstants_withPropertyConstants filters) c,
    mapClasses_mapClasses_eq (fun m => (gainsPropertyConstants_withPropertyConstants filters m).withPropertyConstants_eq) c⟩

end Collection

end SchemaClasses
