/-
A class with native types beside the same class with types in comments. What is added to finished classes
keeps them side by side: the same members in the same order, of which only getters differ, for they tell the
type of their result natively or not at all.
-/
import SchemaClasses.Class.Accessors
import SchemaClasses.Proofs.Class.Documented
import SchemaClasses.Proofs.Class.Untyped

namespace SchemaClasses

open ClassModel

variable {filters : NameFilters} {m m' : ClassModel}

/-- A method of a class with native types, and what stands in its place when types are in comments: the same
method, or the getter of the same property. -/
inductive MethodMoved (filters : NameFilters) (m : ClassModel) : Method → Method → Prop
  | same (method : Method) : MethodMoved filters m method method
  | getter (p : Property) : m.isValueObject = false → p ∈ m.properties.values →
      MethodMoved filters m (getter filters true p) (getter filters false p)

theorem MethodMoved.of_eq {n : ClassModel} {method method' : Method} (h : MethodMoved filters m method method')
    (kind : n.kind = m.kind) (properties : n.properties = m.properties) : MethodMoved filters n method method' := by
  cases h with
  | same => exact .same _
  | getter p plain hp =>
    refine .getter p ?_ (properties ▸ hp)
    unfold isValueObject
    rw [kind]
    exact plain

/-- The same class but for the flag of types and the results of getters. -/
structure TypesMoved (filters : NameFilters) (m m' : ClassModel) : Prop where
  same : m' = { m with typed := false, methods := m'.methods }
  typed : m.typed = true
  documented : m.Documented
  methods : m.methods.Beside (MethodMoved filters m) m'.methods

theorem typesMoved_setTyped (documented : m.Documented) :
    TypesMoved filters (m.setTyped true) (m.setTyped false) where
  same := rfl
  typed := rfl
  documented := documented.of_eq rfl rfl
  methods := Entries.beside_self fun method _ => .same method

namespace TypesMoved

theorem fqcn_eq (h : TypesMoved filters m m') : m.fqcn = m'.fqcn := by
  rw [h.same]
  rfl

theorem kind_eq (h : TypesMoved filters m m') : m.kind = m'.kind := by rw [h.same]

theorem isLikeValueObject_eq (h : TypesMoved filters m m') : m'.isLikeValueObject = m.isLikeValueObject := by
  unfold isLikeValueObject hasMarkerMethod isValueObject
  rw [h.kind_eq]
  have markers : m'.hasMethod = m.hasMethod := funext h.methods.hasName_eq
  rw [markers]

theorem addMethod (h : TypesMoved filters m m') {method method' : Method} (moved : MethodMoved filters m method method')
    (documented : method.Documented) : TypesMoved filters (m.addMethod method) (m'.addMethod method') where
  same := by
    unfold ClassModel.addMethod
    rw [h.same]
  typed := h.typed
  documented := h.documented.addMethod documented
  methods := by
    have name : method.name = method'.name := by
      cases moved with
      | same => rfl
      | getter => rfl
    show Entries.Beside _ (m.methods.put _ _) (m'.methods.put _ _)
    rw [← name]
    exact (h.methods.put moved).imp fun _ _ moved => moved.of_eq rfl rfl

/-- Getters of the same properties. -/
theorem addGetters : ∀ (properties : List Property) {m m' : ClassModel}, TypesMoved filters m m' →
    m.isValueObject = false → (∀ p ∈ properties, p ∈ m.properties.values) →
    TypesMoved filters (m.addMethods (properties.map (getter filters true)))
      (m'.addMethods (properties.map (getter filters false)))
  | [], _, _, h, _, _ => h
  | p :: rest, m, m', h, plain, all => by
    obtain ⟨first, others⟩ := List.forall_mem_cons.1 all
    have said : (getter filters true p).Documented := ⟨nofun, h.documented.properties p first⟩
    exact addGetters rest (h.addMethod (.getter p plain first) said) plain others

theorem withGetters (h : TypesMoved filters m m') :
    TypesMoved filters (m.withGetters filters true) (m'.withGetters filters false) := by
  have missing (c : ClassModel) (typed : Bool) : c.missingGetters filters typed = (c.properties.values.filter
      fun p => !c.hasMethod (filters.methodName p.name)).map (getter filters typed) := List.filter_map
  have names : m'.hasMethod = m.hasMethod := funext h.methods.hasName_eq
  have properties : m'.properties = m.properties := by rw [h.same]
  unfold ClassModel.withGetters
  rw [h.isLikeValueObject_eq]
  split
  · exact h
  · rename_i plain
    rw [missing, missing, names, properties]
    refine addGetters _ h ?_ fun p hp => (List.mem_filter.1 hp).1
    unfold isLikeValueObject at plain
    simp only [Bool.not_eq_true, Bool.or_eq_false_iff] at plain
    exact plain.1

theorem addConstants : ∀ (ks : List Constant) {m m' : ClassModel}, TypesMoved filters m m' →
    TypesMoved filters (ks.foldl addConstant m) (ks.foldl addConstant m')
  | [], _, _, h => h
  | k :: rest, m, m', h => addConstants rest {
      same := by
        unfold addConstant
        rw [h.same]
      typed := h.typed
      documented := h.documented.of_eq rfl rfl
      methods := h.methods.imp fun _ _ moved => moved.of_eq rfl rfl }

theorem withPropertyConstants (h : TypesMoved filters m m') :
    TypesMoved filters (m.withPropertyConstants filters) (m'.withPropertyConstants filters) := by
  have missing : m'.missingConstants filters = m.missingConstants filters := by
    rw [h.same]
    rfl
  unfold ClassModel.withPropertyConstants
  rw [h.isLikeValueObject_eq, missing]
  split
  · exact h
  · exact h.addConstants _

end TypesMoved

theorem setTyped_exception (filters : NameFilters) (before typed : Bool) (source valueObject : String) :
    (EnumException.build filters before source valueObject).setTyped typed =
      EnumException.build filters typed source valueObject := by
  unfold EnumException.build
  simp only [setTyped_addMethod, setTyped_addImport]
  simp only [setTyped]

theorem typesMoved_exception (source valueObject : String) : TypesMoved filters
    (EnumException.build filters true source valueObject) (EnumException.build filters false source valueObject) := by
  have moved := @typesMoved_setTyped filters _ (documented_exception filters true source valueObject)
  rwa [setTyped_exception, setTyped_exception] at moved

/-! ## Collections -/

/-- The same classes in the same order, with types moved. -/
def Collection.Moved (filters : NameFilters) (c c' : Collection) : Prop :=
  c.classes.Beside (TypesMoved filters) c'.classes

namespace Collection.Moved

variable {c c' : Collection}

theorem mapClasses {f f' : ClassModel → ClassModel} (h : c.Moved filters c')
    (both : ∀ m m', TypesMoved filters m m' → TypesMoved filters (f m) (f' m')) :
    (c.mapClasses f).Moved filters (c'.mapClasses f') :=
  h.map both

theorem add (h : c.Moved filters c') (hm : TypesMoved filters m m') : (c.add m).Moved filters (c'.add m') := by
  unfold Collection.Moved Collection.add
  rw [← hm.fqcn_eq]
  exact h.put hm

theorem addAll (h : c.Moved filters c') {models models' : List ClassModel}
    (all : List.Forall₂ (TypesMoved filters) models models') : (c.addAll models).1.Moved filters (c'.addAll models').1 := by
  induction all generalizing c c' with
  | nil => exact h
  | cons first _ ih => exact ih (h.add first)

end Collection.Moved

/-- A collection beside itself, with and without native types. -/
theorem moved_setTyped {c : Collection} (documented : ∀ m ∈ c.toList, m.Documented) :
    (c.mapClasses (·.setTyped true)).Moved filters c.untyped := by
  have self : c.classes.Beside (fun m m' => m = m' ∧ m.Documented) c.classes :=
    Entries.beside_self fun m hm => ⟨rfl, documented m hm⟩
  have both : ∀ m m' : ClassModel, m = m' ∧ m.Documented →
      TypesMoved filters (m.setTyped true) (m'.setTyped false) := by
    rintro m _ ⟨rfl, hm⟩
    exact typesMoved_setTyped hm
  exact self.map both

end SchemaClasses
