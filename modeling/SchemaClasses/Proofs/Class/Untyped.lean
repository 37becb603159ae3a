/-
Types written natively or in comments. Templates take that choice into a flag of the class and do nothing
else with it, and building never looks at the flag. So a build goes the same way with either choice, and its
classes are the same but for the flag.
-/
import SchemaClasses.Proofs.Class.Alongside
import SchemaClasses.Proofs.Class.Graph

namespace SchemaClasses

open Template

/-! ## The flag of a class -/

namespace ClassModel

variable {typed : Bool}

theorem setTyped_valueObject (kind : ValueObjectKind) (before : Bool) :
    (valueObject kind before).setTyped typed = valueObject kind typed := rfl

theorem setTyped_addProperty (p : Property) (c : ClassModel) :
    (c.addProperty p).setTyped typed = (c.setTyped typed).addProperty p := rfl

theorem setTyped_addMethod (m : Method) (c : ClassModel) :
    (c.addMethod m).setTyped typed = (c.setTyped typed).addMethod m := rfl

theorem setTyped_addConstant (k : Constant) (c : ClassModel) :
    (c.addConstant k).setTyped typed = (c.setTyped typed).addConstant k := rfl

theorem setTyped_requireImport (fqcn : String) (c : ClassModel) :
    (c.requireImport fqcn).setTyped typed = (c.setTyped typed).requireImport fqcn := by
  unfold requireImport setTyped
  simp only
  split
  · rfl
  · rfl

theorem setTyped_addImport (fqcn : String) (c : ClassModel) :
    (c.addImport fqcn).setTyped typed = (c.setTyped typed).addImport fqcn := by
  unfold addImport
  split
  · exact (if_pos ‹_›).symm
  · rw [setTyped_requireImport]
    exact (if_neg ‹_›).symm

theorem setTyped_addMethods : ∀ (ms : List Method) (c : ClassModel),
    (c.addMethods ms).setTyped typed = (c.setTyped typed).addMethods ms
  | [], _ => rfl
  | m :: rest, c => setTyped_addMethods rest (c.addMethod m)

theorem setTyped_addConstants : ∀ (ks : List Constant) (c : ClassModel),
    (ks.foldl addConstant c).setTyped typed = ks.foldl addConstant (c.setTyped typed)
  | [], _ => rfl
  | k :: rest, c => setTyped_addConstants rest (c.addConstant k)

theorem addChoices_setTyped (filters : NameFilters) : ∀ (values : List String) (c : ClassModel),
    Enum.addChoices filters values (c.setTyped typed) =
      ((Enum.addChoices filters values c).1.setTyped typed, (Enum.addChoices filters values c).2)
  | [], _ => rfl
  | value :: rest, c => by
    unfold Enum.addChoices
    simp only
    rw [show (c.setTyped typed).hasMethod = c.hasMethod from rfl]
    split
    · rw [addChoices_setTyped filters rest c]
    · exact addChoices_setTyped filters rest (c.addMethod (Enum.choiceConstructor filters value))

end ClassModel

open ClassModel

/-! ## Templates -/

section Templates

variable (filters : NameFilters) (typed before : Bool) (name : String)

theorem setTyped_scalar (scalar : Scalar) :
    (scalar.build filters before name).setTyped typed = scalar.build filters typed name := by
  unfold Scalar.build
  simp only [setTyped_addMethods, setTyped_addProperty, setTyped_valueObject]

theorem setTyped_dateTime (format : String) :
    (DateTime.build filters before format name).setTyped typed = DateTime.build filters typed format name := by
  unfold DateTime.build
  simp only [setTyped_addMethods, setTyped_addProperty, setTyped_addConstant, setTyped_requireImport,
    setTyped_valueObject]

theorem setTyped_uuid : (Uuid.build filters before name).setTyped typed = Uuid.build filters typed name := by
  unfold Uuid.build
  simp only [setTyped_addMethods, setTyped_addProperty, setTyped_requireImport, setTyped_valueObject]

theorem setTyped_languageTag :
    (LanguageTag.build filters before name).setTyped typed = LanguageTag.build filters typed name := by
  unfold LanguageTag.build
  simp only [setTyped_addMethods, setTyped_addProperty, setTyped_valueObject]

theorem setTyped_list (item : ItemType) :
    (ListOf.build filters before name item).setTyped typed = ListOf.build filters typed name item := by
  unfold ListOf.build walkable
  simp only [setTyped_addMethods, setTyped_addMethod, setTyped_addProperty]
  rfl

theorem enum_setTyped (values : List String) : Enum.build filters typed name values =
    ((Enum.build filters before name values).1.setTyped typed, (Enum.build filters before name values).2) := by
  unfold Enum.build
  rw [← setTyped_valueObject (.enum name) before]
  simp only [← setTyped_addConstants, ← setTyped_addConstant, ← setTyped_addProperty, ← setTyped_addMethod,
    addChoices_setTyped, setTyped_addMethods]

end Templates

section ValueObjects

variable (v : ValueObjects) (typed : Bool)

/-- Value objects that are made in the same way but for their types. -/
def ValueObjects.withTypes (v : ValueObjects) (typed : Bool) : ValueObjects := { v with typed := typed }

theorem ofString_withTypes (traits : Traits) (format : Option String) (choices : Option (List String)) :
    (v.withTypes typed).ofString traits format choices =
      ((v.ofString traits format choices).1.setTyped typed, (v.ofString traits format choices).2) := by
  unfold ValueObjects.ofString ValueObjects.withTypes
  simp only
  split
  · exact enum_setTyped v.filters typed v.typed _ _
  · split
    · rw [setTyped_dateTime]
    · rw [setTyped_dateTime]
    · rw [setTyped_uuid]
    · rw [setTyped_languageTag]
    · rw [setTyped_scalar]

theorem ofScalar_withTypes (scalar : Scalar) (traits : Traits) : (v.withTypes typed).ofScalar scalar traits =
    ((v.ofScalar scalar traits).1.setTyped typed, (v.ofScalar scalar traits).2) := by
  unfold ValueObjects.ofScalar ValueObjects.withTypes
  simp only
  rw [setTyped_scalar]

theorem ofArray_withTypes (filters : NameFilters) (before : Bool) (traits : Traits) (items : List TypeSet) :
    ListOf.ofArray filters typed traits items = (ListOf.ofArray filters before traits items).map (·.setTyped typed) := by
  unfold ListOf.ofArray
  simp only
  cases itemType (nameOr traits.name "items") items with
  | error e => rfl
  | ok item => exact congrArg Except.ok (setTyped_list filters typed before _ item).symm

theorem template_withTypes (d : TypeDef) : (v.withTypes typed).template d =
    (v.template d).map fun made => (made.1.setTyped typed, made.2) := by
  cases d with
  | string traits format choices => exact congrArg Except.ok (ofString_withTypes v typed traits format choices)
  | integer traits | number traits | boolean traits => exact congrArg Except.ok (ofScalar_withTypes v typed _ traits)
  | array traits items =>
    unfold ValueObjects.template ValueObjects.withTypes
    simp only
    rw [ofArray_withTypes typed v.filters v.typed]
    cases ListOf.ofArray v.filters v.typed traits items with
    | error e => rfl
    | ok made => rfl
  | object | reference => rfl

theorem withException_setTyped (filters : NameFilters) (c : ClassModel) :
    ValueObjects.withException filters (c.setTyped typed) = (ValueObjects.withException filters c).setTyped typed := by
  unfold ValueObjects.withException
  rw [show (c.setTyped typed).kind = c.kind from rfl]
  split
  · rw [setTyped_requireImport]
    rfl
  · rfl

theorem build_withTypes (className space : String) (d : TypeDef) : (v.withTypes typed).build className space d =
    (v.build className space d).map fun made => (made.1.setTyped typed, made.2) := by
  unfold ValueObjects.build
  rw [template_withTypes]
  cases v.template d with
  | error e => rfl
  | ok made =>
    simp only [Except.map]
    have same := withException_setTyped typed v.filters (named made.1 className space)
    rw [show (v.withTypes typed).filters = v.filters from rfl]
    unfold named setTyped at same
    unfold setTyped
    simp only at same ⊢
    rw [same]
    rfl

end ValueObjects

/-! ## Collections -/

/-- The classes with their types in comments. -/
def Collection.untyped (c : Collection) : Collection := c.mapClasses (·.setTyped false)

namespace Collection

variable {c : Collection} {fqcn : String} {m : ClassModel}

theorem get?_untyped : c.untyped.get? fqcn = (c.get? fqcn).map (·.setTyped false) := get?_mapClasses

theorem untyped_add : (c.add m).untyped = c.untyped.add (m.setTyped false) :=
  congrArg Collection.mk (@Entries.map_put _ c.classes m.fqcn m (·.setTyped false))

theorem untyped_adjust {change : ClassModel → ClassModel}
    (same : ∀ m, (change m).setTyped false = change (m.setTyped false)) :
    (c.adjust fqcn change).untyped = c.untyped.adjust fqcn change := by
  unfold untyped mapClasses adjust Entries.adjust
  simp only [List.map_map, mk.injEq]
  refine List.map_congr_left fun entry _ => ?_
  simp only [Function.comp_apply]
  split
  · rw [same]
  · rfl

end Collection

open Collection

/-! ## The raw array form -/

section RawArrays

variable (c : Collection) (m : ClassModel)

theorem propertyLines_untyped (p : Property) :
    propertyLines c.untyped (m.setTyped false) p = propertyLines c m p := by
  have local' : importedOrLocal (m.setTyped false) = importedOrLocal m := rfl
  unfold propertyLines
  simp only [local', get?_untyped]
  cases c.get? (importedOrLocal m (plainHint p.typeHint)) with
  | none => rfl
  | some found =>
    have kind : (found.setTyped false).kind = found.kind := rfl
    simp only [Option.map_some, kind]

theorem allPropertyLines_untyped : ∀ ps : List Property,
    allPropertyLines c.untyped (m.setTyped false) ps = allPropertyLines c m ps
  | [] => rfl
  | p :: rest => by
    unfold allPropertyLines
    rw [propertyLines_untyped, allPropertyLines_untyped rest]

/-- Who gains the pair, and which one, does not hang on how types are written. -/
theorem addRawArrays_untyped (pending : List String) : addRawArrays c.untyped pending =
    ((addRawArrays c pending).1, (addRawArrays c pending).2.untyped) := by
  induction c, pending using addRawArrays_induction with
  | done c => rw [addRawArrays_nil, addRawArrays_nil]
  | skip c fqcn rest skipped ih =>
    have skipped' : ∀ m, c.untyped.get? fqcn = some m → lacksRawArray m = false := by
      intro m hm
      rw [get?_untyped] at hm
      obtain ⟨found, hf, rfl⟩ := Option.map_eq_some_iff.1 hm
      exact skipped found hf
    rw [addRawArrays_skip' skipped, addRawArrays_skip' skipped', ih]
  | fails c fqcn rest m e hf hl he =>
    have hf' : c.untyped.get? fqcn = some (m.setTyped false) := by rw [get?_untyped, hf]; rfl
    rw [addRawArrays_error hf hl he, addRawArrays_error hf' hl ((allPropertyLines_untyped c m _).trans he)]
  | adds c fqcn rest m lines hf hl ho ih =>
    have hf' : c.untyped.get? fqcn = some (m.setTyped false) := by rw [get?_untyped, hf]; rfl
    rw [addRawArrays_add hf hl ho, addRawArrays_add hf' hl ((allPropertyLines_untyped c m _).trans ho), ← ih,
      untyped_adjust fun _ => rfl]

theorem keepRawArray_untyped (previous : Option ClassModel) :
    Build.keepRawArray (previous.map (·.setTyped false)) m = Build.keepRawArray previous m := by
  cases previous with
  | none => rfl
  | some earlier => rfl

end RawArrays

/-! ## Actions that do not look at types -/

/-- From states that are the same but for types, two actions end in such states, with related outcomes. -/
abbrev Parallel {α β : Type} (R : α → β → Prop) (action : Build α) (action' : Build β) : Prop :=
  Alongside Collection.untyped R action action'

/-- Classes that are the same but for types. -/
def SameUntyped (m m' : ClassModel) : Prop := m.setTyped false = m'.setTyped false

theorem SameUntyped.fqcn_eq {m m' : ClassModel} (h : SameUntyped m m') : m.fqcn = m'.fqcn := by
  have same : (m.setTyped false).fqcn = (m'.setTyped false).fqcn := congrArg _ h
  exact same

section Parallel

theorem parallel_add {m m' : ClassModel} (h : SameUntyped m m') : Parallel Eq (Build.add m) (Build.add m') where
  runs := fun {s s' t outcome} same run => by
    obtain ⟨rfl, rfl⟩ := Build.runs_add.1 run
    refine ⟨_, _, Build.runs_add.2 ⟨rfl, rfl⟩, .ok rfl, ?_⟩
    show (s.collection.add m).untyped = (s'.collection.add m').untyped
    rw [untyped_add, untyped_add, same, h]

theorem parallel_addEntity (m : ClassModel) : Parallel Eq (Build.addEntity m) (Build.addEntity m) where
  runs := fun {s s' t outcome} same run => by
    obtain ⟨rfl, rfl⟩ := Build.runs_addEntity.1 run
    refine ⟨_, _, Build.runs_addEntity.2 ⟨rfl, rfl⟩, .ok rfl, ?_⟩
    have kept : Build.keepRawArray (s.collection.get? m.fqcn) m = Build.keepRawArray (s'.collection.get? m.fqcn) m := by
      rw [← keepRawArray_untyped, ← get?_untyped, same, get?_untyped, keepRawArray_untyped]
    show (s.collection.add _).untyped = (s'.collection.add _).untyped
    rw [kept, untyped_add, untyped_add, same]

theorem parallel_rawArrays (fqcn : String) : Parallel Eq (Build.rawArrays fqcn) (Build.rawArrays fqcn) where
  runs := fun {s s' t outcome} same run => by
    obtain ⟨rfl, rfl⟩ := Prod.mk.inj (run.symm.trans (runs_rawArrays_outcome fqcn s))
    have both := (addRawArrays_untyped s.collection [fqcn]).symm.trans
      ((congrArg (addRawArrays · [fqcn]) same).trans (addRawArrays_untyped s'.collection [fqcn]))
    obtain ⟨outcomes, collections⟩ := Prod.mk.inj both
    refine ⟨_, _, runs_rawArrays_outcome fqcn s', ?_, collections⟩
    rw [outcomes]
    cases (addRawArrays s'.collection [fqcn]).1 with
    | error e => exact .error e
    | ok _ => exact .ok rfl

theorem parallel_throughReference : ∀ set : TypeSet,
    Parallel Eq (Build.throughReference set) (Build.throughReference set)
  | ⟨.reference .., _⟩ => (alongside_noteUnion _ _).bind fun _ _ _ => alongside_throw _
  | ⟨.object .., _⟩ | ⟨.array .., _⟩ | ⟨.string .., _⟩ | ⟨.integer _, _⟩ | ⟨.number _, _⟩ | ⟨.boolean _, _⟩ =>
    (alongside_noteUnion _ _).bind fun _ _ _ => alongside_pure rfl

theorem parallel_resolveFirst : ∀ set : TypeSet, Parallel Eq (Build.resolveFirst set) (Build.resolveFirst set)
  | ⟨.reference _ _ none, _⟩ => (alongside_noteUnion _ _).bind fun _ _ _ => alongside_throw _
  | ⟨.reference _ _ (some inner), _⟩ => (alongside_noteUnion _ _).bind fun _ _ _ =>
    (parallel_throughReference inner).bind fun _ _ same => alongside_pure (by rw [same])
  | ⟨.object .., _⟩ | ⟨.array .., _⟩ | ⟨.string .., _⟩ | ⟨.integer _, _⟩ | ⟨.number _, _⟩ | ⟨.boolean _, _⟩ =>
    (alongside_noteUnion _ _).bind fun _ _ _ => alongside_pure rfl

theorem parallel_valueObject (v : ValueObjects) (typed : Bool) (className space : String) (d : TypeDef) :
    Parallel SameUntyped (Build.valueObject v className space d)
      (Build.valueObject (v.withTypes typed) className space d) := by
  have made : Matches (fun made made' => SameUntyped made.1 made'.1) (v.build className space d)
      ((v.withTypes typed).build className space d) := by
    rw [build_withTypes]
    cases v.build className space d with
    | error e => exact .error e
    | ok made => exact .ok rfl
  unfold Build.valueObject
  exact (alongside_fromExcept made).bind fun _ _ same => (alongside_report _ _).bind fun _ _ _ => alongside_pure same

end Parallel

/-! ## One level -/

section Levels

variable (v : ValueObjects) (typed : Bool) (ambient : String)

def ParallelSet (set : TypeSet) : Prop := ∀ into className, Parallel Eq (Build.buildSet v ambient into className set)
  (Build.buildSet (v.withTypes typed) ambient into className set)

def ParallelDefinition (d : TypeDef) : Prop := ∀ into className,
  Parallel Eq (Build.buildDefinition v ambient into className d)
    (Build.buildDefinition (v.withTypes typed) ambient into className d)

def ParallelProperties (properties : List (String × TypeSet)) : Prop := ∀ into,
  Parallel Eq (Build.buildProperties v ambient properties into)
    (Build.buildProperties (v.withTypes typed) ambient properties into)

def ParallelProperty (d : TypeDef) : Prop := ∀ key, Parallel Eq (Build.propertyClass v ambient key d)
  (Build.propertyClass (v.withTypes typed) ambient key d)

end Levels

section Levels

variable {v : ValueObjects} {typed : Bool} {ambient : String}

theorem parallelSet {set : TypeSet} (h : ∀ d, sizeOf d < sizeOf set → ParallelDefinition v typed ambient d) :
    ParallelSet v typed ambient set := by
  intro into className
  rw [Build.buildSet, Build.buildSet]
  refine (parallel_resolveFirst set).bind fun resolved _ same => ?_
  subst same
  exact h resolved.1 resolved.2 into className

theorem parallelDefinition_object {traits : Traits} {properties : List (String × TypeSet)}
    (h : ParallelProperties v typed ambient properties) :
    ParallelDefinition v typed ambient (.object traits properties) := by
  intro into className
  rw [Build.buildDefinition, Build.buildDefinition]
  refine (h into).bind fun m _ same => ?_
  subst same
  exact parallel_addEntity m

/-- The class of a value object is added with its flag, and what is imported into it is the same. -/
theorem parallel_added (className space : String) (d : TypeDef) (change : ClassModel → ClassModel)
    (same : ∀ m, (change m).setTyped false = change (m.setTyped false)) :
    Parallel Eq (Build.valueObject v className space d >>= fun m => Build.add (change m))
      (Build.valueObject (v.withTypes typed) className space d >>= fun m => Build.add (change m)) := by
  refine (parallel_valueObject v typed className space d).bind fun m m' h => parallel_add ?_
  unfold SameUntyped at h ⊢
  rw [same, same, h]

theorem parallelDefinition_array {traits : Traits} {items : List TypeSet}
    (h : ∀ set ∈ items, ParallelSet v typed ambient set) :
    ParallelDefinition v typed ambient (.array traits items) := by
  intro into className
  rw [Build.buildDefinition, Build.buildDefinition]
  have items' : Matches Eq (itemType (nameOr traits.name className) items)
      (itemType (nameOr traits.name className) items) := by
    cases itemType (nameOr traits.name className) items with
    | error e => exact .error e
    | ok item => exact .ok rfl
  refine (alongside_fromExcept items').bind fun item _ same => ?_
  subst same
  cases items with
  | nil => exact alongside_pure rfl
  | cons set rest =>
    refine (parallel_resolveFirst set).bind fun resolved _ same => ?_
    subst same
    refine (h set List.mem_cons_self _ _).bind fun _ _ _ => ?_
    have wrapped := @parallel_added v typed (v.filters.className className)
      (extractNamespace ambient (.array traits (set :: rest))) (.array traits (set :: rest))
      (·.addImport (qualify (extractNamespace ambient resolved.1) (v.filters.className item.sourceName)))
      fun m => setTyped_addImport _ m
    simp only
    split
    · exact (parallel_rawArrays _).bind fun _ _ _ => wrapped
    · exact wrapped

theorem parallelDefinition_value {d : TypeDef} (hd : IsScalar d) : ParallelDefinition v typed ambient d := by
  intro into className
  cases d with
  | string | integer | number | boolean =>
    rw [Build.buildDefinition, Build.buildDefinition]
    exact parallel_added _ _ _ id fun _ => rfl
  | _ => cases hd

theorem parallelDefinition_reference {traits : Traits} {pointer : String} {resolved : Option TypeSet} :
    ParallelDefinition v typed ambient (.reference traits pointer resolved) := by
  intro into className
  rw [Build.buildDefinition, Build.buildDefinition]
  exact alongside_throw _

theorem parallelProperties_nil : ParallelProperties v typed ambient [] := by
  intro into
  rw [Build.buildProperties, Build.buildProperties]
  exact alongside_pure rfl

theorem parallelProperties_cons {key : String} {set : TypeSet} {rest : List (String × TypeSet)}
    (first : ParallelProperty v typed ambient set.first) (others : ParallelProperties v typed ambient rest) :
    ParallelProperties v typed ambient ((key, set) :: rest) := by
  intro into
  rw [Build.buildProperties, Build.buildProperties]
  refine (alongside_noteUnion _ _).bind fun _ _ _ => (first key).bind fun fqcn _ same => ?_
  subst same
  exact others _

theorem parallelProperty_reference {traits : Traits} {pointer : String} {inner : TypeSet}
    (h : ParallelSet v typed ambient inner) :
    ParallelProperty v typed ambient (.reference traits pointer (some inner)) := by
  intro key
  rw [Build.propertyClass, Build.propertyClass]
  exact (alongside_noteUnion inner inner).bind fun _ _ _ => (h _ _).bind fun _ _ _ => alongside_pure rfl

theorem parallelProperty_dangling {traits : Traits} {pointer : String} :
    ParallelProperty v typed ambient (.reference traits pointer none) := by
  intro key
  rw [Build.propertyClass, Build.propertyClass]
  exact alongside_throw _

theorem parallelProperty_object {traits : Traits} {properties : List (String × TypeSet)}
    (h : ParallelDefinition v typed ambient (.object traits properties)) :
    ParallelProperty v typed ambient (.object traits properties) := by
  intro key
  rw [Build.propertyClass, Build.propertyClass]
  exact (h _ key).bind fun _ _ _ => alongside_pure rfl

theorem parallelProperty_array {traits : Traits} {items : List TypeSet}
    (h : ParallelDefinition v typed ambient (.array traits items)) :
    ParallelProperty v typed ambient (.array traits items) := by
  intro key
  rw [Build.propertyClass, Build.propertyClass]
  exact (h _ key).bind fun _ _ _ => alongside_pure rfl

theorem parallelProperty_value {d : TypeDef} (hd : IsScalar d) : ParallelProperty v typed ambient d := by
  intro key
  cases d with
  | string | integer | number | boolean =>
    rw [Build.propertyClass, Build.propertyClass]
    refine (parallel_valueObject v typed _ _ _).bind fun m m' same => (parallel_add same).bind fun _ _ _ => ?_
    exact alongside_pure same.fqcn_eq
  | _ => cases hd

end Levels

/-! ## All levels -/

section All

variable (v : ValueObjects) (typed : Bool) (ambient : String)

theorem parallel_levels : Levels (ParallelSet v typed ambient) (ParallelDefinition v typed ambient) (ParallelProperties v typed ambient)
    (ParallelProperty v typed ambient) where
  set := parallelSet
  object := parallelDefinition_object
  array := parallelDefinition_array
  reference := parallelDefinition_reference
  value := parallelDefinition_value
  nil := parallelProperties_nil
  cons := parallelProperties_cons
  propertyObject := parallelProperty_object
  propertyArray := parallelProperty_array
  propertyReference := parallelProperty_reference
  propertyDangling := parallelProperty_dangling
  propertyValue := parallelProperty_value

theorem parallelSet_all (set : TypeSet) : ParallelSet v typed ambient set := (parallel_levels v typed ambient).ofSet_all set

end All

end SchemaClasses
