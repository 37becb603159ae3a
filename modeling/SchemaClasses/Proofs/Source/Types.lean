/-
Where the source of a class tells types: in its declarations, or in the comments over them. Beside the source
of a class with native types, that of the class with types in comments has the same lines but for these.
-/
import SchemaClasses.Source.Render
import SchemaClasses.Proofs.Class.TypesMoved

namespace SchemaClasses.Source

open ClassModel

/-! ## Declarations -/

/-- The declaration of a property with a native type or without one. -/
def declaration (hint : Option String) (p : Property) : String :=
  indent ++ p.visibility.keyword ++ " " ++ hint.elim "" (· ++ " ") ++ "$" ++ p.name ++
    p.initial.elim "" (" = " ++ ·) ++ ";"

/-- The declaration of a parameter with a native type or without one. -/
def declaredParam (hint : Option String) (p : Param) : String := hint.elim "" (· ++ " ") ++ dots p ++ "$" ++ p.name

/-- The head of a method with the native types of its parameters and of its result. -/
def declaredHead (hints : Param → Option String) (result : Option String) (m : Method) : String :=
  indent ++ m.visibility.keyword ++ " " ++ (if m.isStatic then "static " else "") ++ "function " ++ m.name ++ "(" ++
    ", ".intercalate (m.params.map fun p => declaredParam (hints p) p) ++ ")" ++ result.elim "" (" : " ++ ·)

/-- The body of a method in its braces. -/
def bodyLines (m : Method) : List String := [indent ++ "\x7b"] ++ m.body.map bodyLine ++ [indent ++ "\x7d"]

/-- What a comment says of a parameter whose type is `hint`. -/
def paramTag (hint : String) (p : Param) : String := "@param " ++ hint ++ " " ++ dots p ++ "$" ++ p.name

/-! ## Members with native types and without -/

theorem propertyLines_typed (p : Property) : propertyLines true p =
    docblock (p.docHint.map ("@var " ++ ·)).toList ++ [declaration (some p.typeHint) p] := by
  unfold propertyLines propertyDoc declaration
  cases p.docHint <;> rfl

theorem propertyLines_untyped (p : Property) : propertyLines false p =
    docblock ["@var " ++ p.docHint.getD p.typeHint] ++ [declaration none p] := by
  unfold propertyLines propertyDoc declaration
  cases p.docHint <;> rfl

theorem methodHead_typed (m : Method) : methodHead true m = declaredHead (·.typeHint) m.returnType m := rfl

theorem methodHead_untyped (m : Method) : methodHead false m = declaredHead (fun _ => none) none m := rfl

theorem methodLines_eq (typed : Bool) (m : Method) :
    methodLines typed m = docblock (methodDoc typed m) ++ methodHead typed m :: bodyLines m := by
  unfold methodLines bodyLines
  simp

/-- Without native types the comment tells the type of every parameter that has one. -/
theorem paramTag_mem {m : Method} (documented : m.Documented) {p : Param} (hp : p ∈ m.params) {hint : String}
    (typed : p.typeHint = some hint) : paramTag hint p ∈ methodDoc false m := by
  have bare : p.docHint = none := (documented.params p hp).resolve_left fun none => by
    rw [typed] at none
    cases none
  refine List.mem_append_left _ (List.mem_filterMap.2 ⟨p, hp, ?_⟩)
  unfold paramDoc
  rw [bare, typed]
  rfl

/-- Without native types the comment tells the type of the result, if there is one. -/
theorem return_mem {m : Method} {hint : String} (typed : m.returnType = some hint) :
    "@return " ++ m.returnDocHint.getD hint ∈ methodDoc false m := by
  refine List.mem_append_right _ ?_
  rw [typed]
  cases m.returnDocHint with
  | none => exact List.mem_singleton.2 rfl
  | some doc => exact List.mem_singleton.2 rfl

/-! ## Classes -/

variable {filters : NameFilters} {m m' : ClassModel}

/-- A method as it is written natively typed, and what is written in its place without native types. The
comment there tells the type of every parameter, and that of the result unless the method is the getter of a
property. -/
structure MethodTold (filters : NameFilters) (m : ClassModel) (method method' : Method) : Prop where
  native : methodLines true method =
    docblock (methodDoc true method) ++ declaredHead (·.typeHint) method.returnType method :: bodyLines method
  bare : methodLines false method' =
    docblock (methodDoc false method') ++ declaredHead (fun _ => none) none method :: bodyLines method
  params : ∀ p ∈ method.params, ∀ hint, p.typeHint = some hint → paramTag hint p ∈ methodDoc false method'
  result : ∀ hint, method.returnType = some hint →
    "@return " ++ method.returnDocHint.getD hint ∈ methodDoc false method' ∨
      ∃ p ∈ m.properties.values, m.isValueObject = false ∧ p.typeHint = hint ∧
        method = getter filters true p ∧ method' = getter filters false p
  documents : Documents method.returnType method.returnDocHint

/-- A property as it is written natively typed and without. -/
structure PropertyTold (p : Property) : Prop where
  native : propertyLines true p = docblock (p.docHint.map ("@var " ++ ·)).toList ++ [declaration (some p.typeHint) p]
  bare : propertyLines false p = docblock ["@var " ++ p.docHint.getD p.typeHint] ++ [declaration none p]
  documents : Documents (some p.typeHint) p.docHint

/-- The source of a class natively typed, and that of the same class with types in comments: the same lines
before and behind the properties and the methods, which are the same ones in the same order. -/
structure TypesTold (filters : NameFilters) (m m' : ClassModel) : Prop where
  file : ∀ members, ∃ front back,
    renderClass m members = Member.endedLines (front ++ m.properties.values.flatMap (propertyLines true) ++
      m.methods.values.flatMap (methodLines true) ++ back) ∧
    renderClass m' members = Member.endedLines (front ++ m.properties.values.flatMap (propertyLines false) ++
      m'.methods.values.flatMap (methodLines false) ++ back)
  properties : ∀ p ∈ m.properties.values, PropertyTold p
  methods : List.Forall₂ (MethodTold filters m) m.methods.values m'.methods.values

theorem methodTold {method method' : Method} (moved : MethodMoved filters m method method')
    (documented : method.Documented) : MethodTold filters m method method' where
  native := by rw [methodLines_eq, methodHead_typed]
  bare := by
    rw [methodLines_eq, methodHead_untyped]
    cases moved with
    | same => rfl
    | getter => rfl
  params := fun p hp hint typed => by
    cases moved with
    | same => exact paramTag_mem documented hp typed
    | getter => cases hp
  result := fun hint typed => by
    cases moved with
    | same => exact .inl (return_mem typed)
    | getter p plain hp => exact .inr ⟨p, hp, plain, Option.some.inj typed, rfl, rfl⟩
  documents := documented.result

/-- The hand-written members that are carried over do not hang on types. -/
theorem keptMembers_eq (h : TypesMoved filters m m') (members : List Member) :
    keptMembers m' members = keptMembers m members := by
  have names : m'.hasMethod = m.hasMethod := funext h.methods.hasName_eq
  have properties : m'.hasProperty = m.hasProperty := by
    rw [h.same]
    rfl
  have constants : m'.hasConstant = m.hasConstant := by
    rw [h.same]
    rfl
  unfold keptMembers declares
  rw [names, properties, constants]

theorem typesTold (h : TypesMoved filters m m') : TypesTold filters m m' where
  file := fun members => by
    have front : preamble m' ++ [classHead m', "\x7b"] ++ m'.constants.values.flatMap constantLines =
        preamble m ++ [classHead m, "\x7b"] ++ m.constants.values.flatMap constantLines := by
      rw [h.same]
      rfl
    have properties : m'.properties = m.properties := by rw [h.same]
    have typed : m'.typed = false := by rw [h.same]
    refine ⟨preamble m ++ [classHead m, "\x7b"] ++ m.constants.values.flatMap constantLines,
      customLines (keptMembers m members) ++ ["\x7d"], ?_, ?_⟩
    · unfold renderClass fileLines memberLines
      rw [h.typed]
      simp only [List.append_assoc]
    · rw [← front, ← keptMembers_eq h, ← properties]
      unfold renderClass fileLines memberLines
      rw [typed]
      simp only [List.append_assoc]
  properties := fun p hp => ⟨propertyLines_typed p, propertyLines_untyped p, h.documented.properties p hp⟩
  methods := by
    have all := h.methods.values
    have documented := h.documented.methods
    generalize m.methods.values = methods, m'.methods.values = methods' at all documented
    induction all with
    | nil => exact .nil
    | cons moved _ ih =>
      obtain ⟨first, others⟩ := List.forall_mem_cons.1 documented
      exact .cons (methodTold moved first) (ih others)

end SchemaClasses.Source
