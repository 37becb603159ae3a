/-
Only first alternatives count. Two type sets that differ in alternatives behind first ones are built to the
same classes or to the same fault. A list is the one place where alternatives are counted: those of its items
and of what the items refer to.
-/
import SchemaClasses.Proofs.Class.Alongside
import SchemaClasses.Proofs.Class.Graph

namespace SchemaClasses

open Template

/-! ## The same but for further alternatives -/

/-- The number of alternatives that a definition leads to, if it is a reference. -/
def TypeDef.targetCount? : TypeDef → Option Nat
  | .reference _ _ (some inner) => some inner.count
  | _ => none

mutual

/-- Two definitions are the same but for alternatives behind first ones, at any depth. Where these are
counted, in the items of lists and in what items refer to, there are as many of them. -/
inductive SameFirst : TypeDef → TypeDef → Prop
  | object {traits : Traits} {properties properties' : List (String × TypeSet)} :
      SameFirstProperties properties properties' →
      SameFirst (.object traits properties) (.object traits properties')
  | array {traits : Traits} {items items' : List TypeSet} : SameFirstItems items items' →
      SameFirst (.array traits items) (.array traits items')
  | string (traits : Traits) (format : Option String) (choices : Option (List String)) :
      SameFirst (.string traits format choices) (.string traits format choices)
  | integer (traits : Traits) : SameFirst (.integer traits) (.integer traits)
  | number (traits : Traits) : SameFirst (.number traits) (.number traits)
  | boolean (traits : Traits) : SameFirst (.boolean traits) (.boolean traits)
  | unresolved (traits : Traits) (pointer : String) :
      SameFirst (.reference traits pointer none) (.reference traits pointer none)
  | resolved {traits : Traits} {pointer : String} {inner inner' : TypeSet} : SameFirst inner.first inner'.first →
      SameFirst (.reference traits pointer (some inner)) (.reference traits pointer (some inner'))

/-- Properties with the same keys, whose first alternatives are the same in this sense. -/
inductive SameFirstProperties : List (String × TypeSet) → List (String × TypeSet) → Prop
  | nil : SameFirstProperties [] []
  | cons {key : String} {set set' : TypeSet} {rest rest' : List (String × TypeSet)} :
      SameFirst set.first set'.first → SameFirstProperties rest rest' →
      SameFirstProperties ((key, set) :: rest) ((key, set') :: rest')

/-- Items of lists, with as many alternatives in each and behind each reference. -/
inductive SameFirstItems : List TypeSet → List TypeSet → Prop
  | nil : SameFirstItems [] []
  | cons {set set' : TypeSet} {rest rest' : List TypeSet} : set.count = set'.count →
      set.first.targetCount? = set'.first.targetCount? → SameFirst set.first set'.first →
      SameFirstItems rest rest' → SameFirstItems (set :: rest) (set' :: rest')

end

section Parts

variable {d d' : TypeDef} {set set' : TypeSet} {items items' : List TypeSet}

theorem SameFirst.traits_eq (h : SameFirst d d') : d.traits = d'.traits := by
  cases h <;> rfl

theorem SameFirst.name_eq (h : SameFirst d d') : d.name = d'.name := congrArg Traits.name h.traits_eq

theorem SameFirst.extractNamespace_eq (h : SameFirst d d') (ambient : String) :
    extractNamespace ambient d = extractNamespace ambient d' := extractNamespace_of_traits h.traits_eq ambient

theorem SameFirst.propertyTypeHint_eq (h : SameFirst d d') (className : String) :
    propertyTypeHint className d = propertyTypeHint className d' := propertyTypeHint_of_traits h.traits_eq className

theorem SameFirst.itemConversion_eq (h : SameFirst d d') (name : String) :
    itemConversion name d = itemConversion name d' := by
  cases h <;> rfl

/-! ## Items -/

/-- The same fault, or first alternatives that are the same in this sense. -/
theorem matches_onlyAlternative (counts : set.count = set'.count) (first : SameFirst set.first set'.first)
    (name : String) : Matches SameFirst (onlyAlternative name set) (onlyAlternative name set') := by
  obtain ⟨d, others⟩ := set
  obtain ⟨d', others'⟩ := set'
  have lengths : others.length = others'.length := Nat.succ.inj counts
  cases others with
  | nil =>
    obtain rfl := List.eq_nil_of_length_eq_zero lengths.symm
    exact .ok first
  | cons _ _ =>
    cases others' with
    | nil => cases lengths
    | cons _ _ =>
      unfold onlyAlternative
      simp only
      rw [counts]
      exact .error _

theorem matches_itemTarget (counts : d.targetCount? = d'.targetCount?) (h : SameFirst d d') (name : String) :
    Matches (fun found found' => SameFirst found.1 found'.1 ∧ found.2 = found'.2) (itemTarget name d)
      (itemTarget name d') := by
  cases h with
  | unresolved traits pointer => exact .error _
  | @resolved traits pointer inner inner' first =>
    have only := matches_onlyAlternative (Option.some.inj counts) first name
    unfold itemTarget
    simp only
    generalize onlyAlternative name inner = found, onlyAlternative name inner' = found' at only ⊢
    cases only with
    | error e => exact .error e
    | ok first => exact .ok ⟨first, congrArg (nameOr · _) first.name_eq⟩
  | object properties => exact .ok ⟨.object properties, rfl⟩
  | array items => exact .ok ⟨.array items, rfl⟩
  | string traits format choices => exact .ok ⟨.string traits format choices, rfl⟩
  | integer traits => exact .ok ⟨.integer traits, rfl⟩
  | number traits => exact .ok ⟨.number traits, rfl⟩
  | boolean traits => exact .ok ⟨.boolean traits, rfl⟩

theorem SameFirstItems.length_eq : ∀ {items items' : List TypeSet}, SameFirstItems items items' →
    items.length = items'.length
  | _, _, .nil => rfl
  | _, _, .cons _ _ _ rest => congrArg (· + 1) rest.length_eq

/-- The type of the items of a list counts alternatives, and sees no others than the first ones. -/
theorem SameFirstItems.itemType_eq (h : SameFirstItems items items') (name : String) :
    itemType name items = itemType name items' := by
  cases h with
  | nil => rfl
  | @cons set set' rest rest' counts targets first others =>
    cases others with
    | nil =>
      have only := matches_onlyAlternative counts first name
      unfold itemType
      simp only
      generalize hf : onlyAlternative name set = found, hf' : onlyAlternative name set' = found' at only ⊢
      cases only with
      | error e => rfl
      | @ok d d' same =>
        obtain rfl := onlyAlternative_ok.1 hf
        obtain rfl := onlyAlternative_ok.1 hf'
        have leads := matches_itemTarget targets first name
        simp only [bind, Except.bind]
        generalize itemTarget name d = target, itemTarget name d' = target' at leads ⊢
        cases leads with
        | error e => rfl
        | @ok found found' both =>
          obtain ⟨target, source⟩ := found
          obtain ⟨target', source'⟩ := found'
          obtain ⟨same, rfl⟩ := both
          simp only
          rw [same.itemConversion_eq name]
    | cons counts' targets' first' others' =>
      unfold itemType
      simp only [List.length_cons, others'.length_eq]

theorem SameFirstItems.build_eq (h : SameFirstItems items items') (v : ValueObjects) (className space : String)
    (traits : Traits) : v.build className space (.array traits items) = v.build className space (.array traits items') := by
  unfold ValueObjects.build ValueObjects.template ListOf.ofArray
  simp only [h.itemType_eq]
  rfl

/-- There are no alternatives in a single value. -/
theorem SameFirst.eq_of_isScalar (h : SameFirst d d') (hd : IsScalar d) : d = d' := by
  cases h with
  | string | integer | number | boolean => rfl
  | _ => cases hd

end Parts

/-! ## Actions that end alike -/

/-- From states with the same collection, two actions end in such states, with the same fault or with related
values. What they report may differ. -/
abbrev Concurs {α β : Type} (R : α → β → Prop) (action : Build α) (action' : Build β) : Prop :=
  Alongside (fun c => c) R action action'

/-- An action that sees nothing of a state but the collection concurs with itself. -/
theorem concurs_self {α : Type} {action : Build α} (blind : ∀ {c events events' t outcome}, Runs action ⟨c, events⟩ outcome t →
    ∃ t', Runs action ⟨c, events'⟩ outcome t' ∧ t.collection = t'.collection) : Concurs Eq action action where
  runs := fun {s s' t outcome} same run => by
    obtain ⟨t', run', left⟩ := @blind s.collection s.events s'.events t outcome run
    rw [same] at run'
    exact ⟨outcome, t', run', matches_self outcome, left⟩

namespace Build

theorem concurs_add (m : ClassModel) : Concurs Eq (add m) (add m) :=
  concurs_self fun run => by
    obtain ⟨rfl, rfl⟩ := runs_add.1 run
    exact ⟨_, runs_add.2 ⟨rfl, rfl⟩, rfl⟩

theorem concurs_addEntity (m : ClassModel) : Concurs Eq (addEntity m) (addEntity m) :=
  concurs_self fun run => by
    obtain ⟨rfl, rfl⟩ := runs_addEntity.1 run
    exact ⟨_, runs_addEntity.2 ⟨rfl, rfl⟩, rfl⟩

theorem concurs_rawArrays (fqcn : String) : Concurs Eq (rawArrays fqcn) (rawArrays fqcn) :=
  concurs_self fun {c events events' t outcome} run => by
    obtain ⟨rfl, rfl⟩ := Prod.mk.inj (run.symm.trans (runs_rawArrays_outcome fqcn ⟨c, events⟩))
    exact ⟨_, runs_rawArrays_outcome fqcn ⟨c, events'⟩, rfl⟩

theorem concurs_valueObject (v : ValueObjects) (className space : String) (d : TypeDef) :
    Concurs Eq (valueObject v className space d) (valueObject v className space d) := by
  unfold valueObject
  refine (alongside_fromExcept (matches_self _)).bind fun made _ same => ?_
  subst same
  exact (alongside_report _ _).bind fun _ _ _ => alongside_pure rfl

end Build

/-! ## One level -/

section Levels

variable (v : ValueObjects) (ambient : String)

def ConcursSet (set : TypeSet) : Prop := ∀ {set' : TypeSet}, SameFirst set.first set'.first → ∀ into className,
  Concurs Eq (Build.buildSet v ambient into className set) (Build.buildSet v ambient into className set')

def ConcursDefinition (d : TypeDef) : Prop := ∀ {d' : TypeDef}, SameFirst d d' → ∀ into className,
  Concurs Eq (Build.buildDefinition v ambient into className d) (Build.buildDefinition v ambient into className d')

def ConcursProperties (properties : List (String × TypeSet)) : Prop :=
  ∀ {properties' : List (String × TypeSet)}, SameFirstProperties properties properties' → ∀ into,
    Concurs Eq (Build.buildProperties v ambient properties into) (Build.buildProperties v ambient properties' into)

def ConcursProperty (d : TypeDef) : Prop := ∀ {d' : TypeDef}, SameFirst d d' → ∀ key,
  Concurs Eq (Build.propertyClass v ambient key d) (Build.propertyClass v ambient key d')

end Levels

section Levels

open Build

variable {v : ValueObjects} {ambient : String}

/-- What is found behind a reference. -/
theorem concurs_throughReference : ∀ {set set' : TypeSet}, SameFirst set.first set'.first →
    Concurs (fun found found' => SameFirst found.1 found'.1) (throughReference set) (throughReference set')
  | ⟨_, _⟩, ⟨_, _⟩, .unresolved .. => (alongside_noteUnion _ _).bind fun _ _ _ => alongside_throw _
  | ⟨_, _⟩, ⟨_, _⟩, .resolved _ => (alongside_noteUnion _ _).bind fun _ _ _ => alongside_throw _
  | ⟨_, _⟩, ⟨_, _⟩, .object h => (alongside_noteUnion _ _).bind fun _ _ _ => alongside_pure (.object h)
  | ⟨_, _⟩, ⟨_, _⟩, .array h => (alongside_noteUnion _ _).bind fun _ _ _ => alongside_pure (.array h)
  | ⟨_, _⟩, ⟨_, _⟩, .string t f c => (alongside_noteUnion _ _).bind fun _ _ _ => alongside_pure (.string t f c)
  | ⟨_, _⟩, ⟨_, _⟩, .integer t => (alongside_noteUnion _ _).bind fun _ _ _ => alongside_pure (.integer t)
  | ⟨_, _⟩, ⟨_, _⟩, .number t => (alongside_noteUnion _ _).bind fun _ _ _ => alongside_pure (.number t)
  | ⟨_, _⟩, ⟨_, _⟩, .boolean t => (alongside_noteUnion _ _).bind fun _ _ _ => alongside_pure (.boolean t)

theorem concurs_resolveFirst : ∀ {set set' : TypeSet}, SameFirst set.first set'.first →
    Concurs (fun found found' => SameFirst found.1 found'.1) (resolveFirst set) (resolveFirst set')
  | ⟨_, _⟩, ⟨_, _⟩, .unresolved .. => (alongside_noteUnion _ _).bind fun _ _ _ => alongside_throw _
  | ⟨_, _⟩, ⟨_, _⟩, .resolved h => (alongside_noteUnion _ _).bind fun _ _ _ =>
    (concurs_throughReference h).bind fun _ _ same => alongside_pure same
  | ⟨_, _⟩, ⟨_, _⟩, .object h => (alongside_noteUnion _ _).bind fun _ _ _ => alongside_pure (.object h)
  | ⟨_, _⟩, ⟨_, _⟩, .array h => (alongside_noteUnion _ _).bind fun _ _ _ => alongside_pure (.array h)
  | ⟨_, _⟩, ⟨_, _⟩, .string t f c => (alongside_noteUnion _ _).bind fun _ _ _ => alongside_pure (.string t f c)
  | ⟨_, _⟩, ⟨_, _⟩, .integer t => (alongside_noteUnion _ _).bind fun _ _ _ => alongside_pure (.integer t)
  | ⟨_, _⟩, ⟨_, _⟩, .number t => (alongside_noteUnion _ _).bind fun _ _ _ => alongside_pure (.number t)
  | ⟨_, _⟩, ⟨_, _⟩, .boolean t => (alongside_noteUnion _ _).bind fun _ _ _ => alongside_pure (.boolean t)

theorem concursSet {set : TypeSet} (h : ∀ d, sizeOf d < sizeOf set → ConcursDefinition v ambient d) :
    ConcursSet v ambient set := by
  intro set' same into className
  rw [buildSet, buildSet]
  exact (concurs_resolveFirst same).bind fun found found' same => h found.1 found.2 same into className

theorem concursDefinition_object {traits : Traits} {properties : List (String × TypeSet)}
    (h : ConcursProperties v ambient properties) : ConcursDefinition v ambient (.object traits properties) := by
  intro d' same into className
  cases same with
  | object same =>
    rw [buildDefinition, buildDefinition]
    refine (h same into).bind fun m _ equal => ?_
    subst equal
    exact concurs_addEntity m

theorem concursDefinition_array {traits : Traits} {items : List TypeSet}
    (h : ∀ set ∈ items, ConcursSet v ambient set) : ConcursDefinition v ambient (.array traits items) := by
  intro d' same into className
  cases same with
  | @array _ _ items' same =>
    -- the class of the list itself sees no more of its items than their type
    have wrapped : ∀ fqcn, Concurs Eq
        (valueObject v (v.filters.className className) (extractNamespace ambient (.array traits items))
          (.array traits items) >>= fun m => add (m.addImport fqcn))
        (valueObject v (v.filters.className className) (extractNamespace ambient (.array traits items'))
          (.array traits items') >>= fun m => add (m.addImport fqcn)) := by
      intro fqcn
      have equal : valueObject v (v.filters.className className) (extractNamespace ambient (.array traits items'))
          (.array traits items') = valueObject v (v.filters.className className)
            (extractNamespace ambient (.array traits items)) (.array traits items) := by
        unfold valueObject
        rw [(SameFirst.array same).extractNamespace_eq ambient, same.build_eq]
      rw [equal]
      refine (concurs_valueObject _ _ _ _).bind fun m _ equal => ?_
      subst equal
      exact concurs_add _
    rw [buildDefinition, buildDefinition, same.itemType_eq]
    refine (alongside_fromExcept (matches_self _)).bind fun item _ equal => ?_
    subst equal
    cases same with
    | nil => exact alongside_pure rfl
    | @cons set set' rest rest' counts targets first others =>
      refine (concurs_resolveFirst first).bind fun found found' same => ?_
      simp only
      rw [same.extractNamespace_eq ambient]
      refine (h set List.mem_cons_self first _ _).bind fun _ _ _ => ?_
      split
      · exact (concurs_rawArrays _).bind fun _ _ _ => wrapped _
      · exact wrapped _

theorem concursDefinition_value {d : TypeDef} (hd : IsScalar d) : ConcursDefinition v ambient d := by
  intro d' same into className
  rw [← same.eq_of_isScalar hd]
  cases d with
  | string | integer | number | boolean =>
    rw [buildDefinition]
    refine (concurs_valueObject _ _ _ _).bind fun m _ equal => ?_
    subst equal
    exact concurs_add m
  | _ => cases hd

theorem concursDefinition_reference {traits : Traits} {pointer : String} {resolved : Option TypeSet} :
    ConcursDefinition v ambient (.reference traits pointer resolved) := by
  intro d' same into className
  cases same with
  | unresolved =>
    rw [buildDefinition]
    exact alongside_throw _
  | resolved =>
    rw [buildDefinition, buildDefinition]
    exact alongside_throw _

theorem concursProperties_nil : ConcursProperties v ambient [] := by
  intro properties' same into
  cases same
  rw [buildProperties]
  exact alongside_pure rfl

theorem concursProperties_cons {key : String} {set : TypeSet} {rest : List (String × TypeSet)}
    (first : ConcursProperty v ambient set.first) (others : ConcursProperties v ambient rest) :
    ConcursProperties v ambient ((key, set) :: rest) := by
  intro properties' same into
  cases same with
  | cons same same' =>
    rw [buildProperties, buildProperties]
    refine (alongside_noteUnion _ _).bind fun _ _ _ => (first same key).bind fun fqcn _ equal => ?_
    subst equal
    rw [same.propertyTypeHint_eq]
    exact others same' _

/-- The class behind a reference is named after what the first alternative is called. -/
theorem concursProperty_reference {traits : Traits} {pointer : String} {inner : TypeSet}
    (h : ConcursSet v ambient inner) : ConcursProperty v ambient (.reference traits pointer (some inner)) := by
  intro d' same key
  cases same with
  | resolved same =>
    rw [propertyClass, propertyClass]
    simp only
    rw [same.name_eq, same.extractNamespace_eq ambient]
    exact (alongside_noteUnion _ _).bind fun _ _ _ => (h same _ _).bind fun _ _ _ => alongside_pure rfl

theorem concursProperty_dangling {traits : Traits} {pointer : String} :
    ConcursProperty v ambient (.reference traits pointer none) := by
  intro d' same key
  cases same
  rw [propertyClass]
  exact alongside_throw _

theorem concursProperty_object {traits : Traits} {properties : List (String × TypeSet)}
    (h : ConcursDefinition v ambient (.object traits properties)) :
    ConcursProperty v ambient (.object traits properties) := by
  intro d' same key
  have space := same.extractNamespace_eq ambient
  have built := h same
  cases same with
  | object =>
    rw [propertyClass, propertyClass, space]
    exact (built _ key).bind fun _ _ _ => alongside_pure rfl

theorem concursProperty_array {traits : Traits} {items : List TypeSet}
    (h : ConcursDefinition v ambient (.array traits items)) : ConcursProperty v ambient (.array traits items) := by
  intro d' same key
  have space := same.extractNamespace_eq ambient
  have built := h same
  cases same with
  | array =>
    rw [propertyClass, propertyClass, space]
    exact (built _ key).bind fun _ _ _ => alongside_pure rfl

theorem concursProperty_value {d : TypeDef} (hd : IsScalar d) : ConcursProperty v ambient d := by
  intro d' same key
  rw [← same.eq_of_isScalar hd]
  cases d with
  | string | integer | number | boolean =>
    rw [propertyClass]
    refine (concurs_valueObject _ _ _ _).bind fun m _ equal => ?_
    subst equal
    exact (concurs_add m).bind fun _ _ _ => alongside_pure rfl
  | _ => cases hd

end Levels

/-! ## All levels -/

section All

variable (v : ValueObjects) (ambient : String)

theorem concurs_levels : Levels (ConcursSet v ambient) (ConcursDefinition v ambient) (ConcursProperties v ambient)
    (ConcursProperty v ambient) where
  set := concursSet
  object := concursDefinition_object
  array := concursDefinition_array
  reference := concursDefinition_reference
  value := concursDefinition_value
  nil := concursProperties_nil
  cons := concursProperties_cons
  propertyObject := concursProperty_object
  propertyArray := concursProperty_array
  propertyReference := concursProperty_reference
  propertyDangling := concursProperty_dangling
  propertyValue := concursProperty_value

theorem concursSet_all (set : TypeSet) : ConcursSet v ambient set := (concurs_levels v ambient).ofSet_all set

end All

/-- Two type sets that are the same but for alternatives behind first ones are built alike from every collection,
for every class to fill and under every name: with the same fault or with none, and to the same collection. -/
theorem buildSet_firstAlternatives (v : ValueObjects) (ambient : String) (into : ClassModel) (className : String)
    {set set' : TypeSet} (same : SameFirst set.first set'.first) (c : Collection) (events events' : List Event) :
    let built := (Build.buildSet v ambient into className set).run.run ⟨c, events⟩
    let built' := (Build.buildSet v ambient into className set').run.run ⟨c, events'⟩
    built.1 = built'.1 ∧ built.2.collection = built'.2.collection := by
  have here : BuildState.collection ⟨c, events⟩ = BuildState.collection ⟨c, events'⟩ := rfl
  obtain ⟨outcome', t', run', matched, left⟩ := (concursSet_all v ambient set same into className).runs here rfl
  have run' : (Build.buildSet v ambient into className set').run.run ⟨c, events'⟩ = (outcome', t') := run'
  simp only
  rw [run']
  exact ⟨eq_of_matches matched, left⟩

section Union

open Build

def textMaker : ValueObjects := ⟨conventionalNames, true, Template.DateTime.defaultFormat⟩

def textTarget : TypeDef := .string { name := "t" } none none

/-- A reference to a text, in a set of which it is the first alternative. -/
def textReference (further : List TypeDef) : TypeDef :=
  .reference { name := "p" } "#/definitions/t" (some ⟨textTarget, further⟩)

/-- An object with this reference, with further alternatives in all three places where they may stand. -/
def textRecord (further : List TypeDef) : TypeSet :=
  ⟨.object { name := "r" } [("p", ⟨textReference further, further⟩)], further⟩

theorem sameFirst_textRecord (further further' : List TypeDef) :
    SameFirst (textRecord further).first (textRecord further').first :=
  .object (.cons (.resolved (.string ..)) .nil)

def textClass : ClassModel :=
  named (Template.Scalar.text.build conventionalNames true "t") (conventionalNames.className "t")
    (extractNamespace "App" textTarget)

def textState : BuildState :=
  ((BuildState.report {} [.valueObjectBuilt textClass.fqcn "string"]).add textClass).addEntity
    (entityOf textMaker "App" "R" "App" [("p", ⟨textReference [], []⟩)])

theorem build_textRecord :
    Runs (buildSet textMaker "App" (.entity "R" "App") "R" (textRecord [])) {} (.ok ()) textState := by
  have text : textMaker.build (conventionalNames.className "t") (extractNamespace "App" textTarget) textTarget =
      .ok (textClass, [.valueObjectBuilt textClass.fqcn "string"]) := rfl
  exact buildSet_single (propertyClass_reference_value trivial text)

/-- Numbers as further alternatives change nothing. -/
theorem buildSet_firstAlternatives_union : SameFirst (textRecord []).first (textRecord [.number {}]).first ∧
    textState.collection.names = ["App\\T", "App\\R"] ∧ ∃ s,
      Runs (buildSet textMaker "App" (.entity "R" "App") "R" (textRecord [.number {}])) {} (.ok ()) s ∧
        s.collection = textState.collection := by
  have same := sameFirst_textRecord [] [.number {}]
  refine ⟨same, by decide +kernel, ?_⟩
  obtain ⟨outcomes, collections⟩ :=
    buildSet_firstAlternatives textMaker "App" (.entity "R" "App") "R" same {} [] []
  have first : (buildSet textMaker "App" (.entity "R" "App") "R" (textRecord [])).run.run ⟨{}, []⟩ =
    (.ok (), textState) := build_textRecord
  rw [first] at outcomes collections
  generalize other : (buildSet textMaker "App" (.entity "R" "App") "R" (textRecord [.number {}])).run.run ⟨{}, []⟩ =
    run at outcomes collections
  exact ⟨run.2, other.trans (Prod.ext outcomes.symm rfl), collections.symm⟩

end Union

end SchemaClasses
