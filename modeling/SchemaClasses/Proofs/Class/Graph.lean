/-
A successful build of a type set is a sequence of steps, and what it names is in the collection at its
end: an entity under its own name, and every other class under the name that its definition gives it.
-/
import SchemaClasses.Proofs.Class.Walk

namespace SchemaClasses

open Template

/-! ## What a set stands for -/

theorem standsFor?_single {set : TypeSet} {d : TypeDef} (h : standsFor? set = some d) :
    standsFor? ⟨d, []⟩ = some d := by
  obtain ⟨first, others⟩ := set
  cases first with
  | reference _ _ resolved =>
    cases resolved with
    | none => cases h
    | some inner =>
      obtain ⟨first, others⟩ := inner
      cases first with
      | reference => cases h
      | _ =>
        cases h
        rfl
  | _ =>
    cases h
    rfl

theorem sizeOf_standsFor {set : TypeSet} {d : TypeDef} (h : standsFor? set = some d) : sizeOf d < sizeOf set := by
  obtain ⟨first, others⟩ := set
  cases first with
  | reference _ _ resolved =>
    cases resolved with
    | none => cases h
    | some inner =>
      obtain ⟨first, others⟩ := inner
      cases first with
      | reference => cases h
      | _ =>
        cases h
        simp only [Alternatives.mk.sizeOf_spec, TypeDef.reference.sizeOf_spec, Option.some.sizeOf_spec]
        omega
  | _ =>
    cases h
    simp only [Alternatives.mk.sizeOf_spec]
    omega

theorem Meets.of_standsFor {set : TypeSet} {d : TypeDef} {entry : String × TypeSet}
    (h : standsFor? set = some d) (hm : Meets ⟨d, []⟩ entry) : Meets set entry := by
  have single := standsFor?_single h
  cases hm with
  | property hd he =>
    obtain rfl := Option.some.inj (single.symm.trans hd)
    exact .property h he
  | deeper hd he hm =>
    obtain rfl := Option.some.inj (single.symm.trans hd)
    exact .deeper h he hm
  | item hd hm =>
    obtain rfl := Option.some.inj (single.symm.trans hd)
    exact .item h hm

/-- The items of a list stand for what makes the type of the items. -/
theorem HasItems.standsFor {items : List TypeSet} {item : ItemType} {d target : TypeDef} {source : String}
    (h : HasItems items item d target source) : standsFor? ⟨d, []⟩ = some target := by
  have leads := h.leads
  cases d with
  | reference traits pointer resolved =>
    match resolved with
    | none => cases leads
    | some ⟨first, []⟩ =>
      cases leads
      rcases h.single with hs | ⟨_, _, rfl⟩
      · cases target <;> first | rfl | cases hs
      · rfl
    | some ⟨_, _ :: _⟩ => cases leads
  | _ =>
    cases leads
    rfl

/-! ## Levels -/

/-- A property of the arguments of each function of a build: of sets, of definitions, of properties and of the
definition of one property. It is shown level by level, from the smaller arguments that a function goes on with. -/
structure Levels (ofSet : TypeSet → Prop) (ofDefinition : TypeDef → Prop) (ofProperties : List (String × TypeSet) → Prop)
    (ofProperty : TypeDef → Prop) : Prop where
  set {set : TypeSet} : (∀ d, sizeOf d < sizeOf set → ofDefinition d) → ofSet set
  object {traits : Traits} {properties : List (String × TypeSet)} : ofProperties properties →
    ofDefinition (.object traits properties)
  array {traits : Traits} {items : List TypeSet} : (∀ set ∈ items, ofSet set) → ofDefinition (.array traits items)
  reference {traits : Traits} {pointer : String} {resolved : Option TypeSet} :
    ofDefinition (.reference traits pointer resolved)
  value {d : TypeDef} : IsScalar d → ofDefinition d
  nil : ofProperties []
  cons {key : String} {set : TypeSet} {rest : List (String × TypeSet)} : ofProperty set.first → ofProperties rest →
    ofProperties ((key, set) :: rest)
  propertyObject {traits : Traits} {properties : List (String × TypeSet)} :
    ofDefinition (.object traits properties) → ofProperty (.object traits properties)
  propertyArray {traits : Traits} {items : List TypeSet} : ofDefinition (.array traits items) →
    ofProperty (.array traits items)
  propertyReference {traits : Traits} {pointer : String} {inner : TypeSet} : ofSet inner →
    ofProperty (.reference traits pointer (some inner))
  propertyDangling {traits : Traits} {pointer : String} : ofProperty (.reference traits pointer none)
  propertyValue {d : TypeDef} : IsScalar d → ofProperty d

namespace Levels

variable {ofSet : TypeSet → Prop} {ofDefinition : TypeDef → Prop} {ofProperties : List (String × TypeSet) → Prop}
  {ofProperty : TypeDef → Prop}

mutual

theorem ofSet_all (h : Levels ofSet ofDefinition ofProperties ofProperty) (set : TypeSet) : ofSet set :=
  h.set fun d smaller =>
    have := smaller
    h.ofDefinition_all d
termination_by (sizeOf set, 0)

theorem ofDefinition_all (h : Levels ofSet ofDefinition ofProperties ofProperty) : (d : TypeDef) → ofDefinition d
  | .object _ properties => h.object (h.ofProperties_all properties)
  | .array _ items => h.array fun set hm =>
      have := List.sizeOf_lt_of_mem hm
      h.ofSet_all set
  | .reference .. => h.reference
  | .string .. | .integer _ | .number _ | .boolean _ => h.value (by trivial)
termination_by d => (sizeOf d, 0)

theorem ofProperties_all (h : Levels ofSet ofDefinition ofProperties ofProperty) :
    (properties : List (String × TypeSet)) → ofProperties properties
  | [] => h.nil
  | (_, set) :: rest =>
    have := Build.sizeOf_first_lt set
    h.cons (h.ofProperty_all set.first) (h.ofProperties_all rest)
termination_by properties => (sizeOf properties, 0)

theorem ofProperty_all (h : Levels ofSet ofDefinition ofProperties ofProperty) : (d : TypeDef) → ofProperty d
  | .object traits properties => h.propertyObject (h.ofDefinition_all (.object traits properties))
  | .array traits items => h.propertyArray (h.ofDefinition_all (.array traits items))
  | .reference _ _ none => h.propertyDangling
  | .reference _ _ (some inner) => h.propertyReference (h.ofSet_all inner)
  | .string .. | .integer _ | .number _ | .boolean _ => h.propertyValue (by trivial)
termination_by d => (sizeOf d, 1)

end

end Levels

/-! ## Runs -/

/-- A class of the collection that converts as a definition says. -/
def Built (c : Collection) (fqcn : String) (d : TypeDef) : Prop :=
  ∃ m, c.get? fqcn = some m ∧ m.kind.conversion? = conversionOf? d

theorem Built.contains {c : Collection} {fqcn : String} {d : TypeDef} (h : Built c fqcn d) :
    c.contains fqcn = true := by
  obtain ⟨m, hm, -⟩ := h
  exact Collection.contains_of_get? hm

theorem built_add {c : Collection} {m : ClassModel} {fqcn : String} {d : TypeDef} (hn : m.fqcn = fqcn)
    (hk : m.kind.conversion? = conversionOf? d) : Built (c.add m) fqcn d :=
  ⟨m, hn ▸ Collection.get?_add_self, hk⟩

variable {v : ValueObjects} {ambient : String} {met : String × TypeSet → Prop} {s : BuildState}
  {className : String} {d : TypeDef} {c : ClassModel} {reported : List Event}

theorem steps_report (s : BuildState) (events : List Event) : Steps v ambient met s (s.report events) :=
  .single (.report events)

theorem fqcn_value (hd : IsScalar d)
    (h : v.build (v.filters.className className) (extractNamespace ambient d) d = .ok (c, reported)) :
    c.fqcn = qualify (extractNamespace ambient d) (v.filters.className className) := by
  obtain ⟨name, space, -⟩ := build_scalar hd h
  rw [ClassModel.fqcn, name, space]

/-- A single value is built in one step, under its own name. -/
theorem steps_value (hd : IsScalar d)
    (h : v.build (v.filters.className className) (extractNamespace ambient d) d = .ok (c, reported)) :
    Steps v ambient met s ((s.report reported).add c) ∧ Built ((s.report reported).add c).collection
      (qualify (extractNamespace ambient d) (v.filters.className className)) d := by
  obtain ⟨-, -, conversion, hc, value⟩ := build_scalar hd h
  obtain ⟨kind, hk, rfl, -⟩ := value.kind
  refine ⟨(steps_report s reported).tail (.value hd h), built_add (fqcn_value hd h) ?_⟩
  rw [hk, hc]
  rfl

/-- A list is built in one step, once the class of its items is there. -/
theorem steps_list {traits : Traits} {items : List TypeSet} {item : ItemType} {target : TypeDef}
    {source : String} (hi : HasItems items item d target source)
    (h : v.build (v.filters.className className) (extractNamespace ambient (.array traits items))
      (.array traits items) = .ok (c, reported))
    (there : HasItemClass s.collection
      (qualify (extractNamespace ambient target) (v.filters.className item.sourceName)) item.conversion) :
    let made := c.addImport (qualify (extractNamespace ambient target) (v.filters.className item.sourceName))
    Steps v ambient met s ((s.report reported).add made) ∧ Built ((s.report reported).add made).collection
      (qualify (extractNamespace ambient (.array traits items)) (v.filters.className className))
      (.array traits items) := by
  obtain ⟨hn, hs, list⟩ := build_array hi h
  refine ⟨(steps_report s reported).tail (.list hi h there), built_add ?_ ?_⟩
  · rw [ClassModel.fqcn_addImport, ClassModel.fqcn, hn, hs]
  · rw [ClassModel.kind_addImport, list.kind]
    rfl

/-- An entity is built in one step, once the classes of its properties are there. -/
theorem steps_entity {name space : String} {traits : Traits} {properties : List (String × TypeSet)}
    (events : List Event) (trim : IsTrimmed space) (all : ∀ entry ∈ properties, met entry ∧
      s.collection.contains (addedName v ambient entry.1 entry.2.first) = true) :
    let made := Build.keepRawArray (s.collection.get? (qualify space name)) (entityOf v ambient name space properties)
    Steps v ambient met s ((s.report events).add made) ∧
      Built ((s.report events).add made).collection (qualify space name) (.object traits properties) := by
  refine ⟨(steps_report s events).tail (@Step.entity v ambient met (s.report events) _ _ _ trim all),
    built_add ?_ ?_⟩
  · rw [fqcn_keepRawArray, fqcn_entityOf]
  · rw [kind_keepRawArray, kind_entityOf]
    rfl

theorem builtName_self (className : String) (d : TypeDef) :
    builtName v ambient (qualify (extractNamespace ambient d) (v.filters.className className)) className d =
      qualify (extractNamespace ambient d) (v.filters.className className) := by
  cases d <;> rfl

/-- After the work list the class of an item is there, with the pair if it is an entity. -/
theorem hasItemClass_of_built {c c' : Collection} {fqcn : String} {target : TypeDef} {conversion : Conversion}
    (hb : Built c fqcn target) (hc : conversionOf? target = some conversion)
    (h : (conversion == .array) = true ∧ addRawArrays c [fqcn] = (.ok (), c') ∨
      (conversion == .array) = false ∧ c' = c) : HasItemClass c' fqcn conversion := by
  obtain ⟨m, hm, hk⟩ := hb
  rcases h with ⟨-, ha⟩ | ⟨hn, rfl⟩
  · obtain ⟨m', hm', hp⟩ := (grows_of_addRawArrays ha).exists_paired hm
    have none := addRawArrays_done c [fqcn]
    rw [ha] at none
    exact ⟨m', hm', by rw [hp.kind, hk, hc], none rfl fqcn List.mem_cons_self m' hm'⟩
  -- without the raw array form as its conversion the class is no entity
  · refine ⟨m, hm, hk.trans hc, ?_⟩
    have : m.kind ≠ .entity := by
      intro he
      rw [he, hc] at hk
      cases hk
      cases hn
    simp [lacksRawArray, this]

/-! ## One level -/

section Levels

variable (v : ValueObjects) (ambient : String) (met : String × TypeSet → Prop)

/-- Building a set leaves the class of what it stands for. -/
def BuildsSet (set : TypeSet) : Prop :=
  ∀ {s s' : BuildState} {name space className : String}, IsTrimmed space → (∀ entry, Meets set entry → met entry) →
    Runs (Build.buildSet v ambient (.entity name space) className set) s (.ok ()) s' →
    Steps v ambient met s s' ∧ ∃ d, standsFor? set = some d ∧
      Built s'.collection (builtName v ambient (qualify space name) className d) d

/-- Building a definition leaves its class. -/
def BuildsDefinition (d : TypeDef) : Prop :=
  ∀ {s s' : BuildState} {name space className : String}, IsTrimmed space →
    (∀ entry, Meets ⟨d, []⟩ entry → met entry) →
    Runs (Build.buildDefinition v ambient (.entity name space) className d) s (.ok ()) s' →
    Steps v ambient met s s' ∧ Built s'.collection (builtName v ambient (qualify space name) className d) d

/-- Building properties leaves the classes of them all. -/
def BuildsProperties (properties : List (String × TypeSet)) : Prop :=
  ∀ {s s' : BuildState} {into m : ClassModel},
    (∀ entry ∈ properties, met entry ∧ ∀ other, Meets (walked entry.2.first) other → met other) →
    Runs (Build.buildProperties v ambient properties into) s (.ok m) s' →
    Steps v ambient met s s' ∧ m = properties.foldl (withSchemaProperty v ambient) into ∧
      ∀ entry ∈ properties, s'.collection.contains (addedName v ambient entry.1 entry.2.first) = true

/-- Building a property leaves its class, though not always under the name that it promises. -/
def BuildsProperty (d : TypeDef) : Prop :=
  ∀ {s s' : BuildState} {key fqcn : String}, (∀ other, Meets (walked d) other → met other) →
    Runs (Build.propertyClass v ambient key d) s (.ok fqcn) s' →
    Steps v ambient met s s' ∧ fqcn = promisedName v ambient key d ∧
      s'.collection.contains (addedName v ambient key d) = true

end Levels

theorem buildsSet {set : TypeSet} (h : ∀ d, standsFor? set = some d → BuildsDefinition v ambient met d) :
    BuildsSet v ambient met set := by
  intro s s' name space className trim all hr
  rw [Build.buildSet] at hr
  obtain ⟨⟨d, smaller⟩, s₁, hr, hd⟩ := runs_bind_ok.1 hr
  obtain ⟨stands, events, rfl⟩ := Build.runs_resolveFirst hr
  obtain ⟨steps, built⟩ := h d stands trim (fun entry hm => all entry (.of_standsFor stands hm)) hd
  exact ⟨(steps_report s events).trans steps, d, stands, built⟩

theorem buildsDefinition_object {traits : Traits} {properties : List (String × TypeSet)}
    (h : BuildsProperties v ambient met properties) : BuildsDefinition v ambient met (.object traits properties) := by
  intro s s' name space className trim all hr
  have stands : standsFor? ⟨.object traits properties, []⟩ = some (.object traits properties) := rfl
  rw [Build.buildDefinition] at hr
  obtain ⟨m, s₁, hp, ha⟩ := runs_bind_ok.1 hr
  obtain ⟨steps, rfl, added⟩ := h (fun entry he =>
    ⟨all entry (.property stands he), fun other hm => all other (.deeper stands he hm)⟩) hp
  obtain ⟨-, rfl⟩ := Build.runs_addEntity.1 ha
  have fqcn := @fqcn_entityOf v ambient name space properties
  unfold entityOf at fqcn
  rw [fqcn]
  have last := fun events => @steps_entity v ambient met s₁ name space traits properties events trim fun entry he =>
    ⟨all entry (.property stands he), added entry he⟩
  exact ⟨steps.trans (last _).1, (last _).2⟩

theorem buildsDefinition_array {traits : Traits} {items : List TypeSet}
    (h : ∀ set ∈ items, BuildsSet v ambient met set) : BuildsDefinition v ambient met (.array traits items) := by
  intro s s' name space className trim all hr
  have stands : standsFor? ⟨.array traits items, []⟩ = some (.array traits items) := rfl
  rw [Build.buildDefinition] at hr
  simp only [runs_bind_ok, Build.runs_fromExcept] at hr
  obtain ⟨item, _, ⟨hi, rfl⟩, hr⟩ := hr
  obtain ⟨d, target, source, hi⟩ := itemType_ok.1 hi.symm
  obtain rfl := hi.only
  simp only [runs_bind_ok] at hr
  obtain ⟨⟨d', smaller⟩, s₁, hf, _, s₂, hs, hr⟩ := hr
  obtain ⟨found, events, rfl⟩ := Build.runs_resolveFirst hf
  -- the definition that the items are built from is the one that their type is read from
  obtain rfl := Option.some.inj (hi.standsFor.symm.trans found)
  obtain ⟨below, d', found', built⟩ := h _ List.mem_cons_self (isTrimmed_extractNamespace ambient target)
    (fun entry hm => all entry (.item stands hm)) hs
  obtain rfl := Option.some.inj (hi.standsFor.symm.trans found')
  simp only [builtName_self] at built
  -- objects take the raw array form before the wrapper is made
  obtain ⟨s₃, grown, there, hw⟩ : ∃ s₃, Steps v ambient met s₂ s₃ ∧ HasItemClass s₃.collection
      (qualify (extractNamespace ambient target) (v.filters.className item.sourceName)) item.conversion ∧
      Runs (do
        let wrapper ← Build.valueObject v (v.filters.className className)
          (extractNamespace ambient (.array traits [⟨d, []⟩])) (.array traits [⟨d, []⟩])
        Build.add (wrapper.addImport
          (qualify (extractNamespace ambient target) (v.filters.className item.sourceName)))) s₃ (.ok ()) s' := by
    split at hr
    · rename_i object
      obtain ⟨_, s₃, hg, hw⟩ := runs_bind_ok.1 hr
      obtain ⟨c, hc, rfl⟩ := Build.runs_rawArrays.1 hg
      exact ⟨_, .single (.pair hc), hasItemClass_of_built built hi.conversion (.inl ⟨object, hc⟩), hw⟩
    · rename_i single
      exact ⟨s₂, .refl, hasItemClass_of_built built hi.conversion (.inr ⟨Bool.eq_false_iff.2 single, rfl⟩), hr⟩
  obtain ⟨wrapper, _, hv, ha⟩ := runs_bind_ok.1 hw
  obtain ⟨reported, hb, rfl⟩ := Build.runs_valueObject.1 hv
  obtain ⟨-, rfl⟩ := Build.runs_add.1 ha
  obtain ⟨last, made⟩ := steps_list hi hb there
  exact ⟨(((steps_report _ events).trans below).trans grown).trans last, made⟩

theorem buildsDefinition_value (hd : IsScalar d) : BuildsDefinition v ambient met d := by
  intro s s' name space className trim all hr
  have hr : Runs (do
      let model ← Build.valueObject v (v.filters.className className) (extractNamespace ambient d) d
      Build.add model) s (.ok ()) s' ∧
      builtName v ambient (qualify space name) className d =
        qualify (extractNamespace ambient d) (v.filters.className className) := by
    cases d with
    | string | integer | number | boolean =>
      rw [Build.buildDefinition] at hr
      exact ⟨hr, rfl⟩
    | _ => cases hd
  obtain ⟨c, _, hv, ha⟩ := runs_bind_ok.1 hr.1
  obtain ⟨reported, hb, rfl⟩ := Build.runs_valueObject.1 hv
  obtain ⟨-, rfl⟩ := Build.runs_add.1 ha
  rw [hr.2]
  exact steps_value hd hb

theorem buildsDefinition_reference {traits : Traits} {pointer : String} {resolved : Option TypeSet} :
    BuildsDefinition v ambient met (.reference traits pointer resolved) := by
  intro s s' name space className trim all hr
  rw [Build.buildDefinition] at hr
  cases (runs_throw.1 hr).1

theorem buildsProperties_nil : BuildsProperties v ambient met [] := by
  intro s s' into m all hr
  rw [Build.buildProperties] at hr
  obtain ⟨⟨⟩, rfl⟩ := runs_pure.1 hr
  exact ⟨.refl, rfl, fun entry he => by cases he⟩

theorem buildsProperties_cons {key : String} {set : TypeSet} {rest : List (String × TypeSet)}
    (hc : BuildsProperty v ambient met set.first) (ht : BuildsProperties v ambient met rest) :
    BuildsProperties v ambient met ((key, set) :: rest) := by
  intro s s' into m all hr
  rw [Build.buildProperties] at hr
  simp only [runs_bind_ok] at hr
  obtain ⟨_, _, hn, fqcn, s₁, hp, hr⟩ := hr
  obtain ⟨-, events, rfl⟩ := Build.runs_noteUnion hn
  obtain ⟨first, rfl, there⟩ := hc (all _ List.mem_cons_self).2 hp
  obtain ⟨others, rfl, added⟩ := ht (fun entry he => all entry (List.mem_cons_of_mem _ he)) hr
  refine ⟨((steps_report s events).trans first).trans others, ?_, fun entry he => ?_⟩
  · rw [List.foldl_cons, withSchemaProperty]
  · rcases List.mem_cons.1 he with rfl | he
    -- the class was there before the other properties were built, and steps lose none
    · exact others.contains there
    · exact added entry he

theorem addedName_reference {key pointer : String} {traits : Traits} {inner : TypeSet}
    (stands : standsFor? inner = some d) : addedName v ambient key (.reference traits pointer (some inner)) =
      builtName v ambient (qualify (extractNamespace ambient inner.first)
        (v.filters.className (nameOr inner.first.name (targetName pointer))))
        (nameOr inner.first.name (targetName pointer)) d := by
  unfold addedName
  simp only
  rw [stands]
  rfl

theorem buildsProperty_reference {traits : Traits} {pointer : String} {inner : TypeSet}
    (h : BuildsSet v ambient met inner) :
    BuildsProperty v ambient met (.reference traits pointer (some inner)) := by
  intro s s' key fqcn all hr
  rw [Build.propertyClass] at hr
  simp only [runs_bind_ok, runs_pure] at hr
  obtain ⟨_, _, hn, _, _, hs, ⟨⟩, rfl⟩ := hr
  obtain ⟨-, events, rfl⟩ := Build.runs_noteUnion hn
  obtain ⟨steps, d, stands, built⟩ := h (isTrimmed_extractNamespace ambient _) all hs
  rw [addedName_reference stands]
  exact ⟨(steps_report s events).trans steps, rfl, built.contains⟩

theorem buildsProperty_dangling {traits : Traits} {pointer : String} :
    BuildsProperty v ambient met (.reference traits pointer none) := by
  intro s s' key fqcn all hr
  rw [Build.propertyClass] at hr
  cases (runs_throw.1 hr).1

/-- The class of a property without reference is that of its definition. -/
theorem buildsProperty_definition (h : BuildsDefinition v ambient met d)
    (hd : (∃ traits properties, d = .object traits properties) ∨ ∃ traits items, d = .array traits items) :
    BuildsProperty v ambient met d := by
  intro s s' key fqcn all hr
  -- objects and lists go the same way, one clause each
  have hr : Runs (do
      Build.buildDefinition v ambient
        (.entity (v.filters.className key) (extractNamespace ambient d)) key d
      pure (qualify (extractNamespace ambient d) (v.filters.className key))) s (.ok fqcn) s' ∧ walked d = ⟨d, []⟩ ∧
      builtName v ambient (qualify (extractNamespace ambient d) (v.filters.className key)) key d =
        addedName v ambient key d ∧
      qualify (extractNamespace ambient d) (v.filters.className key) = promisedName v ambient key d := by
    rcases hd with ⟨_, _, rfl⟩ | ⟨_, _, rfl⟩
    · rw [Build.propertyClass] at hr
      exact ⟨hr, rfl, rfl, rfl⟩
    · rw [Build.propertyClass] at hr
      exact ⟨hr, rfl, rfl, rfl⟩
  obtain ⟨hr, hw, added, promised⟩ := hr
  simp only [runs_bind_ok, runs_pure] at hr
  obtain ⟨_, _, hd, ⟨⟩, rfl⟩ := hr
  rw [hw] at all
  obtain ⟨steps, built⟩ := h (isTrimmed_extractNamespace ambient d) all hd
  rw [added] at built
  exact ⟨steps, promised, built.contains⟩

theorem buildsProperty_value (hd : IsScalar d) : BuildsProperty v ambient met d := by
  intro s s' key fqcn all hr
  have hr : Runs (do
      let model ← Build.valueObject v (v.filters.className key) (extractNamespace ambient d) d
      Build.add model
      pure model.fqcn) s (.ok fqcn) s' ∧
      qualify (extractNamespace ambient d) (v.filters.className key) = promisedName v ambient key d ∧
      promisedName v ambient key d = addedName v ambient key d := by
    cases d with
    | string | integer | number | boolean =>
      rw [Build.propertyClass] at hr
      exact ⟨hr, rfl, rfl⟩
    | _ => cases hd
  obtain ⟨hr, promised, added⟩ := hr
  simp only [runs_bind_ok, Build.runs_add, runs_pure] at hr
  obtain ⟨c, _, hv, _, _, ⟨-, rfl⟩, ⟨⟩, rfl⟩ := hr
  obtain ⟨reported, hb, rfl⟩ := Build.runs_valueObject.1 hv
  obtain ⟨steps, built⟩ := steps_value hd hb
  rw [← added, ← promised]
  exact ⟨steps, fqcn_value hd hb, built.contains⟩

/-! ## All levels -/

variable (v ambient met)

theorem builds_levels : Levels (BuildsSet v ambient met) (BuildsDefinition v ambient met)
    (BuildsProperties v ambient met) (BuildsProperty v ambient met) where
  set := fun h => buildsSet fun d stands => h d (sizeOf_standsFor stands)
  object := buildsDefinition_object
  array := buildsDefinition_array
  reference := buildsDefinition_reference
  value := buildsDefinition_value
  nil := buildsProperties_nil
  cons := buildsProperties_cons
  propertyObject := fun h => buildsProperty_definition h (.inl ⟨_, _, rfl⟩)
  propertyArray := fun h => buildsProperty_definition h (.inr ⟨_, _, rfl⟩)
  propertyReference := buildsProperty_reference
  propertyDangling := buildsProperty_dangling
  propertyValue := buildsProperty_value

theorem buildsSet_all (set : TypeSet) : BuildsSet v ambient met set := (builds_levels v ambient met).ofSet_all set

theorem buildsDefinition_all (d : TypeDef) : BuildsDefinition v ambient met d :=
  (builds_levels v ambient met).ofDefinition_all d

theorem buildsProperties_all (properties : List (String × TypeSet)) : BuildsProperties v ambient met properties :=
  (builds_levels v ambient met).ofProperties_all properties

/-! ## Builds without alternatives -/

/-- What the addition of an entity leaves. -/
def BuildState.addEntity (s : BuildState) (m : ClassModel) : BuildState :=
  (s.report [.entityBuilt m.fqcn m.properties.length]).add (Build.keepRawArray (s.collection.get? m.fqcn) m)

theorem get?_addEntity (s : BuildState) (m : ClassModel) :
    (s.addEntity m).collection.get? m.fqcn = some (Build.keepRawArray (s.collection.get? m.fqcn) m) := by
  have added := @Collection.get?_add_self s.collection (Build.keepRawArray (s.collection.get? m.fqcn) m)
  rw [fqcn_keepRawArray] at added
  exact added

section Single

open Build

variable {v : ValueObjects} {ambient key : String} {s s' : BuildState} {d : TypeDef} {m : ClassModel}
  {reported : List Event} {traits : Traits}

theorem buildSet_value {className : String} {into : ClassModel} (hd : IsScalar d)
    (hm : v.build (v.filters.className className) (extractNamespace ambient d) d = .ok (m, reported)) :
    Runs (buildSet v ambient into className ⟨d, []⟩) s (.ok ()) ((s.report reported).add m) := by
  cases d with
  | string | integer | number | boolean =>
    rw [buildSet]
    refine runs_bind_ok.2 ⟨_, _, rfl, ?_⟩
    simp only
    rw [buildDefinition]
    exact runs_bind_ok.2 ⟨_, _, runs_valueObject.2 ⟨_, hm, rfl⟩, runs_add.2 ⟨rfl, rfl⟩⟩
  | _ => cases hd

theorem propertyClass_value (hd : IsScalar d)
    (hm : v.build (v.filters.className key) (extractNamespace ambient d) d = .ok (m, reported)) :
    Runs (propertyClass v ambient key d) s (.ok (promisedName v ambient key d)) ((s.report reported).add m) := by
  have promised : promisedName v ambient key d = m.fqcn := by
    rw [fqcn_value hd hm]
    cases d with
    | reference => cases hd
    | _ => rfl
  rw [promised]
  cases d with
  | string | integer | number | boolean =>
    rw [propertyClass]
    exact runs_bind_ok.2 ⟨_, _, runs_valueObject.2 ⟨_, hm, rfl⟩, runs_bind_ok.2
      ⟨_, _, runs_add.2 ⟨rfl, rfl⟩, runs_pure.2 ⟨rfl, rfl⟩⟩⟩
  | _ => cases hd

theorem propertyClass_reference_value {pointer : String} (hd : IsScalar d)
    (hm : v.build (v.filters.className (nameOr d.name (targetName pointer))) (extractNamespace ambient d) d =
      .ok (m, reported)) :
    Runs (propertyClass v ambient key (.reference traits pointer (some ⟨d, []⟩))) s
      (.ok (promisedName v ambient key (.reference traits pointer (some ⟨d, []⟩)))) ((s.report reported).add m) := by
  rw [propertyClass]
  exact runs_bind_ok.2 ⟨_, _, rfl, runs_bind_ok.2 ⟨_, _, buildSet_value hd hm, rfl⟩⟩

theorem buildProperties_cons {into : ClassModel} {rest : List (String × TypeSet)} {s₁ : BuildState}
    (first : Runs (propertyClass v ambient key d) s (.ok (promisedName v ambient key d)) s₁)
    (others : Runs (buildProperties v ambient rest (withSchemaProperty v ambient into (key, ⟨d, []⟩))) s₁ (.ok m) s') :
    Runs (buildProperties v ambient ((key, ⟨d, []⟩) :: rest) into) s (.ok m) s' := by
  rw [buildProperties]
  exact runs_bind_ok.2 ⟨_, _, rfl, runs_bind_ok.2 ⟨_, _, first, others⟩⟩

theorem buildProperties_nil (into : ClassModel) : Runs (buildProperties v ambient [] into) s (.ok into) s := by
  rw [buildProperties]
  exact runs_pure.2 ⟨rfl, rfl⟩

/-- The class of an object is added behind all that its properties give. -/
theorem buildSet_of_properties {into : ClassModel} {className : String} {properties : List (String × TypeSet)}
    (hp : Runs (buildProperties v ambient properties into) s (.ok m) s') :
    Runs (buildSet v ambient into className ⟨.object traits properties, []⟩) s (.ok ()) (s'.addEntity m) := by
  rw [buildSet]
  refine runs_bind_ok.2 ⟨_, _, rfl, ?_⟩
  simp only
  rw [buildDefinition]
  exact runs_bind_ok.2 ⟨_, _, hp, runs_addEntity.2 ⟨rfl, rfl⟩⟩

theorem buildSet_single {name space className : String}
    (hp : Runs (propertyClass v ambient key d) s (.ok (promisedName v ambient key d)) s') :
    Runs (buildSet v ambient (.entity name space) className ⟨.object traits [(key, ⟨d, []⟩)], []⟩) s (.ok ())
      (s'.addEntity (entityOf v ambient name space [(key, ⟨d, []⟩)])) :=
  buildSet_of_properties (buildProperties_cons hp (buildProperties_nil _))

end Single

end SchemaClasses
