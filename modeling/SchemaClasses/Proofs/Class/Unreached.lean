/-
Arms of a build that nothing reaches. A list without items and a reference in place of a definition have arms of
their own, and whatever is done there makes no difference to any build: the type of the items is asked for before
the first one is looked up, and what a set stands for is no reference. The two checks of a list agree, so that once
the type of its items is known neither the way to them nor the class of the list can fail.
-/
import SchemaClasses.Proofs.Class.Chain

namespace SchemaClasses

open Template

/-! ## Builds with something else in these arms -/

namespace Build

section Otherwise

variable (otherwise : Build Unit)

mutual

/-- Builds the classes of a set, with `otherwise` in the arms that nothing reaches. -/
def buildSetOr (v : ValueObjects) (ambient : String) (into : ClassModel) (className : String)
    (set : TypeSet) : Build Unit := do
  let ⟨definition, _⟩ ← resolveFirst set
  buildDefinitionOr v ambient into className definition
termination_by (sizeOf set, 0)

/-- Builds the classes of a definition, with `otherwise` for a list without items and for a reference. -/
def buildDefinitionOr (v : ValueObjects) (ambient : String) (into : ClassModel) (className : String)
    (definition : TypeDef) : Build Unit :=
  match definition with
  | .object _ properties => do
    let model ← buildPropertiesOr v ambient properties into
    addEntity model
  | .array traits items => do
    let item ← fromExcept (Template.itemType (nameOr traits.name className) items)
    match items with
    | [] => otherwise
    | itemSet :: _ =>
      let ⟨itemDefinition, _⟩ ← resolveFirst itemSet
      let itemSpace := extractNamespace ambient itemDefinition
      let itemClass := v.filters.className item.sourceName
      buildSetOr v ambient (.entity itemClass itemSpace) item.sourceName itemSet
      if item.isObject then rawArrays (qualify itemSpace itemClass)
      let wrapper ← valueObject v (v.filters.className className)
        (extractNamespace ambient definition) definition
      add (wrapper.addImport (qualify itemSpace itemClass))
  | .reference .. => otherwise
  | .string .. | .integer _ | .number _ | .boolean _ => do
    let model ← valueObject v (v.filters.className className)
      (extractNamespace ambient definition) definition
    add model
termination_by (sizeOf definition, 0)

/-- Builds the classes of properties and gives the properties to an entity. -/
def buildPropertiesOr (v : ValueObjects) (ambient : String) :
    List (String × TypeSet) → ClassModel → Build ClassModel
  | [], into => pure into
  | (key, set) :: rest, into => do
    noteUnion set
    have : sizeOf set.first < sizeOf set := sizeOf_first_lt set
    let fqcn ← propertyClassOr v ambient key set.first
    let property : Property := {
      name := v.filters.propertyName key
      sourceName := some key
      typeHint := propertyTypeHint (shortName fqcn) set.first }
    buildPropertiesOr v ambient rest ((into.addImport fqcn).addProperty property)
termination_by properties => (sizeOf properties, 0)

/-- Builds the class of a property and says its fully-qualified name. -/
def propertyClassOr (v : ValueObjects) (ambient key : String) (definition : TypeDef) :
    Build String :=
  let className := v.filters.className key
  let space := extractNamespace ambient definition
  match definition with
  | .object traits properties => do
    buildDefinitionOr v ambient (.entity className space) key (.object traits properties)
    pure (qualify space className)
  | .array traits items => do
    buildDefinitionOr v ambient (.entity className space) key (.array traits items)
    pure (qualify space className)
  | .reference _ pointer none => throw (.unresolvedReference pointer)
  | .reference _ pointer (some resolved) => do
    noteUnion resolved
    let sourceName := nameOr resolved.first.name (targetName pointer)
    let className := v.filters.className sourceName
    let space := extractNamespace ambient resolved.first
    buildSetOr v ambient (.entity className space) sourceName resolved
    pure (qualify space className)
  | .string .. | .integer _ | .number _ | .boolean _ => do
    let model ← valueObject v className space definition
    add model
    pure model.fqcn
termination_by (sizeOf definition, 1)

end

end Otherwise

end Build

/-! ## Nothing reaches them -/

section Unreached

open Build

variable (otherwise : Build Unit) (v : ValueObjects) (ambient : String)

theorem buildSetOr_eq {set : TypeSet} (h : ∀ d, standsFor? set = some d → ∀ into className,
      buildDefinitionOr otherwise v ambient into className d = buildDefinition v ambient into className d)
    (into : ClassModel) (className : String) :
    buildSetOr otherwise v ambient into className set = buildSet v ambient into className set := by
  rw [buildSetOr, buildSet]
  refine bind_congr_of_runs fun s found s' run => ?_
  obtain ⟨stands, -⟩ := runs_resolveFirst run
  exact h _ stands into className

theorem buildDefinitionOr_array_eq {traits : Traits} {items : List TypeSet} (h : ∀ set ∈ items, ∀ into className,
      buildSetOr otherwise v ambient into className set = buildSet v ambient into className set)
    (into : ClassModel) (className : String) :
    buildDefinitionOr otherwise v ambient into className (.array traits items) =
      buildDefinition v ambient into className (.array traits items) := by
  rw [buildDefinitionOr, buildDefinition]
  refine bind_congr_of_runs fun s item s' run => ?_
  -- there is an item, since the items have a type
  obtain ⟨d, target, source, accepted⟩ := itemType_ok.1 (runs_fromExcept.1 run).1.symm
  obtain rfl := accepted.only
  simp only [h _ List.mem_cons_self]

theorem or_levels : Levels
    (fun set => ∀ into className, buildSetOr otherwise v ambient into className set = buildSet v ambient into className set)
    (fun d => ¬ d.IsReference → ∀ into className,
      buildDefinitionOr otherwise v ambient into className d = buildDefinition v ambient into className d)
    (fun properties => ∀ into,
      buildPropertiesOr otherwise v ambient properties into = buildProperties v ambient properties into)
    (fun d => ∀ key, propertyClassOr otherwise v ambient key d = propertyClass v ambient key d) where
  set := fun h => buildSetOr_eq otherwise v ambient fun d stands =>
    h d (sizeOf_standsFor stands) (not_reference_of_standsFor stands)
  object := fun h _ into className => by rw [buildDefinitionOr, buildDefinition, h]
  array := fun h _ => buildDefinitionOr_array_eq otherwise v ambient h
  -- no set stands for a reference, and a property goes on with objects and lists alone
  reference := fun h => absurd ⟨_, _, _, rfl⟩ h
  value := fun {d} hd _ into className => by
    cases d with
    | string | integer | number | boolean => rw [buildDefinitionOr, buildDefinition]
    | _ => cases hd
  nil := fun into => by rw [buildPropertiesOr, buildProperties]
  cons := fun hf hr into => by
    rw [buildPropertiesOr, buildProperties]
    simp only [hf, hr]
  propertyObject := fun h key => by
    rw [propertyClassOr, propertyClass, h (by rintro ⟨_, _, _, ⟨⟩⟩)]
  propertyArray := fun h key => by
    rw [propertyClassOr, propertyClass, h (by rintro ⟨_, _, _, ⟨⟩⟩)]
  propertyReference := fun h key => by
    rw [propertyClassOr, propertyClass]
    simp only [h]
  propertyDangling := fun key => by rw [propertyClassOr, propertyClass]
  propertyValue := fun {d} hd key => by
    cases d with
    | string | integer | number | boolean => rw [propertyClassOr, propertyClass]
    | _ => cases hd

end Unreached

/-! ## Lists -/

section Lists

variable {v : ValueObjects} {items : List TypeSet} {item : ItemType} {d target : TypeDef} {source : String}

/-- The class of a list can be made once its items have a type, whatever name they have it under. -/
theorem HasItems.exists_build (h : HasItems items item d target source) (className space : String) (traits : Traits) :
    ∃ wrapper events, v.build className space (.array traits items) = .ok (wrapper, events) := by
  have made : v.template (.array traits items) =
      .ok (ListOf.build v.filters v.typed (nameOr traits.name "items") item, []) := by
    unfold ValueObjects.template ListOf.ofArray
    simp only [itemType_ok.2 ⟨d, target, source, h⟩]
    rfl
  unfold ValueObjects.build
  rw [made]
  exact ⟨_, _, rfl⟩

theorem HasItems.resolves (h : HasItems items item d target source) {set : TypeSet} (hm : set ∈ items)
    {s s' : BuildState} {outcome : Except GenerateError { d : TypeDef // sizeOf d < sizeOf set }}
    (run : Runs (Build.resolveFirst set) s outcome s') : ∃ found, outcome = .ok found := by
  rw [h.only, List.mem_singleton] at hm
  subst hm
  exact ⟨_, ((runs_resolveFirst_iff h.standsFor).1 run).2⟩

end Lists

/-- A build never comes to a list without items behind the check of their type, nor to a reference behind the way to
what a set stands for: what is done there can be anything. A list whose items have a type can resolve them and has a
class itself, with a parameter in the comparison that the class changes; one whose items have none adds nothing. -/
theorem buildSet_checks (v : ValueObjects) (ambient : String) (into : ClassModel) (className : String) (set : TypeSet) :
    (∀ otherwise, Build.buildSetOr otherwise v ambient into className set = Build.buildSet v ambient into className set) ∧
      ∀ traits items, standsFor? set = some (.array traits items) →
        (∀ item, itemType (nameOr traits.name className) items = .ok item →
          (∀ itemSet ∈ items, ∀ s outcome s', Runs (Build.resolveFirst itemSet) s outcome s' →
            ∃ found, outcome = .ok found) ∧
          (∀ comparison, (equalsBy comparison).params ≠ []) ∧
          ∀ name space, ∃ wrapper events, v.build name space (.array traits items) = .ok (wrapper, events)) ∧
        ∀ e, itemType (nameOr traits.name className) items = .error e → ∀ s outcome s',
          Runs (Build.buildSet v ambient into className set) s outcome s' →
            outcome = .error e ∧ s'.collection = s.collection := by
  refine ⟨fun otherwise => (or_levels otherwise v ambient).ofSet_all set into className,
    fun traits items stands => ⟨fun item accepted => ?_, fun e rejected s outcome s' run => ?_⟩⟩
  · obtain ⟨d, target, source, accepted⟩ := itemType_ok.1 accepted
    exact ⟨fun itemSet hm s outcome s' run => accepted.resolves hm run, fun _ => List.cons_ne_nil _ _,
      fun name space => accepted.exists_build name space traits⟩
  · rw [runs_buildSet stands, Build.buildDefinition, runs_bind, rejected] at run
    simp only [Build.runs_fromExcept] at run
    obtain ⟨_, _, ⟨⟨⟩, -⟩, -⟩ | ⟨_, ⟨⟨⟩, rfl⟩, rfl⟩ := run
    exact ⟨rfl, rfl⟩

/-- Items that refer to an object have a type; no items, and items that are lists themselves, have none. -/
theorem buildSet_checks_rows :
    let v : ValueObjects := ⟨conventionalNames, true, ""⟩
    let row : TypeSet := ⟨.reference {} "#/definitions/row" (some ⟨.object { name := "row" } [], []⟩), []⟩
    let table : TypeSet := ⟨.array {} [⟨.array {} [row], []⟩], []⟩
    (∃ wrapper events, v.build "Rows" "App" (.array {} [row]) = .ok (wrapper, events)) ∧
      (∀ s outcome s', Runs (Build.buildSet v "App" (.entity "Rows" "App") "rows" ⟨.array {} [], []⟩) s outcome s' →
        outcome = .error (.ambiguousTypes "rows" 0) ∧ s'.collection = s.collection) ∧
      ∀ s outcome s', Runs (Build.buildSet v "App" (.entity "Table" "App") "table" table) s outcome s' →
        outcome = .error (.unsupported "array" "table" .itemKind) ∧ s'.collection = s.collection := by
  intro v row table
  have rows := (buildSet_checks v "App" (.entity "Rows" "App") "rows" ⟨.array {} [row], []⟩).2 {} [row] rfl
  have nothing := (buildSet_checks v "App" (.entity "Rows" "App") "rows" ⟨.array {} [], []⟩).2 {} [] rfl
  have nested := (buildSet_checks v "App" (.entity "Table" "App") "table" table).2 {} _ rfl
  exact ⟨(rows.1 ⟨"row", .array⟩ rfl).2.2 "Rows" "App", nothing.2 _ rfl, nested.2 _ rfl⟩

end SchemaClasses
