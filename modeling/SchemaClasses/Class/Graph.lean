/-
From the typed model of a schema to classes. Objects become entities with one typed property for
each property of the schema; scalars, enums and arrays become value objects; a reference builds what
it leads to, under that name. Only the first of several alternatives counts, and a reference may not
lead to another reference.
-/
import SchemaClasses.Class.RawArray
import SchemaClasses.ValueObject

namespace SchemaClasses

/-! ## Names and hints -/

/-- The namespace of a definition: the ambient one and the definition's own segments. -/
def extractNamespace (ambient : String) (definition : TypeDef) : String :=
  match definition.customNamespace? with
  | some segments =>
    Text.trimBackslashes (Text.trimBackslashes ambient ++ "\\" ++ Text.trimBackslashes segments)
  | none => Text.trimBackslashes ambient

/-- The hint of a property whose class is `className`: a question mark stands before it unless the
property is required and not nullable. -/
def propertyTypeHint (className : String) (definition : TypeDef) : String :=
  if !definition.isRequired || definition.isNullable then "?" ++ className else className

/-! ## Building -/

/-- The classes built so far and what was reported. -/
structure BuildState where
  collection : Collection := {}
  events : List Event := []
  deriving Repr, Inhabited

/-- A step of building. What was built before a fault is kept. -/
abbrev Build := ExceptT GenerateError (StateM BuildState)

namespace Build

/-- Reports events. -/
def report (events : List Event) : Build Unit :=
  modify fun s => { s with events := s.events ++ events }

/-- Adds a class to the collection. -/
def add (model : ClassModel) : Build Unit :=
  modify fun s => ⟨s.collection.add model, s.events ++ s.collection.addEvents model⟩

/-- The value of a computation that may fail. -/
def fromExcept {α : Type} (value : Except GenerateError α) : Build α :=
  match value with
  | .ok a => pure a
  | .error e => throw e

/-- The class of a value object, with its events reported. -/
def valueObject (v : ValueObjects) (className space : String) (definition : TypeDef) :
    Build ClassModel := do
  let (model, events) ← fromExcept (v.build className space definition)
  report events
  pure model

/-- Gives the raw array form to an entity and to all that its properties lead to. -/
def rawArrays (fqcn : String) : Build Unit := do
  let (outcome, collection) := addRawArrays (← get).collection [fqcn]
  modify fun s => { s with collection := collection }
  fromExcept outcome

/-- Reports that alternatives behind the first one are left out. -/
def noteUnion (set : TypeSet) : Build Unit :=
  if 1 < set.count then report [.unionNarrowed set.first.name set.count] else pure ()

/-- The first alternative of the set that a reference leads to, which is no reference itself. It is a
part of the set. -/
def throughReference : (set : TypeSet) → Build { d : TypeDef // sizeOf d < sizeOf set }
  | ⟨.reference traits pointer resolved, others⟩ => do
    noteUnion ⟨.reference traits pointer resolved, others⟩
    throw (.unsupported "reference" pointer .longReferenceChain)
  | ⟨definition, others⟩ => do
    noteUnion ⟨definition, others⟩
    pure ⟨definition, by simp only [Alternatives.mk.sizeOf_spec]; omega⟩

/-- The definition that a set stands for: its first alternative, or the first one of what that
refers to. It is a part of the set. -/
def resolveFirst : (set : TypeSet) → Build { d : TypeDef // sizeOf d < sizeOf set }
  | ⟨.reference traits pointer none, others⟩ => do
    noteUnion ⟨.reference traits pointer none, others⟩
    throw (.unresolvedReference pointer)
  | ⟨.reference traits pointer (some set), others⟩ => do
    noteUnion ⟨.reference traits pointer (some set), others⟩
    let ⟨definition, smaller⟩ ← throughReference set
    pure ⟨definition, by
      simp only [Alternatives.mk.sizeOf_spec, TypeDef.reference.sizeOf_spec,
        Option.some.sizeOf_spec]
      omega⟩
  | ⟨definition, others⟩ => do
    noteUnion ⟨definition, others⟩
    pure ⟨definition, by simp only [Alternatives.mk.sizeOf_spec]; omega⟩

theorem sizeOf_first_lt (set : TypeSet) : sizeOf set.first < sizeOf set := by
  cases set
  simp only [Alternatives.mk.sizeOf_spec]
  omega

/-- An entity that takes the raw array form from an earlier class of its name. -/
def keepRawArray (previous : Option ClassModel) (model : ClassModel) : ClassModel :=
  match previous with
  | none => model
  | some earlier =>
    model.addMethods (["fromArray", "toArray"].filterMap earlier.methods.at?)

/-- Adds an entity to the collection. -/
def addEntity (model : ClassModel) : Build Unit := do
  let model := keepRawArray ((← get).collection.get? model.fqcn) model
  report [.entityBuilt model.fqcn model.properties.length]
  add model

mutual

/-- Builds the classes of a set. An object fills the entity `into`; all else is named after
`className`. -/
def buildSet (v : ValueObjects) (ambient : String) (into : ClassModel) (className : String)
    (set : TypeSet) : Build Unit := do
  let ⟨definition, _⟩ ← resolveFirst set
  buildDefinition v ambient into className definition
termination_by (sizeOf set, 0)

/-- Builds the classes of a definition that is no reference. -/
def buildDefinition (v : ValueObjects) (ambient : String) (into : ClassModel) (className : String)
    (definition : TypeDef) : Build Unit :=
  match definition with
  | .object _ properties => do
    let model ← buildProperties v ambient properties into
    addEntity model
  | .array traits items => do
    let item ← fromExcept (Template.itemType (nameOr traits.name className) items)
    match items with
    | [] => pure ()
    | itemSet :: _ =>
      let ⟨itemDefinition, _⟩ ← resolveFirst itemSet
      let itemSpace := extractNamespace ambient itemDefinition
      let itemClass := v.filters.className item.sourceName
      buildSet v ambient (.entity itemClass itemSpace) item.sourceName itemSet
      -- the wrapper goes through `fromArray` and `toArray` of its items
      if item.isObject then rawArrays (qualify itemSpace itemClass)
      let wrapper ← valueObject v (v.filters.className className)
        (extractNamespace ambient definition) definition
      add (wrapper.addImport (qualify itemSpace itemClass))
  | .reference _ pointer _ => throw (.unresolvedReference pointer)
  | .string .. | .integer _ | .number _ | .boolean _ => do
    let model ← valueObject v (v.filters.className className)
      (extractNamespace ambient definition) definition
    add model
termination_by (sizeOf definition, 0)

/-- Builds the classes of properties and gives the properties to an entity. -/
def buildProperties (v : ValueObjects) (ambient : String) :
    List (String × TypeSet) → ClassModel → Build ClassModel
  | [], into => pure into
  | (key, set) :: rest, into => do
    noteUnion set
    have : sizeOf set.first < sizeOf set := sizeOf_first_lt set
    let fqcn ← propertyClass v ambient key set.first
    let property : Property := {
      name := v.filters.propertyName key
      sourceName := some key
      typeHint := propertyTypeHint (shortName fqcn) set.first }
    buildProperties v ambient rest ((into.addImport fqcn).addProperty property)
termination_by properties => (sizeOf properties, 0)

/-- Builds the class of a property and says its fully-qualified name. -/
def propertyClass (v : ValueObjects) (ambient key : String) (definition : TypeDef) :
    Build String :=
  let className := v.filters.className key
  let space := extractNamespace ambient definition
  match definition with
  | .object traits properties => do
    buildDefinition v ambient (.entity className space) key (.object traits properties)
    pure (qualify space className)
  | .array traits items => do
    buildDefinition v ambient (.entity className space) key (.array traits items)
    pure (qualify space className)
  | .reference _ pointer none => throw (.unresolvedReference pointer)
  | .reference _ pointer (some resolved) => do
    noteUnion resolved
    -- the name and the namespace of the first alternative as it stands, be it a reference itself
    let sourceName := nameOr resolved.first.name (targetName pointer)
    let className := v.filters.className sourceName
    let space := extractNamespace ambient resolved.first
    buildSet v ambient (.entity className space) sourceName resolved
    pure (qualify space className)
  | .string .. | .integer _ | .number _ | .boolean _ => do
    let model ← valueObject v className space definition
    add model
    pure model.fqcn
termination_by (sizeOf definition, 1)

end

end Build

end SchemaClasses
