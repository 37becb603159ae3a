/-
One generation: from a schema document to the collection of its classes.
-/
import SchemaClasses.Class.Accessors
import SchemaClasses.Class.Graph
import SchemaClasses.Schema.Resolution
import SchemaClasses.Settings.Basic
import SchemaClasses.Source.Render

namespace SchemaClasses

/-- Settings together with a naming policy. -/
structure Generator where
  settings : Settings := {}
  filters : NameFilters := conventionalNames

namespace Generator

/-- How the generator makes value objects. -/
def valueObjects (g : Generator) : ValueObjects where
  filters := g.filters
  typed := g.settings.typed
  dateTimeFormat := g.settings.dateTimeFormat.getD Template.DateTime.defaultFormat

/-- The ambient namespace. -/
def ambient (g : Generator) : String := Text.trimBackslashes g.settings.space

/-- The classes of a type set under a root name, before anything is added to them. -/
def build (g : Generator) (set : TypeSet) (rootName : String) :
    Except GenerateError Unit × BuildState :=
  let root := ClassModel.entity (g.filters.className rootName) (extractNamespace g.ambient set.first)
  (Build.buildSet g.valueObjects g.ambient root root.name set).run.run {}

/-- The exceptions of the enums in a collection. -/
def exceptions (g : Generator) (c : Collection) : List ClassModel :=
  c.toList.filterMap fun model => (EnumException.ofClass g.filters g.settings.typed model).toOption

/-- A collection with the additions that the settings ask for, and the events of making them. -/
def finish (g : Generator) (c : Collection) : Collection × List Event :=
  let c := c.mapClasses (·.setTyped g.settings.typed)
  let c := if g.settings.getters then c.addGetters g.filters g.settings.typed else c
  let c := if g.settings.constants then c.addPropertyConstants g.filters else c
  -- last, so that exceptions gain neither getters nor constants
  if g.settings.exceptions then c.addAll (g.exceptions c) else (c, [])

/-- The classes of a schema, `rootName` being the name of the top-level type, and what was reported
on the way. -/
def generate (g : Generator) (schema : Json) (rootName : String) :
    Except GenerateError Collection × List Event :=
  match Schema.parse schema rootName with
  | (.error e, events) => (.error e, events)
  | (.ok set, events) =>
    match g.build set rootName with
    | (.error e, state) => (.error e, events ++ state.events)
    | (.ok (), state) =>
      let (finished, additions) := g.finish state.collection
      (.ok finished,
        events ++ state.events ++ additions ++ [.modelBuilt rootName finished.size])

/-! ## Several schemas -/

/-- Adds the classes of several schemas, each with its root name, to a collection. A failure comes
with the root name of the schema that it belongs to. -/
def generateInto (g : Generator) (c : Collection) :
    List (Json × String) → Except (String × GenerateError) Collection × List Event
  | [] => (.ok c, [])
  | (schema, rootName) :: rest =>
    match g.generate schema rootName with
    | (.error e, events) => (.error (rootName, e), events)
    | (.ok made, events) =>
      let (c, additions) := c.addAll made.toList
      let (result, further) := g.generateInto c rest
      (result, events ++ additions ++ further)

/-- The classes of several schemas. -/
def generateAll (g : Generator) (schemas : List (Json × String)) :
    Except (String × GenerateError) Collection × List Event :=
  g.generateInto {} schemas

/-- The layout of the source files. -/
def layout (g : Generator) : SourceLayout :=
  .ofNamespace g.settings.sourceRoot g.settings.space

/-- The source files of a collection. -/
def render (g : Generator) (existing : ClassModel → String → Except GenerateError (List Member))
    (c : Collection) : Except GenerateError Source.Files :=
  Source.render g.layout existing c

end Generator

end SchemaClasses
