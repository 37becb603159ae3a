/-
The classes of a generation, keyed by their fully-qualified names in the order in which these first
came.
-/
import SchemaClasses.Class.Basic
import SchemaClasses.Event

namespace SchemaClasses

/-- Classes by fully-qualified name. -/
structure Collection where
  classes : Entries ClassModel := []
  deriving Repr, Inhabited

namespace Collection

/-- The class under a fully-qualified name. -/
def get? (c : Collection) (fqcn : String) : Option ClassModel := c.classes.at? fqcn

def contains (c : Collection) (fqcn : String) : Bool := c.classes.hasName fqcn

def size (c : Collection) : Nat := c.classes.length

def names (c : Collection) : List String := c.classes.names

/-- The classes in order. -/
def toList (c : Collection) : List ClassModel := c.classes.values

/-- Whether there is a class of the same name that has another shape. -/
def conflicts (c : Collection) (model : ClassModel) : Bool :=
  match c.get? model.fqcn with
  | some existing => !existing.sameShape model
  | none => false

/-- Adds a class, in the place of an earlier one of the same name. -/
def add (c : Collection) (model : ClassModel) : Collection := ⟨c.classes.put model.fqcn model⟩

/-- What adding a class reports: rebuilding the same class is silent. -/
def addEvents (c : Collection) (model : ClassModel) : List Event :=
  if c.conflicts model then [.classReplaced model.fqcn] else []

/-- Adds classes one by one, with the events of that. -/
def addAll (c : Collection) : List ClassModel → Collection × List Event
  | [] => (c, [])
  | model :: rest =>
    let (collection, events) := (c.add model).addAll rest
    (collection, c.addEvents model ++ events)

/-- Changes every class, keeping the keys. -/
def mapClasses (change : ClassModel → ClassModel) (c : Collection) : Collection :=
  ⟨c.classes.map fun entry => (entry.1, change entry.2)⟩

/-- Changes the class under a fully-qualified name, keeping the key. -/
def adjust (c : Collection) (fqcn : String) (change : ClassModel → ClassModel) : Collection :=
  ⟨c.classes.adjust fqcn change⟩

end Collection

end SchemaClasses
