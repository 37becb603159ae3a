/-
From a schema document to its type set. References are followed once each and remembered; one that is
met again while its target is being lowered stays unresolved, and so do references into other
documents and references to nothing.

What bounds the work is the list of reference texts that are not in progress: following a reference
takes its text off the list.
-/
import SchemaClasses.Event
import SchemaClasses.Schema.Lowering

namespace SchemaClasses.Schema

/-! ## State -/

/-- What is known in the middle of a document: where the references met so far lead, and what was
reported. -/
structure ResolutionState where
  resolved : List (String × Option TypeSet) := []
  events : List Event := []
  deriving Repr, Inhabited

/-- A step of a resolution. What was reported before a fault is kept. -/
abbrev Resolution := ExceptT GenerateError (StateM ResolutionState)

namespace Resolution

/-- Reports an event. -/
def report (event : Event) : Resolution Unit :=
  modify fun s => { s with events := s.events ++ [event] }

/-- Remembers where a reference leads. -/
def remember (target : String) (set : Option TypeSet) : Resolution Unit :=
  modify fun s => { s with resolved := (target, set) :: s.resolved }

end Resolution

open Resolution

/-! ## References -/

theorem length_filter_ne_lt {pending : List String} {target : String} (h : target ∈ pending) :
    (pending.filter (· != target)).length < pending.length := by
  apply List.length_filter_lt_length_iff_exists.mpr
  exact ⟨target, h, by simp⟩

/-- Where a reference in the document `root` leads. A text that is not pending is one whose target is
in progress. -/
def resolve (root : Json) (pending : List String) (target : String) : Resolution (Option TypeSet) :=
  match localPointer? target with
  | none => do
    report (.foreignReference target)
    pure none
  | some pointer => do
    match (← get).resolved.lookup target with
    | some known => pure known
    | none =>
      -- the target is lowered with its own text in progress
      if h : target ∈ pending then
        match root.select? pointer with
        | none => do
          remember target none
          pure none
        | some node => do
          have := length_filter_ne_lt h
          let set ← (lowerNode node pointer (pointerName pointer)).runWith
            (resolve root (pending.filter (· != target)))
          remember target (some set)
          pure (some set)
      else do
        report (.recursiveReference target)
        pure none
termination_by pending.length

/-! ## Whole documents -/

/-- The type set of a document, with the events of its making. The top level is required. -/
def parse (document : Json) (name : String) : Except GenerateError TypeSet × List Event :=
  let (outcome, state) := ((lowerNode document "" name).runWith
    (resolve document (refTexts document))).run.run {}
  (outcome.map (·.map (TypeDef.setRequired true)), state.events)

end SchemaClasses.Schema
