/-
How the references of a document are resolved. `Carries` says what carrying out a lowering does at
each of its references, and everything about a resolution is shown by induction on it: the table of
known references justifies itself entry by entry, and a reference is cut short on a cycle only.
-/
import SchemaClasses.Proofs.Run
import SchemaClasses.Proofs.Schema.References
import SchemaClasses.Schema.Resolution

namespace SchemaClasses.Schema

open Lowering

/-! ## Carrying out a lowering -/

/-- Carrying out a lowering from one state ends with an outcome in another, the targets of the texts
that are not pending being in progress. -/
inductive Carries (root : Json) : List String → Lowering TypeSet → ResolutionState →
    Except GenerateError TypeSet → ResolutionState → Prop
  | done {pending : List String} {st : ResolutionState} {set : TypeSet} :
      Carries root pending (.done set) st (.ok set) st
  | fault {pending : List String} {st : ResolutionState} {e : GenerateError} :
      Carries root pending (.fault e) st (.error e) st
  | foreign {pending : List String} {target : String} {next : Option TypeSet → Lowering TypeSet}
      {st st' : ResolutionState} {outcome : Except GenerateError TypeSet} :
      localPointer? target = none →
      Carries root pending (next none) { st with events := st.events ++ [.foreignReference target] }
        outcome st' →
      Carries root pending (.follow target next) st outcome st'
  | known {pending : List String} {target : String} {next : Option TypeSet → Lowering TypeSet}
      {st st' : ResolutionState} {outcome : Except GenerateError TypeSet} {answer : Option TypeSet} :
      localPointer? target ≠ none → st.resolved.lookup target = some answer →
      Carries root pending (next answer) st outcome st' →
      Carries root pending (.follow target next) st outcome st'
  | inProgress {pending : List String} {target : String} {next : Option TypeSet → Lowering TypeSet}
      {st st' : ResolutionState} {outcome : Except GenerateError TypeSet} :
      localPointer? target ≠ none → st.resolved.lookup target = none → target ∉ pending →
      Carries root pending (next none) { st with events := st.events ++ [.recursiveReference target] }
        outcome st' →
      Carries root pending (.follow target next) st outcome st'
  | missing {pending : List String} {target : String} {next : Option TypeSet → Lowering TypeSet}
      {st st' : ResolutionState} {outcome : Except GenerateError TypeSet} :
      localPointer? target ≠ none → st.resolved.lookup target = none → target ∈ pending →
      targetLowering? root target = none →
      Carries root pending (next none) { st with resolved := (target, none) :: st.resolved }
        outcome st' →
      Carries root pending (.follow target next) st outcome st'
  | failed {pending : List String} {target : String} {next : Option TypeSet → Lowering TypeSet}
      {st st' : ResolutionState} {s : Lowering TypeSet} {e : GenerateError} :
      st.resolved.lookup target = none → target ∈ pending → targetLowering? root target = some s →
      Carries root (pending.filter (· != target)) s st (.error e) st' →
      Carries root pending (.follow target next) st (.error e) st'
  | found {pending : List String} {target : String} {next : Option TypeSet → Lowering TypeSet}
      {st middle st' : ResolutionState} {outcome : Except GenerateError TypeSet} {s : Lowering TypeSet}
      {set : TypeSet} :
      st.resolved.lookup target = none → target ∈ pending → targetLowering? root target = some s →
      Carries root (pending.filter (· != target)) s st (.ok set) middle →
      Carries root pending (next (some set))
        { middle with resolved := (target, some set) :: middle.resolved } outcome st' →
      Carries root pending (.follow target next) st outcome st'

@[simp] theorem runs_report {event : Event} {st st' : ResolutionState} {done : Except GenerateError Unit} :
    Runs (Resolution.report event) st done st' ↔
      done = .ok () ∧ st' = { st with events := st.events ++ [event] } := runs_modify

@[simp] theorem runs_remember {target : String} {set : Option TypeSet} {st st' : ResolutionState}
    {done : Except GenerateError Unit} : Runs (Resolution.remember target set) st done st' ↔
      done = .ok () ∧ st' = { st with resolved := (target, set) :: st.resolved } := runs_modify

theorem carries_of_runs {root : Json} (pending : List String) (s : Lowering TypeSet)
    {st st' : ResolutionState} {outcome : Except GenerateError TypeSet}
    (h : Runs (s.runWith (resolve root pending)) st outcome st') :
    Carries root pending s st outcome st' := by
  -- the induction is for what follows a reference; what the reference leads to is no part of the
  -- lowering, and there the recursion goes by the texts that are not yet in progress
  induction s generalizing st st' outcome with
  | done set =>
    obtain ⟨rfl, rfl⟩ := runs_pure.1 h
    exact .done
  | fault e =>
    obtain ⟨rfl, rfl⟩ := runs_throw.1 h
    exact .fault
  | follow target next ih =>
    rw [runWith, resolve] at h
    cases hp : localPointer? target with
    | none =>
      simp [hp] at h
      exact .foreign hp (ih _ h)
    | some pointer =>
      have inside : localPointer? target ≠ none := by
        rw [hp]
        exact Option.some_ne_none _
      simp only [hp] at h
      cases hl : st.resolved.lookup target with
      | some answer =>
        simp [hl] at h
        exact .known inside hl (ih _ h)
      | none =>
        by_cases hm : target ∈ pending
        · cases hs : root.select? pointer with
          | none =>
            simp [hl, hm, hs] at h
            exact .missing inside hl hm (targetLowering?_eq_none.2 (.inr ⟨pointer, hp, hs⟩)) (ih _ h)
          | some node =>
            have found := targetLowering?_eq_some.2 ⟨pointer, node, hp, hs, rfl⟩
            have smaller := length_filter_ne_lt hm
            simp [hl, hm, hs] at h
            rcases h with ⟨set, middle, inner, h⟩ | ⟨e, inner, rfl⟩
            · exact .found hl hm found (carries_of_runs _ _ inner) (ih _ h)
            · exact .failed hl hm found (carries_of_runs _ _ inner)
        · simp [hl, hm] at h
          exact .inProgress inside hl hm (ih _ h)
termination_by pending.length

/-- A fault of a resolution is one of a lowering on the way. -/
theorem Carries.fault_mem {root : Json} {T : String → Prop} {E : GenerateError → Prop}
    (closed : ∀ t, T t → ∀ s, targetLowering? root t = some s → Keeps T E s) {pending : List String}
    {s : Lowering TypeSet} {st st' : ResolutionState} {outcome : Except GenerateError TypeSet}
    (h : Carries root pending s st outcome st') (hs : Keeps T E s) {e : GenerateError}
    (ho : outcome = .error e) : E e := by
  induction h with
  | done => cases ho
  | fault =>
    cases ho
    exact hs
  | foreign _ _ ih | known _ _ _ ih | inProgress _ _ _ _ ih | missing _ _ _ _ _ ih => exact ih (hs.2 _) ho
  | failed _ _ found _ ih => exact ih (closed _ hs.1 _ found) ho
  | found _ _ _ _ _ _ ih => exact ih (hs.2 _) ho

end SchemaClasses.Schema
