/-
Two builds side by side: actions that end alike from states whose collections look the same, whatever has been
reported. What counts as looking the same is left open.
-/
import SchemaClasses.Proofs.Class.Walk

namespace SchemaClasses

/-! ## Outcomes -/

/-- Two outcomes: the same fault, or related values. -/
inductive Matches {α β : Type} (R : α → β → Prop) : Except GenerateError α → Except GenerateError β → Prop
  | error (e : GenerateError) : Matches R (.error e) (.error e)
  | ok {a : α} {b : β} : R a b → Matches R (.ok a) (.ok b)

theorem eq_of_matches {α : Type} {value value' : Except GenerateError α} (h : Matches Eq value value') : value = value' := by
  cases h with
  | error e => rfl
  | ok same => rw [same]

theorem Matches.toOption {α β : Type} {R : α → β → Prop} {value : Except GenerateError α}
    {value' : Except GenerateError β} (h : Matches R value value') : Option.Rel R value.toOption value'.toOption := by
  cases h with
  | error => exact .none
  | ok related => exact .some related

theorem matches_self {α : Type} (value : Except GenerateError α) : Matches Eq value value := by
  cases value with
  | error e => exact .error e
  | ok a => exact .ok rfl

/-! ## Actions -/

/-- From states whose collections look the same, two actions end in such states, with the same fault or with related
values. What they report may differ. -/
structure Alongside {ι α β : Type} (view : Collection → ι) (R : α → β → Prop) (action : Build α) (action' : Build β) :
    Prop where
  runs : ∀ {s s' t outcome}, view s.collection = view s'.collection → Runs action s outcome t →
    ∃ outcome' t', Runs action' s' outcome' t' ∧ Matches R outcome outcome' ∧ view t.collection = view t'.collection

variable {ι α β γ δ : Type} {view : Collection → ι} {R : α → β → Prop} {S : γ → δ → Prop}

theorem alongside_pure {a : α} {b : β} (h : R a b) : Alongside view R (pure a) (pure b) where
  runs := fun same run => by
    obtain ⟨rfl, rfl⟩ := runs_pure.1 run
    exact ⟨_, _, runs_pure.2 ⟨rfl, rfl⟩, .ok h, same⟩

theorem alongside_throw (e : GenerateError) : Alongside view R (throw e) (throw e) where
  runs := fun same run => by
    obtain ⟨rfl, rfl⟩ := runs_throw.1 run
    exact ⟨_, _, runs_throw.2 ⟨rfl, rfl⟩, .error e, same⟩

theorem Alongside.bind {action : Build α} {action' : Build β} {next : α → Build γ} {next' : β → Build δ}
    (first : Alongside view R action action') (second : ∀ a b, R a b → Alongside view S (next a) (next' b)) :
    Alongside view S (action >>= next) (action' >>= next') where
  runs := fun same run => by
    rcases runs_bind.1 run with ⟨a, middle, begun, further⟩ | ⟨e, failed, rfl⟩
    · obtain ⟨_, middle', begun', matched, same⟩ := first.runs same begun
      cases matched with
      | ok related =>
        obtain ⟨outcome', t', further', matched, same⟩ := (second _ _ related).runs same further
        exact ⟨outcome', t', runs_bind.2 (.inl ⟨_, _, begun', further'⟩), matched, same⟩
    · obtain ⟨_, t', failed', matched, same⟩ := first.runs same failed
      cases matched with
      | error e => exact ⟨_, t', runs_bind.2 (.inr ⟨e, failed', rfl⟩), .error e, same⟩

theorem alongside_fromExcept {value : Except GenerateError α} {value' : Except GenerateError β}
    (h : Matches R value value') : Alongside view R (Build.fromExcept value) (Build.fromExcept value') := by
  cases h with
  | error e => exact alongside_throw e
  | ok related => exact alongside_pure related

theorem alongside_report (events events' : List Event) : Alongside view Eq (Build.report events) (Build.report events') where
  runs := fun same run => by
    obtain ⟨rfl, rfl⟩ := Build.runs_report.1 run
    exact ⟨_, _, Build.runs_report.2 ⟨rfl, rfl⟩, .ok rfl, same⟩

/-- Alternatives that are left out are reported, and that is all. -/
theorem alongside_noteUnion (set set' : TypeSet) : Alongside view Eq (Build.noteUnion set) (Build.noteUnion set') := by
  have silent : ∀ set : TypeSet, ∃ events, Build.noteUnion set = Build.report events := by
    intro set
    unfold Build.noteUnion
    split
    · exact ⟨_, rfl⟩
    · refine ⟨[], ?_⟩
      unfold Build.report
      simp only [List.append_nil]
      rfl
  obtain ⟨events, he⟩ := silent set
  obtain ⟨events', he'⟩ := silent set'
  rw [he, he']
  exact alongside_report events events'

/-- Whatever giving entities the pair ends with, what has been done so far is kept. -/
theorem runs_rawArrays_outcome (fqcn : String) (s : BuildState) :
    Runs (Build.rawArrays fqcn) s (addRawArrays s.collection [fqcn]).1
      { s with collection := (addRawArrays s.collection [fqcn]).2 } := by
  unfold Build.rawArrays
  exact runs_bind.2 (.inl ⟨_, _, runs_get.2 ⟨rfl, rfl⟩, runs_bind.2
    (.inl ⟨_, _, runs_modify.2 ⟨rfl, rfl⟩, Build.runs_fromExcept.2 ⟨rfl, rfl⟩⟩)⟩)

end SchemaClasses
