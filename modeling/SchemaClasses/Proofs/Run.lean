/-
Runs of actions that keep a state and may fail, taken apart at each step.
-/
import SchemaClasses.Error
import Mathlib.Tactic.Common

namespace SchemaClasses

theorem except_map_eq_ok {ε α β : Type} {value : Except ε α} {f : α → β} {b : β} :
    value.map f = .ok b ↔ ∃ a, value = .ok a ∧ f a = b := by
  cases value <;> simp [Except.map]

theorem except_bind_eq_ok {ε α β : Type} {value : Except ε α} {f : α → Except ε β} {b : β} :
    value >>= f = .ok b ↔ ∃ a, value = .ok a ∧ f a = .ok b := by
  cases value <;> simp [Bind.bind, Except.bind]

theorem except_mapError_ok {ε ε' α : Type} {f : ε → ε'} {a : α} : (Except.ok a : Except ε α).mapError f = .ok a := rfl

theorem except_mapError_eq_ok {ε ε' α : Type} {value : Except ε α} {f : ε → ε'} {a : α} :
    value.mapError f = .ok a ↔ value = .ok a := by
  cases value <;> simp [Except.mapError]

theorem eq_ok_of_toOption {ε α : Type} {value : Except ε α} {a : α} (h : value.toOption = some a) :
    value = .ok a := by
  cases value <;> cases h
  rfl

/-- An action with a state and faults. -/
abbrev Action (σ : Type) := ExceptT GenerateError (StateM σ)

/-- An action that begins in one state ends with an outcome in another. -/
def Runs {σ α : Type} (m : Action σ α) (s : σ) (outcome : Except GenerateError α) (s' : σ) : Prop :=
  m.run.run s = (outcome, s')

section Runs

variable {σ α β : Type} {s s' : σ} {e : GenerateError} {outcome : Except GenerateError α}

@[simp] theorem runs_pure {a : α} : Runs (pure a : Action σ α) s outcome s' ↔ outcome = .ok a ∧ s' = s := by
  show (Except.ok a, s) = (outcome, s') ↔ _
  rw [Prod.mk.injEq, eq_comm, @eq_comm _ s]

@[simp] theorem runs_throw : Runs (throw e : Action σ α) s outcome s' ↔ outcome = .error e ∧ s' = s := by
  show (Except.error e, s) = (outcome, s') ↔ _
  rw [Prod.mk.injEq, eq_comm, @eq_comm _ s]

@[simp] theorem runs_get {found : Except GenerateError σ} :
    Runs (get : Action σ σ) s found s' ↔ found = .ok s ∧ s' = s := by
  show (Except.ok s, s) = (found, s') ↔ _
  rw [Prod.mk.injEq, eq_comm, @eq_comm _ s]

@[simp] theorem runs_modify {f : σ → σ} {done : Except GenerateError Unit} :
    Runs (modify f : Action σ Unit) s done s' ↔ done = .ok () ∧ s' = f s := by
  show (Except.ok (), f s) = (done, s') ↔ _
  rw [Prod.mk.injEq, eq_comm, @eq_comm _ (f s)]

/-- A sequence ends where its first action fails, else where its second one ends. -/
@[simp] theorem runs_bind {m : Action σ β} {f : β → Action σ α} : Runs (m >>= f) s outcome s' ↔
    (∃ b middle, Runs m s (.ok b) middle ∧ Runs (f b) middle outcome s') ∨
      (∃ e, Runs m s (.error e) s' ∧ outcome = .error e) := by
  -- the bind of the state below, for the pair that the first action ends with
  have unfolded : (m >>= f).run.run s = match m.run.run s with
      | (.ok b, middle) => (f b).run.run middle
      | (.error e, middle) => (.error e, middle) := by
    show (ExceptT.bindCont f (m.run.run s).1) (m.run.run s).2 = _
    rcases m.run.run s with ⟨_ | _, _⟩ <;> rfl
  unfold Runs
  rw [unfolded]
  rcases m.run.run s with ⟨_ | b, middle⟩
  · constructor
    · rintro ⟨⟩
      exact .inr ⟨_, rfl, rfl⟩
    · rintro (⟨_, _, ⟨⟩, _⟩ | ⟨_, ⟨⟩, rfl⟩)
      rfl
  · constructor
    · exact fun h => .inl ⟨b, middle, rfl, h⟩
    · rintro (⟨_, _, ⟨⟩, h⟩ | ⟨_, ⟨⟩, _⟩)
      exact h

@[simp] theorem runs_map {m : Action σ β} {f : β → α} : Runs (f <$> m) s outcome s' ↔
    (∃ b, Runs m s (.ok b) s' ∧ outcome = .ok (f b)) ∨
      (∃ e, Runs m s (.error e) s' ∧ outcome = .error e) := by
  rw [map_eq_pure_bind, runs_bind]
  simp only [runs_pure]
  constructor
  · rintro (⟨b, _, h, rfl, rfl⟩ | h)
    · exact .inl ⟨b, h, rfl⟩
    · exact .inr h
  · rintro (⟨b, h, rfl⟩ | h)
    · exact .inl ⟨b, _, h, rfl, rfl⟩
    · exact .inr h

theorem runs_bind_ok {m : Action σ β} {f : β → Action σ α} {a : α} : Runs (m >>= f) s (.ok a) s' ↔
    ∃ b middle, Runs m s (.ok b) middle ∧ Runs (f b) middle (.ok a) s' := by
  simp [runs_bind]

theorem runs_total (m : Action σ α) (s : σ) : (∃ a s', Runs m s (.ok a) s') ∨ ∃ e s', Runs m s (.error e) s' := by
  rcases hm : m.run.run s with ⟨e | a, s'⟩
  · exact .inr ⟨e, s', hm⟩
  · exact .inl ⟨a, s', hm⟩

theorem action_ext {m m' : Action σ α} (h : ∀ s outcome s', Runs m s outcome s' ↔ Runs m' s outcome s') : m = m' :=
  funext fun s => ((h s _ _).1 rfl).symm

/-- What follows an action matters only for the values that it ends with. -/
theorem bind_congr_of_runs {m : Action σ β} {next next' : β → Action σ α}
    (h : ∀ s b s', Runs m s (.ok b) s' → next b = next' b) : m >>= next = m >>= next' := by
  refine action_ext fun s outcome s' => ?_
  simp only [runs_bind]
  refine or_congr_left ⟨?_, ?_⟩
  · rintro ⟨b, middle, first, rest⟩
    exact ⟨b, middle, first, h _ _ _ first ▸ rest⟩
  · rintro ⟨b, middle, first, rest⟩
    exact ⟨b, middle, first, (h _ _ _ first).symm ▸ rest⟩

end Runs

end SchemaClasses
