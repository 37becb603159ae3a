/-
Three views of a lowering that do not carry it out: the values it can yield when each reference is
answered as a relation allows, the references it asks for and the faults it can end with, and the
reference texts it meets when none is followed. The lowering of a node asks for the same references
and ends in the same way whatever the answers are.
-/
import SchemaClasses.Schema.Lowering
import Mathlib.Data.List.Forall2

namespace SchemaClasses.Schema

/-! ## Views -/

namespace Lowering

variable {α β : Type}

/-- The lowering ends with the value `a` if each reference is answered as `Q` allows. -/
def Yields (Q : String → Option TypeSet → Prop) : Lowering α → α → Prop
  | done value, a => a = value
  | fault _, _ => False
  | follow target next, a => ∃ answer, Q target answer ∧ Yields Q (next answer) a

/-- Whatever the answers are, the lowering asks only for references in `T` and ends with no fault
outside `E`. -/
def Keeps (T : String → Prop) (E : GenerateError → Prop) : Lowering α → Prop
  | done _ => True
  | fault error => E error
  | follow target next => T target ∧ ∀ answer, Keeps T E (next answer)

/-- The texts of the references that the lowering meets when none is followed. -/
def targets : Lowering α → List String
  | done _ => []
  | fault _ => []
  | follow target next => target :: targets (next none)

/-- Two lowerings ask for the same references, all of them in `T`, and end in the same way, with no
fault outside `E`, whatever the answers to either are. -/
def Alike (T : String → Prop) (E : GenerateError → Prop) : Lowering α → Lowering β → Prop
  | done _, done _ => True
  | fault e, fault e' => e = e' ∧ E e
  | follow target next, follow target' next' =>
    target = target' ∧ T target ∧ ∀ answer answer', Alike T E (next answer) (next' answer')
  | _, _ => False

/-- The lowering asks for the same references and ends in the same way whatever the answers are; the
references are in `T` and the fault, if there is one, in `E`. -/
def Steady (T : String → Prop) (E : GenerateError → Prop) (s : Lowering α) : Prop := Alike T E s s

variable {T T' : String → Prop} {E E' : GenerateError → Prop} {Q Q' : String → Option TypeSet → Prop}

/-! ## The views of a sequence -/

theorem bind_eq (s : Lowering α) (f : α → Lowering β) : (s >>= f) = s.andThen f := rfl

theorem pure_eq (a : α) : (pure a : Lowering α) = done a := rfl

theorem yields_andThen {f : α → Lowering β} {b : β} :
    ∀ {s : Lowering α}, Yields Q (s.andThen f) b ↔ ∃ a, Yields Q s a ∧ Yields Q (f a) b
  | done value => by simp [andThen, Yields]
  | fault _ => by simp [andThen, Yields]
  | follow target next => by
    simp only [andThen, Yields, yields_andThen]
    constructor
    · rintro ⟨answer, hq, a, ha, hb⟩
      exact ⟨a, ⟨answer, hq, ha⟩, hb⟩
    · rintro ⟨a, ⟨answer, hq, ha⟩, hb⟩
      exact ⟨answer, hq, a, ha, hb⟩

theorem yields_keyword {pointer : String}
    {value : Except SchemaFault α} {a : α} : Yields Q (keyword pointer value) a ↔ value = .ok a := by
  cases value <;> simp [keyword, Yields, eq_comm]

theorem Yields.mono (h : ∀ t r, Q t r → Q' t r) :
    ∀ {s : Lowering α} {a : α}, Yields Q s a → Yields Q' s a
  | done _, _, hs => hs
  | follow _ _, _, ⟨answer, hq, hs⟩ => ⟨answer, h _ _ hq, hs.mono h⟩

theorem Keeps.mono (hT : ∀ t, T t → T' t)
    (hE : ∀ e, E e → E' e) : ∀ {s : Lowering α}, Keeps T E s → Keeps T' E' s
  | done _, _ => trivial
  | fault _, hs => hE _ hs
  | follow _ _, ⟨ht, hs⟩ => ⟨hT _ ht, fun answer => (hs answer).mono hT hE⟩

theorem Keeps.and : ∀ {s : Lowering α}, Keeps T E s → Keeps T' E' s →
    Keeps (fun t => T t ∧ T' t) (fun e => E e ∧ E' e) s
  | done _, _, _ => trivial
  | fault _, hs, hs' => ⟨hs, hs'⟩
  | follow _ _, ⟨ht, hs⟩, ⟨ht', hs'⟩ => ⟨⟨ht, ht'⟩, fun answer => (hs answer).and (hs' answer)⟩

theorem Yields.and_keeps : ∀ {s : Lowering α} {a : α}, Yields Q s a → Keeps T E s →
    Yields (fun t answer => Q t answer ∧ T t) s a
  | done _, _, hs, _ => hs
  | follow _ _, _, ⟨answer, hq, hs⟩, ⟨ht, hk⟩ => ⟨answer, ⟨hq, ht⟩, hs.and_keeps (hk answer)⟩

/-- A lowering without faults has a value. -/
theorem Keeps.exists_yields : ∀ {s : Lowering α}, Keeps T (fun _ => False) s →
    ∃ a, Yields (fun t _ => T t) s a
  | done a, _ => ⟨a, rfl⟩
  | follow target next, ⟨ht, hs⟩ => by
    obtain ⟨a, ha⟩ := (hs none).exists_yields
    exact ⟨a, none, ht, ha⟩

theorem Keeps.mem_targets :
    ∀ {s : Lowering α}, Keeps T E s → ∀ t ∈ s.targets, T t
  | follow target next, ⟨ht, hs⟩, t, hmem => by
    rw [targets, List.mem_cons] at hmem
    rcases hmem with rfl | hmem
    · exact ht
    · exact (hs none).mem_targets t hmem

theorem alike_done (a : α) (b : β) : Alike T E (done a) (done b) := trivial

theorem Alike.andThen {α' β' : Type} {f : α → Lowering β} {f' : α' → Lowering β'}
    (hf : ∀ a a', Alike T E (f a) (f' a')) :
    ∀ {s : Lowering α} {s' : Lowering α'}, Alike T E s s' → Alike T E (s.andThen f) (s'.andThen f')
  | done a, done a', _ => hf a a'
  | fault _, fault _, hs => hs
  | follow _ _, follow _ _, ⟨rfl, ht, hs⟩ =>
    ⟨rfl, ht, fun answer answer' => (hs answer answer').andThen hf⟩

theorem steady_keyword {pointer : String} {value : Except SchemaFault α}
    (h : ∀ reason, value = .error reason → E (.invalidSchema pointer reason)) :
    Steady T E (keyword pointer value) := by
  cases value with
  | ok _ => trivial
  | error reason => exact ⟨rfl, h reason rfl⟩

theorem Steady.andThen {s : Lowering α} {f : α → Lowering β} (hs : Steady T E s)
    (hf : ∀ a a', Alike T E (f a) (f a')) : Steady T E (s.andThen f) :=
  Alike.andThen hf hs

theorem Alike.keeps : ∀ {s : Lowering α} {s' : Lowering β}, Alike T E s s' → Keeps T E s'
  | done _, done _, _ => trivial
  | fault _, fault _, ⟨rfl, hs⟩ => hs
  | follow _ _, follow _ _, ⟨rfl, ht, hs⟩ => ⟨ht, fun answer' => (hs none answer').keeps⟩

/-- A lowering that is alike to `s` asks only for what `s` meets when no reference is followed. -/
theorem Alike.keeps_targets : ∀ {s : Lowering α} {s' : Lowering β},
    Alike T E s s' → Keeps (· ∈ s.targets) E s'
  | done _, done _, _ => trivial
  | fault _, fault _, ⟨rfl, hs⟩ => hs
  | follow _ _, follow _ _, ⟨rfl, _, hs⟩ =>
    ⟨List.mem_cons_self .., fun answer' => (hs none answer').keeps_targets.mono
      (fun _ h => List.mem_cons_of_mem _ h) fun _ h => h⟩

/-- If a lowering has a value for some answers, one that is alike to it has no fault, whatever the
answers are, and asks only for what was answered. -/
theorem Alike.clear : ∀ {s : Lowering α} {s' : Lowering β} {a : α}, Alike T E s s' → Yields Q s a →
    Keeps (fun t => ∃ answer, Q t answer) (fun _ => False) s'
  | done _, done _, _, _, _ => trivial
  | follow _ _, follow _ _, _, ⟨rfl, _, hs⟩, ⟨answer, hq, ha⟩ =>
    ⟨⟨answer, hq⟩, fun answer' => (hs answer answer').clear ha⟩

end Lowering

end SchemaClasses.Schema
