/-
A resolution moment by moment. The texts in progress are different texts of the document, one for each reference
whose target is being lowered; opening another one takes its text from those that are left, which is why every
way through the moments ends, and it ends with what `parse` gives.
-/
import SchemaClasses.Proofs.Schema.Table
import Mathlib.Data.Finset.Dedup
import Mathlib.Data.Finset.Card

namespace SchemaClasses.Schema

open Lowering

/-! ## Moments -/

/-- A reference whose target is being lowered, and how the lowering that met it goes on. -/
structure OpenReference where
  target : String
  next : Option TypeSet → Lowering TypeSet

/-- What is being lowered, the open references around it with the innermost first, the texts in progress and
what is known. -/
structure Moment where
  current : Lowering TypeSet
  around : List OpenReference
  inProgress : List String
  state : ResolutionState

namespace Moment

/-- The first moment of a document. -/
def start (document : Json) (name : String) : Moment := ⟨lowerNode document "" name, [], [], {}⟩

/-- The moment after a reference was met: it is answered at once, or its target is lowered first. -/
def meet (root : Json) (target : String) (next : Option TypeSet → Lowering TypeSet) (around : List OpenReference)
    (inProgress : List String) (state : ResolutionState) : Moment :=
  match localPointer? target with
  | none => ⟨next none, around, inProgress, { state with events := state.events ++ [.foreignReference target] }⟩
  | some pointer =>
    match state.resolved.lookup target with
    | some known => ⟨next known, around, inProgress, state⟩
    | none =>
      if target ∈ inProgress then
        ⟨next none, around, inProgress, { state with events := state.events ++ [.recursiveReference target] }⟩
      else
        match root.select? pointer with
        | none => ⟨next none, around, inProgress, { state with resolved := (target, none) :: state.resolved }⟩
        | some node =>
          ⟨lowerNode node pointer (pointerName pointer), ⟨target, next⟩ :: around, target :: inProgress, state⟩

/-- The next moment. An open reference is closed when its target is lowered or has a fault. -/
def step? (root : Json) : Moment → Option Moment
  | ⟨follow target next, around, inProgress, state⟩ => some (meet root target next around inProgress state)
  | ⟨done set, ⟨target, next⟩ :: around, inProgress, state⟩ =>
    some ⟨next (some set), around, inProgress.filter (· != target),
      { state with resolved := (target, some set) :: state.resolved }⟩
  | ⟨fault e, ⟨target, _⟩ :: around, inProgress, state⟩ =>
    some ⟨fault e, around, inProgress.filter (· != target), state⟩
  | ⟨done _, [], _, _⟩ => none
  | ⟨fault _, [], _, _⟩ => none

/-- What a last moment has found out about the document. -/
def result? : Moment → Option (Except GenerateError TypeSet × List Event)
  | ⟨done set, [], _, state⟩ => some (.ok (set.map (TypeDef.setRequired true)), state.events)
  | ⟨fault e, [], _, state⟩ => some (.error e, state.events)
  | _ => none

/-- The moment `later` comes right after `now`. -/
def After (root : Json) (later now : Moment) : Prop := now.step? root = some later

/-- One moment leads to another in any number of steps. -/
abbrev Leads (root : Json) : Moment → Moment → Prop := Relation.ReflTransGen fun now later => After root later now

end Moment

open Moment

variable {root : Json} {target : String} {next : Option TypeSet → Lowering TypeSet} {around : List OpenReference}
  {inProgress : List String} {state : ResolutionState} {m m' : Moment}

/-- A reference is answered, or it is opened with its text put in progress. -/
theorem meet_cases (root : Json) (target : String) (next : Option TypeSet → Lowering TypeSet)
    (around : List OpenReference) (inProgress : List String) (state : ResolutionState) :
    (∃ answer state', meet root target next around inProgress state = ⟨next answer, around, inProgress, state'⟩) ∨
      target ∉ inProgress ∧ ∃ s, targetLowering? root target = some s ∧
        meet root target next around inProgress state = ⟨s, ⟨target, next⟩ :: around, target :: inProgress, state⟩ := by
  unfold meet
  split
  · exact .inl ⟨_, _, rfl⟩
  · rename_i pointer hp
    split
    · exact .inl ⟨_, _, rfl⟩
    · split
      · exact .inl ⟨_, _, rfl⟩
      · rename_i fresh
        split
        · exact .inl ⟨_, _, rfl⟩
        · rename_i node hn
          exact .inr ⟨fresh, _, targetLowering?_eq_some.2 ⟨pointer, node, hp, hn, rfl⟩, rfl⟩

section Meet

theorem meet_foreign (hp : localPointer? target = none) : meet root target next around inProgress state =
    ⟨next none, around, inProgress, { state with events := state.events ++ [.foreignReference target] }⟩ := by
  unfold meet
  rw [hp]

variable (inside : localPointer? target ≠ none)
include inside

theorem meet_known {answer : Option TypeSet} (hl : state.resolved.lookup target = some answer) :
    meet root target next around inProgress state = ⟨next answer, around, inProgress, state⟩ := by
  obtain ⟨pointer, hp⟩ := Option.ne_none_iff_exists'.1 inside
  unfold meet
  rw [hp]
  simp only
  rw [hl]

theorem meet_inProgress (hl : state.resolved.lookup target = none) (again : target ∈ inProgress) :
    meet root target next around inProgress state =
      ⟨next none, around, inProgress, { state with events := state.events ++ [.recursiveReference target] }⟩ := by
  obtain ⟨pointer, hp⟩ := Option.ne_none_iff_exists'.1 inside
  unfold meet
  rw [hp]
  simp only
  rw [hl]
  exact if_pos again

theorem meet_missing (hl : state.resolved.lookup target = none) (fresh : target ∉ inProgress)
    (hn : targetLowering? root target = none) : meet root target next around inProgress state =
      ⟨next none, around, inProgress, { state with resolved := (target, none) :: state.resolved }⟩ := by
  obtain ⟨pointer, hp, hn⟩ := (targetLowering?_eq_none.1 hn).resolve_left inside
  unfold meet
  rw [hp]
  simp only
  rw [hl, hn]
  exact if_neg fresh

omit inside

theorem meet_found {s : Lowering TypeSet} (hl : state.resolved.lookup target = none) (fresh : target ∉ inProgress)
    (found : targetLowering? root target = some s) : meet root target next around inProgress state =
      ⟨s, ⟨target, next⟩ :: around, target :: inProgress, state⟩ := by
  obtain ⟨pointer, node, hp, hn, rfl⟩ := targetLowering?_eq_some.1 found
  unfold meet
  rw [hp]
  simp only
  rw [hl, hn]
  exact if_neg fresh

end Meet

theorem filter_ne_cons_self (fresh : target ∉ inProgress) :
    (target :: inProgress).filter (· != target) = inProgress := by
  rw [List.filter_cons_of_neg (by simp), List.filter_eq_self]
  rintro t ht
  rw [bne_iff_ne]
  rintro rfl
  exact fresh ht

/-! ## Every way ends -/

/-- From where nothing is left to lower inside of some open references every way ends. -/
structure Ends (root : Json) (around : List OpenReference) (inProgress : List String) : Prop where
  done : ∀ set state, Acc (After root) ⟨.done set, around, inProgress, state⟩
  fault : ∀ e state, Acc (After root) ⟨.fault e, around, inProgress, state⟩

/-- If every way ends once a reference in `T` is opened, then it ends whatever is lowered that asks for such
references only. -/
theorem acc_of_opened {T : String → Prop}
    (opened : ∀ target ∉ inProgress, T target → ∀ s, targetLowering? root target = some s → ∀ around,
      Ends root around (target :: inProgress) → ∀ state, Acc (After root) ⟨s, around, target :: inProgress, state⟩)
    (ends : Ends root around inProgress) {s : Lowering TypeSet} (hs : Keeps T (fun _ => True) s)
    (state : ResolutionState) : Acc (After root) ⟨s, around, inProgress, state⟩ := by
  induction s generalizing state with
  | done set => exact ends.done set state
  | fault e => exact ends.fault e state
  | follow target next ih =>
    constructor
    intro later step
    obtain rfl := Option.some.inj step
    rcases meet_cases root target next around inProgress state with ⟨answer, state', he⟩ | ⟨fresh, s, found, he⟩
    · rw [he]
      exact ih answer (hs.2 answer) state'
    · rw [he]
      -- closing the reference again leads back to the texts that were in progress before
      refine opened target fresh hs.1 s found _ ⟨fun set state => ?_, fun e state => ?_⟩ state
      · constructor
        intro later step
        obtain rfl := Option.some.inj step
        rw [filter_ne_cons_self fresh]
        exact ih _ (hs.2 _) _
      · constructor
        intro later step
        obtain rfl := Option.some.inj step
        rw [filter_ne_cons_self fresh]
        exact ends.fault e state

/-- The texts of the document that are not in progress. -/
def leftTexts (root : Json) (inProgress : List String) : List String :=
  (refTexts root).filter (· ∉ inProgress)

theorem length_leftTexts_cons_lt (text : target ∈ refTexts root) (fresh : target ∉ inProgress) :
    (leftTexts root (target :: inProgress)).length < (leftTexts root inProgress).length := by
  have part : leftTexts root (target :: inProgress) = (leftTexts root inProgress).filter (· != target) := by
    unfold leftTexts
    rw [List.filter_filter]
    refine List.filter_congr fun t _ => ?_
    by_cases h : t = target <;> simp [h]
  rw [part]
  exact length_filter_ne_lt (List.mem_filter.2 ⟨text, decide_eq_true fresh⟩)

/-- Every way ends from what asks for references of the document: those that are opened on the way are different
ones. -/
theorem acc_of_keeps {around : List OpenReference} {inProgress : List String} (ends : Ends root around inProgress)
    {s : Lowering TypeSet} (hs : Keeps (· ∈ refTexts root) (fun _ => True) s) (state : ResolutionState) :
    Acc (After root) ⟨s, around, inProgress, state⟩ :=
  acc_of_opened (fun _ fresh text _ found _ ends state =>
    have := length_leftTexts_cons_lt text fresh
    acc_of_keeps ends (targetLowering?_steady found).keeps state) ends hs state
termination_by (leftTexts root inProgress).length

theorem keeps_all : ∀ s : Lowering TypeSet, Keeps (fun _ => True) (fun _ => True) s
  | .done _ => trivial
  | .fault _ => trivial
  | .follow _ next => ⟨trivial, fun answer => keeps_all (next answer)⟩

/-- What a target is lowered to asks for references of the document, whatever text it was opened by. -/
theorem acc_of_ends (ends : Ends root around inProgress) (s : Lowering TypeSet) (state : ResolutionState) :
    Acc (After root) ⟨s, around, inProgress, state⟩ :=
  acc_of_opened (fun _ _ _ _ found _ ends => acc_of_keeps ends (targetLowering?_steady found).keeps) ends
    (keeps_all s) state

theorem ends_all (root : Json) : ∀ (around : List OpenReference) (inProgress : List String),
    Ends root around inProgress
  | [], _ => ⟨fun _ _ => ⟨_, fun _ step => by cases step⟩, fun _ _ => ⟨_, fun _ step => by cases step⟩⟩
  | _ :: around, inProgress => by
    refine ⟨fun set state => ⟨_, fun later step => ?_⟩, fun e state => ⟨_, fun later step => ?_⟩⟩
    · obtain rfl := Option.some.inj step
      exact acc_of_ends (ends_all root around _) _ _
    · obtain rfl := Option.some.inj step
      exact (ends_all root around _).fault e state

/-- The moments of a document follow each other in no endless way. -/
theorem wellFounded_after (root : Json) : WellFounded (After root) :=
  ⟨fun m => acc_of_ends (ends_all root m.around m.inProgress) m.current m.state⟩

/-! ## What is in progress -/

/-- The texts in progress are those of the open references, all of them different texts of the document. -/
structure Orderly (root : Json) (m : Moment) : Prop where
  inProgress : m.inProgress = m.around.map (·.target)
  distinct : m.inProgress.Nodup
  texts : ∀ t ∈ m.inProgress, t ∈ refTexts root
  current : Keeps (· ∈ refTexts root) (fun _ => True) m.current
  behind : ∀ ref ∈ m.around, ∀ answer, Keeps (· ∈ refTexts root) (fun _ => True) (ref.next answer)

theorem orderly_start (document : Json) (name : String) : Orderly document (start document name) :=
  ⟨rfl, List.nodup_nil, fun _ h => (List.not_mem_nil h).elim, (lowerNode_steady document "" name fun _ ht => ht).keeps,
    fun _ h => (List.not_mem_nil h).elim⟩

/-- Closing the innermost reference. -/
theorem Orderly.close {current current' : Lowering TypeSet} {ref : OpenReference} {state' : ResolutionState}
    (h : Orderly root ⟨current, ref :: around, inProgress, state⟩)
    (hc : Keeps (· ∈ refTexts root) (fun _ => True) current') :
    Orderly root ⟨current', around, inProgress.filter (· != ref.target), state'⟩ := by
  obtain ⟨open', distinct, texts, -, behind⟩ := h
  obtain rfl : inProgress = ref.target :: around.map (·.target) := open'
  obtain ⟨fresh, distinct⟩ := List.nodup_cons.1 distinct
  rw [filter_ne_cons_self fresh]
  exact ⟨rfl, distinct, fun t ht => texts t (List.mem_cons_of_mem _ ht), hc,
    fun other ho => behind other (List.mem_cons_of_mem _ ho)⟩

theorem Orderly.step (h : Orderly root m) (step : m.step? root = some m') : Orderly root m' := by
  obtain ⟨current, around, inProgress, state⟩ := m
  cases current with
  | follow target next =>
    obtain rfl := Option.some.inj step
    obtain ⟨text, keeps⟩ := h.current
    rcases meet_cases root target next around inProgress state with ⟨answer, state', he⟩ | ⟨fresh, s, found, he⟩
    · rw [he]
      exact ⟨h.inProgress, h.distinct, h.texts, keeps answer, h.behind⟩
    · rw [he]
      exact ⟨congrArg _ h.inProgress, List.nodup_cons.2 ⟨fresh, h.distinct⟩, List.forall_mem_cons.2 ⟨text, h.texts⟩,
        (targetLowering?_steady found).keeps, List.forall_mem_cons.2 ⟨keeps, h.behind⟩⟩
  | done set =>
    cases around with
    | nil => cases step
    | cons ref around =>
      obtain rfl := Option.some.inj step
      exact h.close (h.behind ref List.mem_cons_self _)
  | fault e =>
    cases around with
    | nil => cases step
    | cons ref around =>
      obtain rfl := Option.some.inj step
      exact h.close trivial

theorem Orderly.leads (h : Orderly root m) (way : Leads root m m') : Orderly root m' := by
  induction way with
  | refl => exact h
  | tail _ step ih => exact ih.step step

/-- There are no more open references than texts in the document. -/
theorem Orderly.length_around_le (h : Orderly root m) : m.around.length ≤ (refTexts root).toFinset.card := by
  have count : m.inProgress.toFinset.card = m.around.length := by
    rw [List.toFinset_card_of_nodup h.distinct, h.inProgress, List.length_map]
  rw [← count]
  exact Finset.card_le_card fun t ht => List.mem_toFinset.2 (h.texts t (List.mem_toFinset.1 ht))

/-! ## The last moment -/

/-- A lowering that has come to an outcome. -/
def ended : Except GenerateError TypeSet → Lowering TypeSet
  | .ok set => .done set
  | .error e => .fault e

/-- The texts that are left when one of them is put in progress. -/
theorem left_cons {pending texts : List String} (left : ∀ t ∈ texts, t ∈ pending ↔ t ∉ inProgress) :
    ∀ t ∈ texts, t ∈ pending.filter (· != target) ↔ t ∉ target :: inProgress := by
  intro t ht
  rw [List.mem_filter, left t ht, List.mem_cons, not_or, bne_iff_ne, and_comm]

/-- Meeting a reference is the next step. -/
theorem Moment.Leads.meet {last : Moment}
    (way : Leads root (Moment.meet root target next around inProgress state) last) :
    Leads root ⟨.follow target next, around, inProgress, state⟩ last :=
  .head rfl way

/-- Carrying out a lowering goes through the moments to the one in which it has come to its outcome. -/
theorem Carries.leads {pending : List String} {s : Lowering TypeSet} {st st' : ResolutionState}
    {outcome : Except GenerateError TypeSet} (h : Carries root pending s st outcome st')
    (hs : Keeps (· ∈ refTexts root) (fun _ => True) s)
    (left : ∀ t ∈ refTexts root, t ∈ pending ↔ t ∉ inProgress) (around : List OpenReference) :
    Leads root ⟨s, around, inProgress, st⟩ ⟨ended outcome, around, inProgress, st'⟩ := by
  induction h generalizing inProgress around with
  | done => exact .refl
  | fault => exact .refl
  | foreign hp _ ih =>
    refine .meet ?_
    rw [meet_foreign hp]
    exact ih (hs.2 _) left around
  | known inside hl _ ih =>
    refine .meet ?_
    rw [meet_known inside hl]
    exact ih (hs.2 _) left around
  | inProgress inside hl hm _ ih =>
    have again := not_imp_comm.1 (left _ hs.1).2 hm
    refine .meet ?_
    rw [meet_inProgress inside hl again]
    exact ih (hs.2 _) left around
  | missing inside hl hm hn _ ih =>
    refine .meet ?_
    rw [meet_missing inside hl ((left _ hs.1).1 hm) hn]
    exact ih (hs.2 _) left around
  | failed hl hm found _ ih =>
    have fresh := (left _ hs.1).1 hm
    refine .meet ?_
    rw [meet_found hl fresh found]
    refine .tail (ih (targetLowering?_steady found).keeps (left_cons left) _) ?_
    -- the fault closes the reference as well
    show some _ = some _
    rw [filter_ne_cons_self fresh]
    rfl
  | found hl hm found _ _ inner ih =>
    have fresh := (left _ hs.1).1 hm
    refine .meet ?_
    rw [meet_found hl fresh found]
    refine (inner (targetLowering?_steady found).keeps (left_cons left) _).trans (.head ?_ (ih (hs.2 _) left around))
    show some _ = some _
    rw [filter_ne_cons_self fresh]

/-! ## Whole documents -/

/-- The resolution of a document has a last moment, which holds its type set or its fault. -/
theorem exists_last (document : Json) (name : String) : ∃ last, Leads document (start document name) last ∧
    last.step? document = none ∧ last.result? = some (parse document name) := by
  obtain ⟨st, outcome, run, hp⟩ := carries_of_parse document name
  have left : ∀ t ∈ refTexts document, t ∈ refTexts document ↔ t ∉ ([] : List String) := fun t ht =>
    ⟨fun _ h => (List.not_mem_nil h).elim, fun _ => ht⟩
  have way := run.leads (lowerNode_steady document "" name fun _ ht => ht).keeps left []
  refine ⟨_, way, ?_, ?_⟩
  · cases outcome <;> rfl
  · rw [hp]
    cases outcome <;> rfl

theorem after_unique (root : Json) : Relator.RightUnique fun now later => After root later now :=
  fun _ _ _ h h' => Option.some.inj (h.symm.trans h')

/-- A last moment comes at the end of every way. -/
theorem leads_last {last : Moment} (way : Leads root m last) (ended : last.step? root = none)
    (other : Leads root m m') : Leads root m' last := by
  rcases Relation.ReflTransGen.total_of_right_unique (after_unique root) way other with beyond | before
  · rcases beyond.cases_head with rfl | ⟨later, step, -⟩
    · exact .refl
    · exact absurd (ended.symm.trans step) (Option.some_ne_none _).symm
  · exact before

/-- The lowering of a document ends: there is no endless way through its moments, and every way comes to the last
one, which holds what `parse` gives. At every moment the texts in progress are those of the open references (one that
is answered at once is never open), they are different texts of the document, and so there are no more open references
than texts. -/
theorem parse_ends (document : Json) (name : String) :
    WellFounded (After document) ∧
      (∀ m, Leads document (start document name) m →
        m.inProgress = m.around.map (·.target) ∧ m.inProgress.Nodup ∧ (∀ t ∈ m.inProgress, t ∈ refTexts document) ∧
          m.around.length ≤ (refTexts document).toFinset.card) ∧
      ∃ last, (∀ m, Leads document (start document name) m → Leads document m last) ∧
        last.step? document = none ∧ last.result? = some (parse document name) := by
  obtain ⟨last, way, ended, result⟩ := exists_last document name
  refine ⟨wellFounded_after document, fun m hm => ?_, last, fun m hm => leads_last way ended hm, ended, result⟩
  have orderly := (orderly_start document name).leads hm
  exact ⟨orderly.inProgress, orderly.distinct, orderly.texts, orderly.length_around_le⟩

end SchemaClasses.Schema
