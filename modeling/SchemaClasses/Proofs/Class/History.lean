/-
Whatever is done to a collection, one operation after the other: classes are added, schemas are built (or fail on the
way), classes gain getters and constants, enums get their exceptions. Each operation makes changes of its own, and
from an empty collection on these say all: where a name stands, what stands under it, and what stays as it was.
-/
import SchemaClasses.Class.Accessors
import SchemaClasses.EnumException
import SchemaClasses.Proofs.Class.BuildLog

namespace SchemaClasses

/-! ## Operations -/

/-- What can be done to a collection. -/
inductive Operation where
  | add (model : ClassModel)
  | extend (models : List ClassModel)
  | build (v : ValueObjects) (ambient : String) (target : ClassModel) (className : String) (set : TypeSet)
  | getters (filters : NameFilters) (typed : Bool)
  | constants (filters : NameFilters)
  | exception (filters : NameFilters) (typed : Bool) (enum : ClassModel)

/-- The collection after an operation. A build that fails leaves what it has made until then, and there is no exception
for a class that is no enum. -/
def Operation.perform (c : Collection) : Operation → Collection
  | add model => c.add model
  | extend models => (c.addAll models).1
  | build v ambient target className set =>
    ((Build.buildSet v ambient target className set).run.run ⟨c, []⟩).2.collection
  | getters filters typed => c.addGetters filters typed
  | constants filters => c.addPropertyConstants filters
  | exception filters typed enum =>
    match EnumException.ofClass filters typed enum with
    | .ok made => c.add made
    | .error _ => c

/-- The collection after operations in order. -/
def Collection.run (c : Collection) (operations : List Operation) : Collection := operations.foldl Operation.perform c

/-- The getters that a class gains as members. -/
def ClassModel.newGetters (filters : NameFilters) (typed : Bool) (m : ClassModel) : List NewMember :=
  if m.isLikeValueObject then [] else (m.missingGetters filters typed).map .method

/-- The constants of properties that a class gains as members. -/
def ClassModel.newConstants (filters : NameFilters) (m : ClassModel) : List NewMember :=
  if m.isLikeValueObject then [] else (m.missingConstants filters).map .constant

/-- The changes that an operation makes from a collection on. -/
inductive Operation.Makes (c : Collection) : Operation → List Change → Prop
  | add (model : ClassModel) : Makes c (.add model) [.put model]
  | extend (models : List ClassModel) : Makes c (.extend models) (models.map .put)
  | build {v : ValueObjects} {ambient : String} {target : ClassModel} {className : String} {set : TypeSet}
      {outcome : Except GenerateError Unit} {s' : BuildState} {changes : List Change} :
      Runs (Build.buildSet v ambient target className set) ⟨c, []⟩ outcome s' → BuildLog v ambient target c changes →
      -- what is reported as built is what is put
      putNames changes = s'.events.filterMap Event.builtName? →
      Makes c (.build v ambient target className set) changes
  | getters (filters : NameFilters) (typed : Bool) :
      Makes c (.getters filters typed) (c.gains (·.newGetters filters typed))
  | constants (filters : NameFilters) : Makes c (.constants filters) (c.gains (·.newConstants filters))
  | exception {filters : NameFilters} {typed : Bool} {enum made : ClassModel} :
      EnumException.ofClass filters typed enum = .ok made → Makes c (.exception filters typed enum) [.put made]
  | noException {filters : NameFilters} {typed : Bool} {enum : ClassModel} {e : GenerateError} :
      EnumException.ofClass filters typed enum = .error e → Makes c (.exception filters typed enum) []

/-- Operations with the changes that each of them makes in its turn. -/
inductive History : Collection → List Operation → List (List Change) → Prop
  | nil (c : Collection) : History c [] []
  | cons {c : Collection} {op : Operation} {changes : List Change} {rest : List Operation} {logs : List (List Change)} :
      op.Makes c changes → History (op.perform c) rest logs → History c (op :: rest) (changes :: logs)

namespace Collection

variable {c : Collection} {changes : List Change}

/-! ## What each operation changes -/

theorem replay_put : ∀ (models : List ClassModel) (c : Collection), c.replay (models.map .put) = (c.addAll models).1
  | [], _ => rfl
  | model :: rest, c => replay_put rest (c.add model)

theorem replay_getters (h : c.Keyed) (filters : NameFilters) (typed : Bool) :
    c.replay (c.gains (·.newGetters filters typed)) = c.addGetters filters typed := by
  rw [h.replay_gains]
  unfold addGetters ClassModel.newGetters ClassModel.withGetters
  congr 1
  funext m
  split
  · rfl
  · exact m.gainAll_methods _

theorem replay_constants (h : c.Keyed) (filters : NameFilters) :
    c.replay (c.gains (·.newConstants filters)) = c.addPropertyConstants filters := by
  rw [h.replay_gains]
  unfold addPropertyConstants ClassModel.newConstants ClassModel.withPropertyConstants
  congr 1
  funext m
  split
  · rfl
  · exact m.gainAll_constants _

/-- An operation does what its changes do. -/
theorem exists_makes (h : c.Keyed) (op : Operation) :
    ∃ changes, op.Makes c changes ∧ op.perform c = c.replay changes := by
  cases op with
  | add model => exact ⟨_, .add model, rfl⟩
  | extend models => exact ⟨_, .extend models, (replay_put models c).symm⟩
  | build v ambient target className set =>
    have run : Runs (Build.buildSet v ambient target className set) ⟨c, []⟩ _ _ := rfl
    have logs := logsSet_all v ambient target set target className (.inl rfl)
    obtain ⟨changes, events, log, left, names⟩ := logs.logged run
    refine ⟨changes, .build run log ?_, congrArg BuildState.collection left⟩
    rw [names, left]
    rfl
  | getters filters typed => exact ⟨_, .getters filters typed, (replay_getters h filters typed).symm⟩
  | constants filters => exact ⟨_, .constants filters, (replay_constants h filters).symm⟩
  | exception filters typed enum =>
    cases hm : EnumException.ofClass filters typed enum with
    | ok made =>
      refine ⟨_, .exception hm, ?_⟩
      simp only [Operation.perform, hm]
      rfl
    | error e =>
      refine ⟨_, .noException hm, ?_⟩
      simp only [Operation.perform, hm]
      rfl

/-- Operations do what their changes do, at every moment between them. -/
theorem exists_history : ∀ (operations : List Operation) {c : Collection}, c.Keyed → ∃ logs,
    History c operations logs ∧ ∀ n, c.run (operations.take n) = c.replay (logs.take n).flatten
  | [], c, _ => ⟨[], .nil c, fun n => by rw [List.take_nil, List.take_nil]; rfl⟩
  | op :: rest, c, h => by
    obtain ⟨changes, makes, same⟩ := exists_makes h op
    obtain ⟨logs, history, moments⟩ := exists_history rest (same ▸ h.replay changes : (op.perform c).Keyed)
    refine ⟨changes :: logs, .cons makes history, fun n => ?_⟩
    cases n with
    | zero => rfl
    | succ n =>
      rw [List.take_succ_cons, List.take_succ_cons, List.flatten_cons, replay_append, ← same]
      exact moments n

/-! ## What changes leave -/

/-- A collection as changes to an empty one leave it, said without making them. -/
structure LeftBy (changes : List Change) (c : Collection) : Prop where
  keyed : c.Keyed
  /-- Names stand where they first came. -/
  places : c.names = (putNames changes).eraseDups
  /-- Under a name is the class that was put there last, with what it has gained since. -/
  contents : ∀ {fqcn m}, c.get? fqcn = some m → ∃ before model after, changes = before ++ .put model :: after ∧
    model.fqcn = fqcn ∧ fqcn ∉ putNames after ∧ m = model.gainAll (gainedBy fqcn after)

/-- What stays of a collection through changes. -/
structure OutlastedBy (c : Collection) (changes : List Change) (c' : Collection) : Prop where
  /-- Names keep their places, and new ones come behind them. -/
  places : c.names <+: c'.names
  /-- No class goes, and only another one that is put under its name changes what it is. -/
  classes : ∀ {fqcn m}, c.get? fqcn = some m → ∃ m', c'.get? fqcn = some m' ∧
    (fqcn ∉ putNames changes → m'.name = m.name ∧ m'.space = m.space ∧ m'.kind = m.kind)

theorem leftBy_replay (changes : List Change) : LeftBy changes (replay {} changes) where
  keyed := keyed_empty.replay changes
  places := names_replay changes
  contents := exists_last_put

theorem outlastedBy_replay (before after : List Change) :
    OutlastedBy (replay {} before) after (replay {} (before ++ after)) where
  places := by
    rw [names_replay, names_replay, putNames_append, List.eraseDups_append]
    exact List.prefix_append _ _
  classes := fun h => by
    rw [replay_append]
    exact exists_get?_replay after h

/-- Every run of operations from an empty collection on is told by the changes of its operations: each of them makes
its own, every moment between them is what the changes until then leave, and at the end every class stands under its
own name, each name where it first came, with the class that was put there last and the members that it has gained
since, each in the place of an earlier one of its name. Whatever was there at some moment, within an operation or
between two, is outlasted by the rest. -/
theorem run_leftBy_changes (operations : List Operation) : ∃ logs, History {} operations logs ∧
    (∀ n, run {} (operations.take n) = replay {} (logs.take n).flatten) ∧
    LeftBy logs.flatten (run {} operations) ∧
    ∀ n, OutlastedBy (replay {} (logs.flatten.take n)) (logs.flatten.drop n) (run {} operations) := by
  obtain ⟨logs, history, moments⟩ := exists_history operations keyed_empty
  have whole : run {} operations = replay {} logs.flatten := by
    have last := moments (max operations.length logs.length)
    rwa [List.take_of_length_le (le_max_left ..), List.take_of_length_le (le_max_right ..)] at last
  refine ⟨logs, history, moments, whole ▸ leftBy_replay _, fun n => ?_⟩
  have cut := outlastedBy_replay (logs.flatten.take n) (logs.flatten.drop n)
  rwa [List.take_append_drop, ← whole] at cut

end Collection

end SchemaClasses
