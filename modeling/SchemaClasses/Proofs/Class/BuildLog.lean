/-
The changes that a build makes, whether it succeeds or fails on the way. It puts value objects, lists and entities
under their names, each of them reported, and gives entities the raw array form where they stand.
-/
import SchemaClasses.Proofs.Class.Changes
import SchemaClasses.Proofs.Class.Rebuild
import SchemaClasses.Proofs.Template.Enum

namespace SchemaClasses

open Build Template

/-- The name of the class that an event reports as built. -/
def Event.builtName? : Event → Option String
  | valueObjectBuilt fqcn _ => some fqcn
  | entityBuilt fqcn _ => some fqcn
  | _ => none

/-! ## Changes of a build -/

section BuildLog

variable (v : ValueObjects) (ambient : String) (target : ClassModel)

/-- The entity that an object fills: the one that a build was begun with, or one without members. -/
def Begins (start : ClassModel) : Prop := start = target ∨ ∃ name space, start = .entity name space

/-- A class that a build puts into a collection. An entity takes over the pair of the class in its place. -/
inductive Inserted (c : Collection) : ClassModel → Prop
  | value {m : ClassModel} {className space : String} {d : TypeDef} {reported : List Event} :
      v.build className space d = .ok (m, reported) → Inserted c m
  | list {m : ClassModel} {className space : String} {d : TypeDef} {reported : List Event} (fqcn : String) :
      v.build className space d = .ok (m, reported) → Inserted c (m.addImport fqcn)
  | entity {start m : ClassModel} (properties : List (String × TypeSet)) : Begins target start →
      m = properties.foldl (withSchemaProperty v ambient) start → Inserted c (keepRawArray (c.get? m.fqcn) m)

/-- The changes that a build can make from a collection on: classes are put, and entities that lack the pair gain
its two methods. -/
inductive BuildLog : Collection → List Change → Prop
  | nil (c : Collection) : BuildLog c []
  | put {c : Collection} {m : ClassModel} {rest : List Change} : Inserted v ambient target c m →
      BuildLog (c.add m) rest → BuildLog c (.put m :: rest)
  | pair {c : Collection} {fqcn : String} {m : ClassModel} {lines : List PropertyLines} {rest : List Change} :
      c.get? fqcn = some m → lacksRawArray m = true → allPropertyLines c m m.properties.values = .ok lines →
      BuildLog (c.adjust fqcn (·.withRawArray lines)) rest →
      BuildLog c (.gain fqcn (.method (fromArrayMethod lines)) :: .gain fqcn (.method (toArrayMethod lines)) :: rest)

end BuildLog

variable {v : ValueObjects} {ambient : String} {target : ClassModel}

theorem adjust_adjust (c : Collection) (fqcn : String) (first second : ClassModel → ClassModel) :
    (c.adjust fqcn first).adjust fqcn second = c.adjust fqcn (second ∘ first) := by
  unfold Collection.adjust Entries.adjust
  rw [List.map_map]
  congr 1
  refine List.map_congr_left fun entry _ => ?_
  by_cases own : entry.1 = fqcn <;> simp [own]

/-- The two methods of the pair are gained one after the other. -/
theorem replay_pair (c : Collection) (fqcn : String) (lines : List PropertyLines) (rest : List Change) :
    c.replay (.gain fqcn (.method (fromArrayMethod lines)) :: .gain fqcn (.method (toArrayMethod lines)) :: rest) =
      (c.adjust fqcn (·.withRawArray lines)).replay rest := by
  show (((c.adjust fqcn _).adjust fqcn _).replay rest) = _
  rw [adjust_adjust]
  rfl

theorem BuildLog.append {c : Collection} {before after : List Change} (h : BuildLog v ambient target c before)
    (h' : BuildLog v ambient target (c.replay before) after) : BuildLog v ambient target c (before ++ after) := by
  induction h with
  | nil c => exact h'
  | put inserted _ ih => exact .put inserted (ih h')
  | pair hf hl ho _ ih =>
    rw [replay_pair] at h'
    exact .pair hf hl ho (ih h')

/-- The work list gives pairs and puts no classes, be it done or not when it ends. -/
theorem exists_log_addRawArrays (c : Collection) (pending : List String) : ∃ changes,
    BuildLog v ambient target c changes ∧ (addRawArrays c pending).2 = c.replay changes ∧ putNames changes = [] := by
  induction c, pending using addRawArrays_induction with
  | done c =>
    rw [addRawArrays_nil]
    exact ⟨[], .nil c, rfl, rfl⟩
  | skip c fqcn rest hs ih =>
    rw [addRawArrays_skip' hs]
    exact ih
  | fails c fqcn rest m e hf hl he =>
    rw [addRawArrays_error hf hl he]
    exact ⟨[], .nil c, rfl, rfl⟩
  | adds c fqcn rest m lines hf hl ho ih =>
    obtain ⟨changes, log, same, none⟩ := ih
    rw [addRawArrays_add hf hl ho, same]
    exact ⟨_, .pair hf hl ho log, (replay_pair c fqcn lines changes).symm, none⟩

/-! ## Actions -/

/-- However a run of the action ends, it has made changes as a build does, and the classes that it has put are those
that it has reported; `owed` are names that were reported before it and whose classes it puts first. -/
structure Logs (v : ValueObjects) (ambient : String) (target : ClassModel) {α : Type} (owed : List String)
    (action : Build α) : Prop where
  logged : ∀ {s s' outcome}, Runs action s outcome s' → ∃ changes events,
    BuildLog v ambient target s.collection changes ∧ s' = ⟨s.collection.replay changes, s.events ++ events⟩ ∧
      putNames changes = owed ++ events.filterMap Event.builtName?

section Logs

variable {α β : Type} {owed : List String} {m : ClassModel}

theorem Logs.bind {action : Build α} {next : α → Build β} (first : Logs v ambient target owed action)
    (second : ∀ a, (∃ s s', Runs action s (.ok a) s') → Logs v ambient target [] (next a)) :
    Logs v ambient target owed (action >>= next) where
  logged := fun run => by
    rcases runs_bind.1 run with ⟨a, middle, run, run'⟩ | ⟨e, run, -⟩
    · obtain ⟨changes, events, log, rfl, names⟩ := first.logged run
      obtain ⟨changes', events', log', rfl, names'⟩ := (second a ⟨_, _, run⟩).logged run'
      refine ⟨changes ++ changes', events ++ events', log.append log', ?_, ?_⟩
      · rw [Collection.replay_append, List.append_assoc]
      · rw [Collection.putNames_append, names, names', List.filterMap_append, List.append_assoc, List.nil_append]
    · exact first.logged run

/-- An action that reports no class and changes nothing. -/
theorem logs_of_reports {action : Build α} (reports : ∀ {s s' outcome}, Runs action s outcome s' →
    ∃ events, s' = s.report events ∧ events.filterMap Event.builtName? = []) : Logs v ambient target [] action where
  logged := fun run => by
    obtain ⟨events, rfl, none⟩ := reports run
    exact ⟨[], events, .nil _, rfl, by rw [none]; rfl⟩

theorem report_nil (s : BuildState) : s.report [] = s := by simp [BuildState.report]

theorem logs_pure (a : α) : Logs v ambient target [] (pure a : Build α) :=
  logs_of_reports fun run => ⟨[], by rw [(runs_pure.1 run).2, report_nil], rfl⟩

theorem logs_throw (e : GenerateError) : Logs v ambient target [] (throw e : Build α) :=
  logs_of_reports fun run => ⟨[], by rw [(runs_throw.1 run).2, report_nil], rfl⟩

theorem logs_fromExcept (value : Except GenerateError α) : Logs v ambient target [] (fromExcept value) :=
  logs_of_reports fun run => ⟨[], by rw [(runs_fromExcept.1 run).2, report_nil], rfl⟩

theorem logs_noteUnion (set : TypeSet) : Logs v ambient target [] (noteUnion set) := by
  unfold noteUnion
  split
  · exact logs_of_reports fun run => ⟨_, (runs_report.1 run).2, rfl⟩
  · exact logs_pure ()

theorem logs_throughReference (set : TypeSet) : Logs v ambient target [] (throughReference set) := by
  obtain ⟨first, others⟩ := set
  cases first with
  | reference =>
    unfold throughReference
    exact (logs_noteUnion _).bind fun _ _ => logs_throw _
  | _ =>
    unfold throughReference
    exact (logs_noteUnion _).bind fun _ _ => logs_pure _

theorem logs_resolveFirst (set : TypeSet) : Logs v ambient target [] (resolveFirst set) := by
  obtain ⟨first, others⟩ := set
  cases first with
  | reference traits pointer resolved =>
    cases resolved with
    | none =>
      unfold resolveFirst
      exact (logs_noteUnion _).bind fun _ _ => logs_throw _
    | some inner =>
      unfold resolveFirst
      exact (logs_noteUnion _).bind fun _ _ => (logs_throughReference inner).bind fun _ _ => logs_pure _
  | _ =>
    unfold resolveFirst
    exact (logs_noteUnion _).bind fun _ _ => logs_pure _

theorem builtNames_addEvents (c : Collection) (m : ClassModel) :
    (c.addEvents m).filterMap Event.builtName? = [] := by
  rcases c.addEvents_cases m with silent | replaced
  · rw [silent]
    rfl
  · rw [replaced]
    rfl

theorem logs_add (inserted : ∀ c, Inserted v ambient target c m) : Logs v ambient target [m.fqcn] (add m) where
  logged := fun {s _ _} run => by
    obtain ⟨-, rfl⟩ := runs_add.1 run
    refine ⟨[.put m], s.collection.addEvents m, .put (inserted _) (.nil _), rfl, ?_⟩
    rw [builtNames_addEvents]
    rfl

theorem logs_addEntity (inserted : ∀ c : Collection, Inserted v ambient target c (keepRawArray (c.get? m.fqcn) m)) :
    Logs v ambient target [] (addEntity m) where
  logged := fun {s _ _} run => by
    obtain ⟨-, rfl⟩ := runs_addEntity.1 run
    refine ⟨[.put (keepRawArray (s.collection.get? m.fqcn) m)], [.entityBuilt m.fqcn m.properties.length] ++
      s.collection.addEvents (keepRawArray (s.collection.get? m.fqcn) m), .put (inserted _) (.nil _),
      congrArg (BuildState.mk _) (List.append_assoc ..), ?_⟩
    rw [List.filterMap_append, builtNames_addEvents]
    show [_] = [_]
    rw [fqcn_keepRawArray]

/-- A template reports skipped values at most. -/
theorem builtNames_template {d : TypeDef} {reported : List Event} (h : v.template d = .ok (m, reported)) :
    reported.filterMap Event.builtName? = [] := by
  cases d with
  | string traits format choices =>
    cases choices with
    | none =>
      cases h
      rfl
    | some values =>
      rw [List.filterMap_eq_nil_iff]
      intro e he
      cases h
      obtain ⟨value, method, rfl⟩ := Enum.exists_skipped_of_mem he
      rfl
  | integer | number | boolean =>
    cases h
    rfl
  | array traits items =>
    obtain ⟨_, -, same⟩ := except_map_eq_ok.1 h
    cases same
    rfl
  | object | reference => cases h

/-- A value object reports its own name and no other. -/
theorem builtNames_build {className space : String} {d : TypeDef} {reported : List Event}
    (h : v.build className space d = .ok (m, reported)) : reported.filterMap Event.builtName? = [m.fqcn] := by
  unfold ValueObjects.build at h
  split at h
  · cases h
  · rename_i made events ht
    have none := builtNames_template ht
    cases h
    rw [List.filterMap_append, none]
    rfl

theorem eq_of_runs_valueObject {className space : String} {d : TypeDef} {s s' : BuildState} {e : GenerateError}
    (run : Runs (valueObject v className space d) s (.error e) s') : s' = s := by
  unfold valueObject at run
  rcases runs_bind.1 run with ⟨⟨m, reported⟩, middle, -, rest⟩ | ⟨_, first, -⟩
  -- once the class is there nothing fails
  · simp [runs_report] at rest
  · exact (runs_fromExcept.1 first).2

/-- What is done with a value object has to put its class first. -/
theorem logs_valueObject_bind {className space : String} {d : TypeDef} {next : ClassModel → Build α}
    (h : ∀ m reported, v.build className space d = .ok (m, reported) → Logs v ambient target [m.fqcn] (next m)) :
    Logs v ambient target [] (valueObject v className space d >>= next) where
  logged := fun {s s' _} run => by
    rcases runs_bind.1 run with ⟨m, middle, run, run'⟩ | ⟨e, run, -⟩
    · obtain ⟨reported, hb, rfl⟩ := runs_valueObject.1 run
      obtain ⟨changes, events, log, rfl, names⟩ := (h m reported hb).logged run'
      refine ⟨changes, reported ++ events, log, congrArg (BuildState.mk _) (List.append_assoc ..), ?_⟩
      rw [names, List.filterMap_append, builtNames_build hb]
      rfl
    · obtain rfl := eq_of_runs_valueObject run
      exact ⟨[], [], .nil _, (report_nil _).symm, rfl⟩

theorem eq_of_runs_rawArrays {fqcn : String} {s s' : BuildState} {outcome : Except GenerateError Unit}
    (run : Runs (rawArrays fqcn) s outcome s') :
    s' = { s with collection := (addRawArrays s.collection [fqcn]).2 } := by
  unfold rawArrays at run
  rcases runs_bind.1 run with ⟨_, _, first, rest⟩ | ⟨_, first, -⟩
  · obtain ⟨⟨⟩, rfl⟩ := runs_get.1 first
    rcases runs_bind.1 rest with ⟨_, _, change, last⟩ | ⟨_, change, -⟩
    · obtain ⟨-, rfl⟩ := runs_modify.1 change
      exact (runs_fromExcept.1 last).2
    · cases (runs_modify.1 change).1
  · cases (runs_get.1 first).1

theorem logs_rawArrays (fqcn : String) : Logs v ambient target [] (rawArrays fqcn) where
  logged := fun {s s' _} run => by
    obtain rfl := eq_of_runs_rawArrays run
    obtain ⟨changes, log, same, names⟩ : ∃ changes, BuildLog v ambient target s.collection changes ∧ _ :=
      exists_log_addRawArrays s.collection [fqcn]
    rw [same]
    exact ⟨changes, [], log, congrArg (BuildState.mk _) (List.append_nil _).symm, names⟩

end Logs

/-! ## One level -/

section Levels

variable (v : ValueObjects) (ambient : String) (target : ClassModel)

def LogsSet (set : TypeSet) : Prop := ∀ into className, Begins target into →
  Logs v ambient target [] (buildSet v ambient into className set)

def LogsDefinition (d : TypeDef) : Prop := ∀ into className, Begins target into →
  Logs v ambient target [] (buildDefinition v ambient into className d)

def LogsProperties (properties : List (String × TypeSet)) : Prop := ∀ into,
  Logs v ambient target [] (buildProperties v ambient properties into)

def LogsProperty (d : TypeDef) : Prop := ∀ key, Logs v ambient target [] (propertyClass v ambient key d)

end Levels

variable {traits : Traits} {properties : List (String × TypeSet)} {d : TypeDef}

theorem begins_entity (name space : String) : Begins target (.entity name space) := .inr ⟨name, space, rfl⟩

theorem logsSet {set : TypeSet} (h : ∀ d, sizeOf d < sizeOf set → LogsDefinition v ambient target d) :
    LogsSet v ambient target set := by
  intro into className begins
  rw [buildSet]
  exact (logs_resolveFirst set).bind fun found _ => h found.1 found.2 into className begins

theorem logsDefinition_object (h : LogsProperties v ambient target properties) :
    LogsDefinition v ambient target (.object traits properties) := by
  intro into className begins
  rw [buildDefinition]
  refine (h into).bind fun m ran => ?_
  obtain ⟨_, _, run⟩ := ran
  exact logs_addEntity fun c => .entity properties begins (eq_of_runs_buildProperties run)

theorem logsDefinition_array {items : List TypeSet} (h : ∀ set ∈ items, LogsSet v ambient target set) :
    LogsDefinition v ambient target (.array traits items) := by
  intro into className begins
  rw [buildDefinition]
  refine (logs_fromExcept _).bind fun item _ => ?_
  cases items with
  | nil => exact logs_pure ()
  | cons itemSet rest =>
    refine (logs_resolveFirst itemSet).bind fun found _ => ?_
    refine (h itemSet List.mem_cons_self _ _ (begins_entity _ _)).bind fun _ _ => ?_
    -- the wrapper comes last, behind the raw array form of its items or without
    have wrapped : Logs v ambient target [] (do
        let wrapper ← valueObject v (v.filters.className className)
          (extractNamespace ambient (.array traits (itemSet :: rest))) (.array traits (itemSet :: rest))
        add (wrapper.addImport (qualify (extractNamespace ambient found.1) (v.filters.className item.sourceName)))) := by
      refine logs_valueObject_bind fun m reported hb => ?_
      rw [← ClassModel.fqcn_addImport]
      exact logs_add fun c => .list _ hb
    simp only
    split
    · exact (logs_rawArrays _).bind fun _ _ => wrapped
    · exact wrapped

theorem logsDefinition_value (hd : IsScalar d) : LogsDefinition v ambient target d := by
  intro into className begins
  cases d with
  | string | integer | number | boolean =>
    rw [buildDefinition]
    exact logs_valueObject_bind fun m reported hb => logs_add fun c => .value hb
  | _ => cases hd

theorem logsDefinition_reference {pointer : String} {resolved : Option TypeSet} :
    LogsDefinition v ambient target (.reference traits pointer resolved) := by
  intro into className begins
  rw [buildDefinition]
  exact logs_throw _

theorem logsProperties_nil : LogsProperties v ambient target [] := by
  intro into
  rw [buildProperties]
  exact logs_pure into

theorem logsProperties_cons {key : String} {set : TypeSet} {rest : List (String × TypeSet)}
    (first : LogsProperty v ambient target set.first) (others : LogsProperties v ambient target rest) :
    LogsProperties v ambient target ((key, set) :: rest) := by
  intro into
  rw [buildProperties]
  exact (logs_noteUnion set).bind fun _ _ => (first key).bind fun _ _ => others _

theorem logsProperty_reference {pointer : String} {inner : TypeSet} (h : LogsSet v ambient target inner) :
    LogsProperty v ambient target (.reference traits pointer (some inner)) := by
  intro key
  rw [propertyClass]
  refine (logs_noteUnion inner).bind fun _ _ => ?_
  exact (h _ _ (begins_entity _ _)).bind fun _ _ => logs_pure _

theorem logsProperty_dangling {pointer : String} : LogsProperty v ambient target (.reference traits pointer none) := by
  intro key
  rw [propertyClass]
  exact logs_throw _

theorem logsProperty_object (h : LogsDefinition v ambient target (.object traits properties)) :
    LogsProperty v ambient target (.object traits properties) := by
  intro key
  rw [propertyClass]
  exact (h _ _ (begins_entity _ _)).bind fun _ _ => logs_pure _

theorem logsProperty_array {items : List TypeSet} (h : LogsDefinition v ambient target (.array traits items)) :
    LogsProperty v ambient target (.array traits items) := by
  intro key
  rw [propertyClass]
  exact (h _ _ (begins_entity _ _)).bind fun _ _ => logs_pure _

theorem logsProperty_value (hd : IsScalar d) : LogsProperty v ambient target d := by
  intro key
  cases d with
  | string | integer | number | boolean =>
    rw [propertyClass]
    refine logs_valueObject_bind fun m reported hb => ?_
    exact (logs_add fun c => .value hb).bind fun _ _ => logs_pure m.fqcn
  | _ => cases hd

/-! ## All levels -/

variable (v ambient target)

theorem logs_levels : Levels (LogsSet v ambient target) (LogsDefinition v ambient target)
    (LogsProperties v ambient target) (LogsProperty v ambient target) where
  set := logsSet
  object := logsDefinition_object
  array := logsDefinition_array
  reference := logsDefinition_reference
  value := logsDefinition_value
  nil := logsProperties_nil
  cons := logsProperties_cons
  propertyObject := logsProperty_object
  propertyArray := logsProperty_array
  propertyReference := logsProperty_reference
  propertyDangling := logsProperty_dangling
  propertyValue := logsProperty_value

theorem logsSet_all (set : TypeSet) : LogsSet v ambient target set := (logs_levels v ambient target).ofSet_all set

end SchemaClasses
