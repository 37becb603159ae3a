/-
Chains of references. What a set and the items of a list are built from stands behind one reference at
most. The reference of a property is followed before its set is built, so that there a second one is
followed too.
-/
import SchemaClasses.Proofs.Class.Graph

namespace SchemaClasses

open Template

/-! ## What a build reaches -/

/-- Where a build reaches a definition. -/
inductive Place where
  | root
  | property
  | item

/-- A definition is reached on the way through first alternatives, at the root or further down. -/
inductive Reaches : TypeSet → Place → TypeDef → Prop
  | root {set : TypeSet} : Reaches set .root set.first
  | property {set : TypeSet} {traits : Traits} {properties : List (String × TypeSet)} {entry : String × TypeSet} :
      standsFor? set = some (.object traits properties) → entry ∈ properties → Reaches set .property entry.2.first
  | item {set items : TypeSet} {traits : Traits} {rest : List TypeSet} :
      standsFor? set = some (.array traits (items :: rest)) → Reaches set .item items.first
  | belowProperty {set : TypeSet} {traits : Traits} {properties : List (String × TypeSet)}
      {entry : String × TypeSet} {place : Place} {found : TypeDef} :
      standsFor? set = some (.object traits properties) → entry ∈ properties → place ≠ .root →
      Reaches (walked entry.2.first) place found → Reaches set place found
  | belowItem {set items : TypeSet} {traits : Traits} {rest : List TypeSet} {place : Place} {found : TypeDef} :
      standsFor? set = some (.array traits (items :: rest)) → place ≠ .root → Reaches items place found →
      Reaches set place found

/-- What the class of a definition at a place is built from. -/
def builtFrom? : Place → TypeDef → Option TypeDef
  | .property, d => standsFor? (walked d)
  | _, d => standsFor? ⟨d, []⟩

/-- A reference, wherever it leads. -/
def TypeDef.IsReference (d : TypeDef) : Prop := ∃ traits pointer resolved, d = .reference traits pointer resolved

theorem not_reference_of_standsFor {set : TypeSet} {d : TypeDef} (h : standsFor? set = some d) :
    ¬ d.IsReference := by
  rintro ⟨traits, pointer, resolved, rfl⟩
  obtain ⟨first, others⟩ := set
  cases first with
  | reference _ _ resolved =>
    cases resolved with
    | none => cases h
    | some inner =>
      obtain ⟨first, others⟩ := inner
      cases first <;> cases h
  | _ => cases h

theorem standsFor?_chain {inner : TypeSet} (chain : inner.first.IsReference) (traits : Traits) (pointer : String) :
    standsFor? ⟨.reference traits pointer (some inner), []⟩ = none := by
  obtain ⟨first, others⟩ := inner
  obtain ⟨_, _, _, rfl⟩ := chain
  rfl

/-! ## What is reported on the way -/

/-- What is reported of the alternatives behind the first one. -/
def narrowed (set : TypeSet) : List Event :=
  if 1 < set.count then [.unionNarrowed set.first.name set.count] else []

/-- What is reported on the way to what a set stands for. -/
def narrowedOnWay (set : TypeSet) : List Event :=
  narrowed set ++ match set.first with
    | .reference _ _ (some inner) => narrowed inner
    | _ => []

theorem BuildState.report_nil (s : BuildState) : s.report [] = s := by
  simp [BuildState.report]

theorem BuildState.report_report (s : BuildState) (events further : List Event) :
    (s.report events).report further = s.report (events ++ further) := by
  simp [BuildState.report]

section Runs

variable {v : ValueObjects} {ambient className : String} {into : ClassModel} {s s' : BuildState} {set : TypeSet}
  {d : TypeDef}

theorem runs_noteUnion_iff {done : Except GenerateError Unit} :
    Runs (Build.noteUnion set) s done s' ↔ done = .ok () ∧ s' = s.report (narrowed set) := by
  unfold Build.noteUnion narrowed
  split
  · exact Build.runs_report
  · rw [runs_pure, BuildState.report_nil]

theorem runs_resolveFirst_iff (h : standsFor? set = some d)
    {found : Except GenerateError { d : TypeDef // sizeOf d < sizeOf set }} :
    Runs (Build.resolveFirst set) s found s' ↔
      s' = s.report (narrowedOnWay set) ∧ found = .ok ⟨d, sizeOf_standsFor h⟩ := by
  obtain ⟨first, others⟩ := set
  cases first with
  | reference traits pointer resolved =>
    cases resolved with
    | none => cases h
    | some inner =>
      obtain ⟨first, others⟩ := inner
      cases first with
      | reference => cases h
      | _ =>
        cases h
        unfold Build.resolveFirst Build.throughReference
        simp [runs_noteUnion_iff, BuildState.report_report, narrowedOnWay]
  | _ =>
    cases h
    unfold Build.resolveFirst
    simp [runs_noteUnion_iff, narrowedOnWay]

/-- A set is built from what it stands for. -/
theorem runs_buildSet {outcome : Except GenerateError Unit} (h : standsFor? set = some d) :
    Runs (Build.buildSet v ambient into className set) s outcome s' ↔
      Runs (Build.buildDefinition v ambient into className d) (s.report (narrowedOnWay set)) outcome s' := by
  rw [Build.buildSet, runs_bind]
  simp [runs_resolveFirst_iff h]

/-- A definition that is no reference is built as it stands. -/
theorem runs_buildSet_single {outcome : Except GenerateError Unit} (h : standsFor? ⟨d, []⟩ = some d) :
    Runs (Build.buildSet v ambient into className ⟨d, []⟩) s outcome s' ↔
      Runs (Build.buildDefinition v ambient into className d) s outcome s' := by
  have silent : narrowedOnWay ⟨d, []⟩ = [] := by
    cases d with
    | reference => exact absurd ⟨_, _, _, rfl⟩ (not_reference_of_standsFor h)
    | _ => rfl
  rw [runs_buildSet h, silent, BuildState.report_nil]

end Runs

/-! ## Successful builds -/

section Successful

variable {v : ValueObjects} {ambient className key fqcn : String} {into m : ClassModel} {s s' : BuildState}
  {set : TypeSet} {d : TypeDef} {traits : Traits}

/-- A set can be built, from some state and under some name. -/
def CanBuild (v : ValueObjects) (ambient : String) (set : TypeSet) : Prop :=
  ∃ into className s s', Runs (Build.buildSet v ambient into className set) s (.ok ()) s'

theorem CanBuild.definition (h : CanBuild v ambient set) : ∃ d, standsFor? set = some d ∧
    ∃ into className s s', Runs (Build.buildDefinition v ambient into className d) s (.ok ()) s' := by
  obtain ⟨into, className, s, s', h⟩ := h
  rw [Build.buildSet] at h
  obtain ⟨⟨d, smaller⟩, s₁, hf, hd⟩ := runs_bind_ok.1 h
  exact ⟨d, (Build.runs_resolveFirst hf).1, into, className, s₁, s', hd⟩

/-- Where a property is built, so is the set of its class. -/
theorem canBuild_walked (h : Runs (Build.propertyClass v ambient key d) s (.ok fqcn) s') :
    CanBuild v ambient (walked d) := by
  match d with
  | .object .. | .array .. =>
    rw [Build.propertyClass] at h
    obtain ⟨_, _, hd, -⟩ := runs_bind_ok.1 h
    exact ⟨_, _, _, _, (runs_buildSet_single rfl).2 hd⟩
  | .reference _ _ none =>
    rw [Build.propertyClass] at h
    cases (runs_throw.1 h).1
  | .reference _ _ (some inner) =>
    rw [Build.propertyClass] at h
    simp only [runs_bind_ok] at h
    obtain ⟨_, _, -, _, _, hs, -⟩ := h
    exact ⟨_, _, _, _, hs⟩
  | .string .. | .integer _ | .number _ | .boolean _ =>
    rw [Build.propertyClass] at h
    simp only [runs_bind_ok] at h
    obtain ⟨_, _, hv, _, s₁, ha, -⟩ := h
    refine ⟨.entity "" "", key, s, s₁, (runs_buildSet_single rfl).2 ?_⟩
    rw [Build.buildDefinition]
    exact runs_bind_ok.2 ⟨_, _, hv, ha⟩

theorem canBuild_of_buildProperties : ∀ {properties : List (String × TypeSet)} {into : ClassModel} {s : BuildState},
    Runs (Build.buildProperties v ambient properties into) s (.ok m) s' →
    ∀ entry ∈ properties, CanBuild v ambient (walked entry.2.first)
  | [], _, _, _ => fun _ he => nomatch he
  | (key, set) :: rest, into, s, h => by
    rw [Build.buildProperties] at h
    simp only [runs_bind_ok] at h
    obtain ⟨_, _, -, _, _, hp, hr⟩ := h
    rw [List.forall_mem_cons]
    exact ⟨canBuild_walked hp, canBuild_of_buildProperties hr⟩

/-- An object is built only if the sets of its properties can be. -/
theorem CanBuild.property {properties : List (String × TypeSet)} (h : CanBuild v ambient set)
    (stands : standsFor? set = some (.object traits properties)) :
    ∀ entry ∈ properties, CanBuild v ambient (walked entry.2.first) := by
  obtain ⟨d, hd, into, className, s, s', h⟩ := h.definition
  obtain rfl := Option.some.inj (stands.symm.trans hd)
  rw [Build.buildDefinition] at h
  obtain ⟨m, s₁, hp, -⟩ := runs_bind_ok.1 h
  exact canBuild_of_buildProperties hp

/-- A list is built only if the set of its items can be. -/
theorem CanBuild.item {items : TypeSet} {rest : List TypeSet} (h : CanBuild v ambient set)
    (stands : standsFor? set = some (.array traits (items :: rest))) : CanBuild v ambient items := by
  obtain ⟨d, hd, into, className, s, s', h⟩ := h.definition
  obtain rfl := Option.some.inj (stands.symm.trans hd)
  rw [Build.buildDefinition] at h
  simp only [runs_bind_ok] at h
  obtain ⟨_, _, -, _, _, -, _, _, hs, -⟩ := h
  exact ⟨_, _, _, _, hs⟩

/-- Whatever a successful build reaches has something to be built from. -/
theorem Reaches.exists_builtFrom {place : Place} {found : TypeDef} (reached : Reaches set place found)
    (h : CanBuild v ambient set) : ∃ d, builtFrom? place found = some d := by
  induction reached with
  | root =>
    obtain ⟨d, hd, -⟩ := h.definition
    exact ⟨d, hd⟩
  | property stands he =>
    obtain ⟨d, hd, -⟩ := (h.property stands _ he).definition
    exact ⟨d, hd⟩
  | item stands =>
    obtain ⟨d, hd, -⟩ := (h.item stands).definition
    exact ⟨d, hd⟩
  | belowProperty stands he _ _ ih => exact ih (h.property stands _ he)
  | belowItem stands _ _ ih => exact ih (h.item stands)

end Successful

/-! ## Chains -/

section Chains

variable (v : ValueObjects) (ambient : String)

/-- A chain of references is refused unless it is a property's and something stands behind its second
reference. That is what the class of the property is then built from. -/
theorem buildSet_chain {set inner : TypeSet} {place : Place} {traits : Traits} {pointer : String}
    (reached : Reaches set place (.reference traits pointer (some inner))) (chain : inner.first.IsReference) :
    ((place = .property → standsFor? inner = none) → ∀ into className s, ∃ e s',
      Runs (Build.buildSet v ambient into className set) s (.error e) s') ∧
    ∀ d, standsFor? inner = some d → ∀ key s fqcn s',
      let name := nameOr inner.first.name (targetName pointer)
      Runs (Build.propertyClass v ambient key (.reference traits pointer (some inner))) s (.ok fqcn) s' ↔
        fqcn = qualify (extractNamespace ambient inner.first) (v.filters.className name) ∧
        Runs (Build.buildDefinition v ambient
          (.entity (v.filters.className name) (extractNamespace ambient inner.first)) name d)
          (s.report (narrowed inner ++ narrowedOnWay inner)) (.ok ()) s' := by
  refine ⟨fun refused into className s => ?_, fun d stands key s fqcn s' => ?_⟩
  · have nothing : builtFrom? place (.reference traits pointer (some inner)) = none := by
      cases place with
      | property => exact refused rfl
      | root | item => exact standsFor?_chain chain traits pointer
    rcases runs_total (Build.buildSet v ambient into className set) s with ⟨_, s', h⟩ | failed
    · obtain ⟨d, hd⟩ := reached.exists_builtFrom ⟨_, _, _, _, h⟩
      rw [nothing] at hd
      cases hd
    · exact failed
  · simp only
    rw [Build.propertyClass]
    simp only [runs_bind_ok, runs_noteUnion_iff, runs_buildSet stands, runs_pure]
    constructor
    · rintro ⟨_, _, ⟨-, rfl⟩, _, _, hd, ⟨⟩, rfl⟩
      rw [BuildState.report_report] at hd
      exact ⟨rfl, hd⟩
    · rintro ⟨rfl, hd⟩
      rw [← BuildState.report_report] at hd
      exact ⟨(), _, ⟨trivial, rfl⟩, (), _, hd, rfl, rfl⟩

end Chains

/-- A text behind two references. -/
def remoteText : TypeDef := .reference { name := "p" } "#/definitions/a"
  (some ⟨.reference { name := "a" } "#/definitions/b" (some ⟨.string { name := "b" } none none, []⟩), []⟩)

/-- The text has a class as a property, but is refused as it stands and as an item. -/
theorem buildSet_chain_remoteText :
    (∃ s, Runs (Build.buildSet ⟨conventionalNames, true, ""⟩ "App" (.entity "R" "App") "R"
      ⟨.object {} [("p", ⟨remoteText, []⟩)], []⟩) {} (.ok ()) s) ∧
    (∃ e s, Runs (Build.buildSet ⟨conventionalNames, true, ""⟩ "App" (.entity "R" "App") "R"
      ⟨remoteText, []⟩) {} (.error e) s) ∧
    ∃ e s, Runs (Build.buildSet ⟨conventionalNames, true, ""⟩ "App" (.entity "R" "App") "R"
      ⟨.array {} [⟨remoteText, []⟩], []⟩) {} (.error e) s := by
  have chain : (walked remoteText).first.IsReference := ⟨_, _, _, rfl⟩
  refine ⟨?_, ?_, ?_⟩
  · have reached : Reaches ⟨.object {} [("p", ⟨remoteText, []⟩)], []⟩ .property remoteText :=
      @Reaches.property _ {} _ ("p", ⟨remoteText, []⟩) rfl List.mem_cons_self
    have followed := (buildSet_chain ⟨conventionalNames, true, ""⟩ "App" reached chain).2 _ rfl
    have scalar : IsScalar (.string { name := "b" } none none) := trivial
    obtain ⟨m, reported, hm⟩ : ∃ m reported, ValueObjects.build ⟨conventionalNames, true, ""⟩
        (conventionalNames.className "a") (extractNamespace "App" (.string { name := "b" } none none))
        (.string { name := "b" } none none) = .ok (m, reported) := ⟨_, _, rfl⟩
    exact ⟨_, buildSet_single ((followed "p" {} _ _).2
      ⟨rfl, (runs_buildSet_single rfl).1 (buildSet_value scalar hm)⟩)⟩
  · have reached : Reaches ⟨remoteText, []⟩ .root remoteText := .root
    exact (buildSet_chain _ _ reached chain).1 nofun _ _ _
  · have reached : Reaches ⟨.array {} [⟨remoteText, []⟩], []⟩ .item remoteText :=
      @Reaches.item _ ⟨remoteText, []⟩ {} [] rfl
    exact (buildSet_chain _ _ reached chain).1 nofun _ _ _

end SchemaClasses
