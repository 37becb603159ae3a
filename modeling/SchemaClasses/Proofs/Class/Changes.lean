/-
Collections as what their changes leave. A class is put under its name or gains a member where it stands, and the
changes in order say all about the collection: names stand where they first came, and under each name is the class
that was put there last, with the members that it has gained since.
-/
import SchemaClasses.Proofs.Class.Collection

namespace SchemaClasses

/-! ## Members -/

/-- A member that a class gains. -/
inductive NewMember where
  | method (m : Method)
  | constant (k : Constant)

/-- The class with one more member, in the place of an earlier one of its name. -/
def ClassModel.gain (c : ClassModel) : NewMember → ClassModel
  | .method m => c.addMethod m
  | .constant k => c.addConstant k

/-- The class with more members. -/
def ClassModel.gainAll (c : ClassModel) (members : List NewMember) : ClassModel := members.foldl ClassModel.gain c

namespace ClassModel

variable (c : ClassModel)

theorem gainAll_methods (ms : List Method) : c.gainAll (ms.map .method) = c.addMethods ms := by
  rw [gainAll, List.foldl_map]
  rfl

theorem gainAll_constants (ks : List Constant) : c.gainAll (ks.map .constant) = ks.foldl addConstant c := by
  rw [gainAll, List.foldl_map]
  rfl

/-- A class with more members is the same class in everything else. -/
theorem gainAll_eq : ∀ (members : List NewMember) (c : ClassModel), c.gainAll members =
    { c with methods := (c.gainAll members).methods, constants := (c.gainAll members).constants }
  | [], _ => rfl
  | member :: rest, c => by
    show (c.gain member).gainAll rest = _
    rw [gainAll_eq rest]
    cases member <;> rfl

theorem fqcn_gainAll (members : List NewMember) : (c.gainAll members).fqcn = c.fqcn := by
  rw [gainAll_eq]
  rfl

end ClassModel

/-! ## Changes -/

/-- What happens to a collection. -/
inductive Change where
  | put (model : ClassModel)
  | gain (fqcn : String) (member : NewMember)

namespace Change

/-- The collection after a change. -/
def apply (c : Collection) : Change → Collection
  | put model => c.add model
  | gain fqcn member => c.adjust fqcn (·.gain member)

/-- The name that a class is put under. -/
def putName? : Change → Option String
  | put model => some model.fqcn
  | gain .. => none

/-- The member that the class of a name gains. -/
def gained? (fqcn : String) : Change → Option NewMember
  | put _ => none
  | gain other member => if other = fqcn then some member else none

end Change

/-- The collection after changes in order. -/
def Collection.replay (c : Collection) (changes : List Change) : Collection := changes.foldl Change.apply c

/-- The names that classes are put under, in order. -/
def putNames (changes : List Change) : List String := changes.filterMap Change.putName?

/-- The members that the class of a name gains, in order. -/
def gainedBy (fqcn : String) (changes : List Change) : List NewMember := changes.filterMap (Change.gained? fqcn)

namespace Collection

variable {c : Collection} {changes rest : List Change} {fqcn : String} {m : ClassModel}

theorem replay_append (c : Collection) (before after : List Change) :
    c.replay (before ++ after) = (c.replay before).replay after :=
  List.foldl_append

theorem putNames_append (before after : List Change) : putNames (before ++ after) = putNames before ++ putNames after :=
  List.filterMap_append

/-! ## Keys and names -/

theorem Keyed.apply (h : c.Keyed) (change : Change) : (change.apply c).Keyed := by
  cases change with
  | put model => exact h.add model
  | gain fqcn member => exact h.adjust fun m => m.fqcn_gainAll [member]

theorem Keyed.replay (h : c.Keyed) (changes : List Change) : (c.replay changes).Keyed := by
  induction changes generalizing c with
  | nil => exact h
  | cons change rest ih => exact ih (h.apply change)

/-- The names stand where they first came. -/
theorem names_replay (changes : List Change) : (replay {} changes).names = (putNames changes).eraseDups := by
  -- the names depend on what is put only, so that they are those of entries without values
  have bare : (replay {} changes).names = (Entries.ofPairs ((putNames changes).map (·, ()))).names := by
    induction changes using List.reverseRecOn with
    | nil => rfl
    | append_singleton before change ih =>
      rw [replay_append, putNames_append, List.map_append]
      cases change with
      | put model =>
        show ((replay {} before).add model).names = (Entries.ofPairs (_ ++ [(model.fqcn, ())])).names
        rw [names_add, ih, Entries.ofPairs_concat, Entries.names_put]
      | gain fqcn member =>
        have none : putNames [.gain fqcn member] = [] := rfl
        rw [none, List.map_nil, List.append_nil, ← ih]
        exact names_adjust _ _ _
  rw [bare, Entries.names_ofPairs, List.map_map]
  exact congrArg _ (List.map_id _)

/-! ## What stands under a name -/

theorem get?_apply (change : Change) (other : change.putName? ≠ some fqcn) :
    (change.apply c).get? fqcn = (c.get? fqcn).map (·.gainAll (gainedBy fqcn [change])) := by
  cases change with
  | put model =>
    have other : ¬ fqcn = model.fqcn := fun he => other (congrArg some he.symm)
    show (c.add model).get? fqcn = (c.get? fqcn).map id
    rw [get?_add, if_neg other, Option.map_id]
    rfl
  | gain name member =>
    show (c.adjust name (·.gain member)).get? fqcn = _
    rw [get?_adjust]
    by_cases own : fqcn = name
    · subst own
      rw [if_pos rfl]
      simp [gainedBy, Change.gained?, ClassModel.gainAll]
    · rw [if_neg own]
      have other : name ≠ fqcn := fun he => own he.symm
      simp [gainedBy, Change.gained?, ClassModel.gainAll, other]

theorem gainedBy_append (fqcn : String) (before after : List Change) :
    gainedBy fqcn (before ++ after) = gainedBy fqcn before ++ gainedBy fqcn after :=
  List.filterMap_append

/-- A class stays under its name with what it gains, as long as no other class is put there. -/
theorem get?_replay : ∀ (changes : List Change) (c : Collection), fqcn ∉ putNames changes →
    (c.replay changes).get? fqcn = (c.get? fqcn).map (·.gainAll (gainedBy fqcn changes))
  | [], _, _ => Option.map_id'.symm
  | change :: rest, c, other => by
    rw [← List.singleton_append, putNames_append, List.mem_append, not_or] at other
    have first : change.putName? ≠ some fqcn := fun he => other.1 (by simp [putNames, he])
    show ((change.apply c).replay rest).get? fqcn = _
    have parts : gainedBy fqcn (change :: rest) = gainedBy fqcn [change] ++ gainedBy fqcn rest :=
      gainedBy_append fqcn [change] rest
    rw [get?_replay rest _ other.2, get?_apply change first, Option.map_map, parts]
    congr 1
    funext m
    exact List.foldl_append.symm

/-- Changes up to the last class that is put under a name. -/
theorem exists_last_put_of_mem : ∀ {changes : List Change}, fqcn ∈ putNames changes →
    ∃ before model after, changes = before ++ .put model :: after ∧ model.fqcn = fqcn ∧ fqcn ∉ putNames after
  | [], h => by cases h
  | change :: rest, h => by
    by_cases later : fqcn ∈ putNames rest
    · obtain ⟨before, model, after, rfl, named, last⟩ := exists_last_put_of_mem later
      exact ⟨change :: before, model, after, rfl, named, last⟩
    · rw [← List.singleton_append, putNames_append] at h
      have first := (List.mem_append.1 h).resolve_right later
      cases change with
      | put model => exact ⟨[], model, rest, rfl, (List.mem_singleton.1 first).symm, later⟩
      | gain => cases first

/-- Under a name stands the class that was put there last, with what it has gained since. -/
theorem exists_last_put (h : (replay {} changes).get? fqcn = some m) :
    ∃ before model after, changes = before ++ .put model :: after ∧ model.fqcn = fqcn ∧
      fqcn ∉ putNames after ∧ m = model.gainAll (gainedBy fqcn after) := by
  by_cases put : fqcn ∈ putNames changes
  · obtain ⟨before, model, after, rfl, named, last⟩ := exists_last_put_of_mem put
    refine ⟨before, model, after, rfl, named, last, ?_⟩
    rw [replay_append] at h
    have h : (((replay {} before).add model).replay after).get? fqcn = some m := h
    rw [get?_replay after _ last, ← named, get?_add_self] at h
    rw [← named]
    exact (Option.some.inj h).symm
  · rw [get?_replay changes {} put] at h
    cases h

/-- No class ever goes, and where no other one is put under its name it keeps its name, its namespace and its kind. -/
theorem exists_get?_replay (changes : List Change) {c : Collection} (h : c.get? fqcn = some m) :
    ∃ m', (c.replay changes).get? fqcn = some m' ∧
      (fqcn ∉ putNames changes → m'.name = m.name ∧ m'.space = m.space ∧ m'.kind = m.kind) := by
  by_cases put : fqcn ∈ putNames changes
  · obtain ⟨before, model, after, rfl, named, last⟩ := exists_last_put_of_mem put
    refine ⟨model.gainAll (gainedBy fqcn after), ?_, fun none => absurd put none⟩
    rw [replay_append]
    show (((c.replay before).add model).replay after).get? fqcn = _
    rw [get?_replay after _ last, ← named, get?_add_self]
    rfl
  · refine ⟨m.gainAll (gainedBy fqcn changes), ?_, fun _ => ?_⟩
    · rw [get?_replay changes c put, h]
      rfl
    · rw [ClassModel.gainAll_eq]
      exact ⟨rfl, rfl, rfl⟩

/-! ## Members for all classes -/

theorem names_replay_of_gains : ∀ (changes : List Change) (c : Collection), putNames changes = [] →
    (c.replay changes).names = c.names
  | [], _, _ => rfl
  | .put _ :: _, _, h => by cases h
  | .gain fqcn member :: rest, c, h => by
    show ((c.adjust fqcn (·.gain member)).replay rest).names = _
    rw [names_replay_of_gains rest _ h, names_adjust]

/-- The changes that give members to every class of a collection. -/
def gains (members : ClassModel → List NewMember) (c : Collection) : List Change :=
  c.classes.flatMap fun entry => (members entry.2).map (.gain entry.1)

theorem putNames_gains (members : ClassModel → List NewMember) (c : Collection) : putNames (c.gains members) = [] := by
  unfold putNames gains
  rw [List.filterMap_eq_nil_iff]
  intro change hc
  obtain ⟨entry, -, hm⟩ := List.mem_flatMap.1 hc
  obtain ⟨member, -, rfl⟩ := List.mem_map.1 hm
  rfl

theorem gainedBy_map_gain (fqcn name : String) (members : List NewMember) :
    gainedBy fqcn (members.map (.gain name)) = if fqcn = name then members else [] := by
  unfold gainedBy
  rw [List.filterMap_map]
  by_cases own : fqcn = name
  · simp [Change.gained?, own]
  · simp [Function.comp_def, Change.gained?, own, Ne.symm own]

theorem gainedBy_flatMap (members : ClassModel → List NewMember) : ∀ {classes : Entries ClassModel},
    classes.Distinct → gainedBy fqcn (classes.flatMap fun entry => (members entry.2).map (.gain entry.1)) =
      ((classes.at? fqcn).map members).getD []
  | [], _ => rfl
  | (name, first) :: rest, distinct => by
    obtain ⟨fresh, distinct⟩ := List.nodup_cons.1 distinct
    rw [List.flatMap_cons, gainedBy_append, gainedBy_map_gain, gainedBy_flatMap members distinct, Entries.at?_cons]
    split
    -- the name comes in no other entry
    · rename_i own
      rw [own, Entries.at?_eq_none_iff.2 fresh]
      exact List.append_nil _
    · rfl

/-- Giving members to every class changes each one where it stands. -/
theorem Keyed.replay_gains (h : c.Keyed) (members : ClassModel → List NewMember) :
    c.replay (c.gains members) = c.mapClasses fun m => m.gainAll (members m) := by
  have classes : (c.replay (c.gains members)).classes = (c.mapClasses fun m => m.gainAll (members m)).classes := by
    refine Entries.eq_of_at? (h.replay _).distinct ?_ fun fqcn => ?_
    · exact (names_replay_of_gains _ c (putNames_gains members c)).trans (names_mapClasses c _).symm
    · have gained : (c.replay (c.gains members)).get? fqcn = _ :=
        get?_replay (c.gains members) c (putNames_gains members c ▸ List.not_mem_nil)
      have mapped : (c.mapClasses fun m => m.gainAll (members m)).get? fqcn = _ := get?_mapClasses
      refine gained.trans (Eq.trans ?_ mapped.symm)
      cases hm : c.get? fqcn with
      | none => rfl
      | some m =>
        have found : c.classes.at? fqcn = some m := hm
        rw [Option.map_some, Option.map_some, gains, gainedBy_flatMap members h.distinct, found]
        rfl
  exact congrArg Collection.mk classes

end Collection

end SchemaClasses
