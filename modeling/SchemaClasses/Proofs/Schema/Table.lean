/-
The table of known references. Every entry follows from the entries below it, which were there when
it was made; a reference that was answered by nothing leads to nothing or lies on a cycle, because the
texts in progress are those on the way to it.
-/
import SchemaClasses.Proofs.Schema.Resolution

namespace SchemaClasses.Schema

open Lowering

/-- The references that are known, each with what it leads to. -/
abbrev Table := List (String × Option TypeSet)

/-! ## What tables say -/

/-- What a reference may be answered: what the table says, or nothing if the text is excused. -/
def Answer (root : Json) (table : Table) (target : String) (answer : Option TypeSet) : Prop :=
  table.lookup target = some answer ∨ answer = none ∧ Excused root target

/-- An entry that follows from a table: what its text leads to, lowered with answers of the table. -/
def Follows (root : Json) (table : Table) (target : String) : Option TypeSet → Prop
  | none => targetLowering? root target = none
  | some set => ∃ s, targetLowering? root target = some s ∧ Yields (Answer root table) s set

/-- Every entry follows from the ones below it. -/
def Sound (root : Json) : Table → Prop
  | [] => True
  | (target, answer) :: rest => Follows root rest target answer ∧ Sound root rest

/-- No more is to be done for a reference: it leads to nothing, is in the table or is in progress. -/
def Settled (root : Json) (pending : List String) (table : Table) (target : String) : Prop :=
  targetLowering? root target = none ∨ (table.lookup target).isSome ∨ target ∉ pending

/-- What the texts of the table lead to meets settled references only, and has no faults. -/
def Closed (root : Json) (pending : List String) (table : Table) : Prop :=
  ∀ t, (table.lookup t).isSome → ∀ s, targetLowering? root t = some s →
    Keeps (Settled root pending table) (fun _ => False) s

/-- One table comes from another, the texts that are not pending being in progress: entries stay, and
nothing is said about those texts. -/
structure Extends (pending : List String) (table table' : Table) : Prop where
  keeps : ∀ t answer, table.lookup t = some answer → table'.lookup t = some answer
  apart : ∀ t ∉ pending, table'.lookup t = table.lookup t

/-- A reference that may be met: it stands in the document, and every text in progress is on the way
to it. -/
def Met (root : Json) (pending : List String) (target : String) : Prop :=
  target ∈ refTexts root ∧ ∀ t ∈ refTexts root, t ∉ pending → Path root t target

variable {root : Json} {pending : List String} {table table' table'' : Table} {target : String}
  {answer : Option TypeSet}

/-! ## Extensions -/

theorem Extends.refl : Extends pending table table := ⟨fun _ _ h => h, fun _ _ => rfl⟩

theorem Extends.trans (h : Extends pending table table') (h' : Extends pending table' table'') :
    Extends pending table table'' :=
  ⟨fun t answer ht => h'.keeps t answer (h.keeps t answer ht),
    fun t ht => (h'.apart t ht).trans (h.apart t ht)⟩

theorem Extends.cons (hl : table.lookup target = none) (hm : target ∈ pending) :
    Extends pending table ((target, answer) :: table) := by
  constructor
  · intro t known ht
    rw [List.lookup_cons]
    split
    · rename_i he
      rw [beq_iff_eq.1 he, hl] at ht
      cases ht
    · exact ht
  · intro t ht
    have : t ≠ target := by
      rintro rfl
      exact ht hm
    rw [List.lookup_cons, beq_eq_false_iff_ne.2 this]

theorem Extends.of_filter (h : Extends (pending.filter (· != target)) table table') :
    Extends pending table table' :=
  ⟨h.keeps, fun t ht => h.apart t fun hf => ht (List.mem_filter.1 hf).1⟩

theorem Extends.isSome {t : String} (h : Extends pending table table') (ht : (table.lookup t).isSome) :
    (table'.lookup t).isSome := by
  obtain ⟨answer, ha⟩ := Option.isSome_iff_exists.1 ht
  rw [h.keeps t answer ha]
  rfl

theorem Answer.extend (h : Extends pending table table') (ha : Answer root table target answer) :
    Answer root table' target answer :=
  ha.imp_left (h.keeps _ _)

theorem Settled.extend (h : Extends pending table table') (hs : Settled root pending table target) :
    Settled root pending table' target :=
  hs.imp_right fun hs => hs.imp_left h.isSome

theorem Settled.of_filter {t : String} (hl : (table'.lookup target).isSome)
    (h : ∀ t, (table.lookup t).isSome → (table'.lookup t).isSome)
    (hs : Settled root (pending.filter (· != target)) table t) : Settled root pending table' t := by
  rcases hs with hs | hs | hs
  · exact .inl hs
  · exact .inr (.inl (h t hs))
  · by_cases ht : t = target
    · subst ht
      exact .inr (.inl hl)
    · exact .inr (.inr fun hm => hs (List.mem_filter.2 ⟨hm, bne_iff_ne.2 ht⟩))

theorem Settled.filter {t : String} (hs : Settled root pending table t) :
    Settled root (pending.filter (· != target)) table t :=
  hs.imp_right fun hs => hs.imp_right fun ht hf => ht (List.mem_filter.1 hf).1

/-! ## Entries -/

/-- An entry of a sound table follows from a shorter sound table. -/
theorem Sound.exists_below : ∀ {table : Table} (_ : Sound root table) {target : String} {set : TypeSet},
    table.lookup target = some (some set) → ∃ below s, below.length < table.length ∧ Sound root below ∧
      targetLowering? root target = some s ∧ Yields (Answer root below) s set
  | (head, answer) :: rest, ⟨hf, hs⟩, target, set, hl => by
    rcases lookup_cons_some hl with ⟨rfl, rfl⟩ | hl
    · obtain ⟨s, ht, hy⟩ := hf
      exact ⟨rest, s, Nat.lt_succ_self _, hs, ht, hy⟩
    · obtain ⟨below, s, shorter, sound, ht, hy⟩ := hs.exists_below hl
      exact ⟨below, s, Nat.lt_succ_of_lt shorter, sound, ht, hy⟩

/-! ## What a resolution keeps -/

/-- A table in the middle of a resolution. -/
structure Valid (root : Json) (pending : List String) (table : Table) : Prop where
  sound : Sound root table
  closed : Closed root pending table

theorem Valid.nil : Valid root pending [] := ⟨trivial, fun _ h => by cases h⟩

theorem Valid.filter (h : Valid root pending table) :
    Valid root (pending.filter (· != target)) table :=
  ⟨h.sound, fun t ht s hs => (h.closed t ht s hs).mono (fun _ hu => hu.filter) fun _ he => he⟩

/-- A reference that leads to nothing is noted. -/
theorem Valid.missing (h : Valid root pending table) (hl : table.lookup target = none)
    (hm : target ∈ pending) (hn : targetLowering? root target = none) :
    Valid root pending ((target, none) :: table) := by
  refine ⟨⟨hn, h.sound⟩, fun t ht s hs => ?_⟩
  have extends' : Extends pending table ((target, none) :: table) := .cons hl hm
  by_cases he : t = target
  · subst he
    rw [hn] at hs
    cases hs
  · rw [List.lookup_cons, beq_eq_false_iff_ne.2 he] at ht
    exact (h.closed t ht s hs).mono (fun _ hu => hu.extend extends') fun _ he => he

/-- A reference whose target was lowered is noted. -/
theorem Valid.found {s : Lowering TypeSet} {set : TypeSet}
    (h : Valid root (pending.filter (· != target)) table) (hs : targetLowering? root target = some s)
    (hl : table.lookup target = none)
    (hy : Yields (fun t answer => Answer root table t answer ∧
      Settled root (pending.filter (· != target)) table t) s set) :
    Valid root pending ((target, some set) :: table) := by
  -- the text itself is no longer in progress, but the new entry settles it
  have settle : ∀ t, Settled root (pending.filter (· != target)) table t →
      Settled root pending ((target, some set) :: table) t := by
    refine fun t => Settled.of_filter (by rw [List.lookup_cons_self]; rfl) fun t ht => ?_
    exact Extends.isSome (.cons hl (List.mem_cons_self : target ∈ [target])) ht
  refine ⟨⟨⟨s, hs, hy.mono fun _ _ ha => ha.1⟩, h.sound⟩, fun t ht s' hs' => ?_⟩
  by_cases he : t = target
  · subst he
    rw [hs] at hs'
    cases hs'
    -- the answers behind `set` met no fault, so none do: the lowering of a target is steady
    exact (Alike.clear (targetLowering?_steady hs) hy).mono (fun u ⟨_, ha⟩ => settle u ha.2) fun _ hf => hf
  · rw [List.lookup_cons, beq_eq_false_iff_ne.2 he] at ht
    exact (h.closed t ht s' hs').mono settle fun _ hf => hf

/-- What a text in progress leads to may meet what it asks for. -/
theorem Met.next {s : Lowering TypeSet} (h : Met root pending target)
    (hs : targetLowering? root target = some s) :
    Keeps (Met root (pending.filter (· != target))) (fun _ => True) s := by
  refine (targetLowering?_steady hs).keeps_targets.mono (fun u hu => ?_) fun _ he => he
  have edge : Edge root target u := ⟨s, hs, hu⟩
  -- `target` itself is in progress now, one edge away; all others were so before
  refine ⟨edge.mem_refTexts, fun t ht hp => ?_⟩
  by_cases he : t = target
  · subst he
    exact .single edge
  · exact .tail (h.2 t ht fun hm => hp (List.mem_filter.2 ⟨hm, bne_iff_ne.2 he⟩)) edge

/-- A successful resolution leaves a valid table, which extends the one before it and has the answers
to all references on the way. -/
theorem Carries.valid {s : Lowering TypeSet} {st st' : ResolutionState}
    {outcome : Except GenerateError TypeSet} (h : Carries root pending s st outcome st') {set : TypeSet}
    (ho : outcome = .ok set) (met : Keeps (Met root pending) (fun _ => True) s)
    (valid : Valid root pending st.resolved) :
    Valid root pending st'.resolved ∧ Extends pending st.resolved st'.resolved ∧
      Yields (fun t answer => Answer root st'.resolved t answer ∧ Settled root pending st'.resolved t)
        s set := by
  induction h generalizing set with
  | done =>
    cases ho
    exact ⟨valid, .refl, rfl⟩
  | fault => cases ho
  | foreign hf _ ih =>
    -- a text that is no local pointer leads to nothing
    have nothing : targetLowering? root _ = none := targetLowering?_eq_none.2 (.inl hf)
    obtain ⟨valid', extends', yields⟩ := ih ho (met.2 none) valid
    exact ⟨valid', extends', none, ⟨.inr ⟨rfl, .inl nothing⟩, .inl nothing⟩, yields⟩
  | known _ hl _ ih =>
    obtain ⟨valid', extends', yields⟩ := ih ho (met.2 _) valid
    have hl := extends'.keeps _ _ hl
    exact ⟨valid', extends', _, ⟨.inl hl, .inr (.inl (by rw [hl]; rfl))⟩, yields⟩
  | inProgress _ hl hm _ ih =>
    obtain ⟨valid', extends', yields⟩ := ih ho (met.2 none) valid
    -- all that is in progress is on the way to the text that is met, and so is this text itself
    exact ⟨valid', extends', none, ⟨.inr ⟨rfl, .inr (met.1.2 _ met.1.1 hm)⟩, .inr (.inr hm)⟩, yields⟩
  | missing _ hl hm hn _ ih =>
    obtain ⟨valid', extends', yields⟩ := ih ho (met.2 none) (valid.missing hl hm hn)
    exact ⟨valid', (Extends.cons hl hm).trans extends', none,
      ⟨.inr ⟨rfl, .inl hn⟩, .inl hn⟩, yields⟩
  | failed => cases ho
  | @found pending target next st middle st' outcome s inner hl hm hs _ _ ih ih' =>
    obtain ⟨valid₁, extends₁, yields₁⟩ := ih rfl (met.1.next hs) valid.filter
    -- nothing was noted for the text while it was in progress
    have fresh : middle.resolved.lookup target = none := by
      rw [extends₁.apart target fun hf => bne_iff_ne.1 (List.mem_filter.1 hf).2 rfl, hl]
    obtain ⟨valid', extends', yields⟩ := ih' ho (met.2 (some inner)) (valid₁.found hs fresh yields₁)
    have looked := extends'.keeps target (some inner) List.lookup_cons_self
    exact ⟨valid', (extends₁.of_filter.trans (.cons fresh hm)).trans extends', some inner,
      ⟨.inl looked, .inr (.inl (by rw [looked]; rfl))⟩, yields⟩

/-! ## Whole documents -/

theorem carries_of_parse (document : Json) (name : String) : ∃ st outcome,
    Carries document (refTexts document) (lowerNode document "" name) {} outcome st ∧
      parse document name = (outcome.map (·.map (TypeDef.setRequired true)), st.events) :=
  ⟨_, _, carries_of_runs _ _ rfl, rfl⟩

/-- The references of the top level may be met, since nothing is in progress. -/
theorem met_document (document : Json) (name : String) :
    Keeps (Met document (refTexts document)) (fun _ => True) (lowerNode document "" name) :=
  (lowerNode_steady document "" name fun _ ht => ⟨ht, fun _ hu hn => absurd hu hn⟩).keeps

/-- A reference that leads to nothing or is in the table. -/
def Known (root : Json) (table : Table) (target : String) : Prop :=
  targetLowering? root target = none ∨ (table.lookup target).isSome

/-- A table that a document was lowered with: it is sound, and from what is known no fault and nothing
unknown is met. -/
structure Complete (root : Json) (table : Table) : Prop where
  sound : Sound root table
  closed : ∀ t, Known root table t → ∀ s, targetLowering? root t = some s →
    Keeps (Known root table) (fun _ => False) s

theorem Settled.known (hs : Settled root (refTexts root) table target) (ht : target ∈ refTexts root) :
    Known root table target := by
  rcases hs with hs | hs | hs
  · exact .inl hs
  · exact .inr hs
  · exact absurd ht hs

theorem Valid.complete (h : Valid root (refTexts root) table) : Complete root table := by
  refine ⟨h.sound, fun t ht s hs => ?_⟩
  rcases ht with ht | ht
  · rw [ht] at hs
    cases hs
  · exact ((h.closed t ht s hs).and (targetLowering?_steady hs).keeps).mono
      (fun _ hu => hu.1.known hu.2) fun _ he => he.1

/-- A document that can be lowered has a complete table with the answers to all of its references. -/
theorem exists_table {document : Json} {name : String} {set : TypeSet}
    (h : (parse document name).1 = .ok set) : ∃ table base, Complete document table ∧
      Yields (fun t answer => Answer document table t answer ∧ Known document table t)
        (lowerNode document "" name) base ∧ set = base.map (TypeDef.setRequired true) := by
  obtain ⟨st, outcome, run, hp⟩ := carries_of_parse document name
  rw [hp] at h
  cases outcome with
  | error e => cases h
  | ok base =>
    cases h
    obtain ⟨valid, -, yields⟩ := run.valid rfl (met_document document name) .nil
    refine ⟨st.resolved, base, valid.complete, ?_, rfl⟩
    exact (yields.and_keeps (met_document document name)).mono
      fun _ _ h => ⟨h.1.1, h.1.2.known h.2.1⟩

end SchemaClasses.Schema
