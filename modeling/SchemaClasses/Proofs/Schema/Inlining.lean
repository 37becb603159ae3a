/-
Plain inlining: every reference replaced by what it leads to, with nothing remembered and no watch for
circles. A budget takes the place of an ending. Where no reference lies on a cycle, a budget that is
large enough makes inlining and resolution agree, on faults as well.
-/
import SchemaClasses.Proofs.Schema.Unresolved
import Mathlib

namespace SchemaClasses.Schema

open Lowering

/-! ## Inlining -/

/-- What a reference leads to, every reference in it replaced likewise. The budget bounds how deep
references lie in each other; no outcome means that it was too small. -/
def inline (root : Json) : Nat → String → ExceptT GenerateError Option (Option TypeSet)
  | 0, _ => ExceptT.mk none
  | budget + 1, target =>
    match targetLowering? root target with
    | none => pure none
    | some s => some <$> s.runWith (inline root budget)

/-- The type set of a document with its references inlined. -/
def inlineDocument (document : Json) (name : String) (budget : Nat) :
    Option (Except GenerateError TypeSet) :=
  ((lowerNode document "" name).runWith (inline document budget)).run.map
    (·.map (·.map (TypeDef.setRequired true)))

/-- With a budget that is large enough, an action has the outcome. -/
def Comes {α : Type} (action : Nat → ExceptT GenerateError Option α) (outcome : Except GenerateError α) :
    Prop :=
  ∃ enough, ∀ budget ≥ enough, (action budget).run = some outcome

variable {root : Json}

theorem comes_none {target : String} (h : targetLowering? root target = none) :
    Comes (inline root · target) (.ok none) := by
  refine ⟨1, fun budget hb => ?_⟩
  obtain ⟨budget, rfl⟩ := Nat.exists_eq_add_of_le' hb
  simp only [inline, h]
  rfl

theorem comes_some {target : String} {s : Lowering TypeSet} {outcome : Except GenerateError TypeSet}
    (h : targetLowering? root target = some s) (hs : Comes (fun budget => s.runWith (inline root budget)) outcome) :
    Comes (inline root · target) (outcome.map some) := by
  obtain ⟨enough, hs⟩ := hs
  refine ⟨enough + 1, fun budget hb => ?_⟩
  obtain ⟨budget, rfl⟩ := Nat.exists_eq_add_of_le' (Nat.le_trans (Nat.le_add_left 1 enough) hb)
  simp only [inline, h]
  rw [ExceptT.run_map, hs budget (by omega)]
  rfl

theorem comes_follow {target : String} {next : Option TypeSet → Lowering TypeSet} {answer : Option TypeSet}
    {outcome : Except GenerateError TypeSet} (ht : Comes (inline root · target) (.ok answer))
    (hn : Comes (fun budget => (next answer).runWith (inline root budget)) outcome) :
    Comes (fun budget => (follow target next).runWith (inline root budget)) outcome := by
  obtain ⟨enough, ht⟩ := ht
  obtain ⟨enough', hn⟩ := hn
  refine ⟨max enough enough', fun budget hb => ?_⟩
  simp only [runWith]
  rw [ExceptT.run_bind, ht budget (by omega)]
  exact hn budget (by omega)

theorem comes_follow_error {target : String} {next : Option TypeSet → Lowering TypeSet} {e : GenerateError}
    (ht : Comes (inline root · target) (.error e)) :
    Comes (fun budget => (follow target next).runWith (inline root budget)) (.error e) := by
  obtain ⟨enough, ht⟩ := ht
  refine ⟨enough, fun budget hb => ?_⟩
  simp only [runWith]
  rw [ExceptT.run_bind, ht budget hb]
  rfl

/-- Carrying out a lowering comes to the same as inlining, and the table stays one of inlined
references. -/
theorem Carries.comes {pending : List String} {s : Lowering TypeSet} {st st' : ResolutionState}
    {outcome : Except GenerateError TypeSet} (acyclic : Acyclic root)
    (h : Carries root pending s st outcome st') (met : Keeps (Met root pending) (fun _ => True) s)
    (known : ∀ t answer, st.resolved.lookup t = some answer → Comes (inline root · t) (.ok answer)) :
    Comes (fun budget => s.runWith (inline root budget)) outcome ∧
      ∀ t answer, st'.resolved.lookup t = some answer → Comes (inline root · t) (.ok answer) := by
  induction h with
  | done => exact ⟨⟨0, fun _ _ => rfl⟩, known⟩
  | fault => exact ⟨⟨0, fun _ _ => rfl⟩, known⟩
  | foreign hf _ ih =>
    obtain ⟨comes, known'⟩ := ih (met.2 none) known
    exact ⟨comes_follow (comes_none (targetLowering?_eq_none.2 (.inl hf))) comes, known'⟩
  | known _ hl _ ih =>
    obtain ⟨comes, known'⟩ := ih (met.2 _) known
    exact ⟨comes_follow (known _ _ hl) comes, known'⟩
  -- a text in progress that is met again lies on a cycle
  | inProgress _ _ hm _ _ => exact absurd (met.1.2 _ met.1.1 hm) (acyclic _)
  | missing _ _ _ hn _ ih =>
    obtain ⟨comes, known'⟩ := ih (met.2 none) fun t answer hl => by
      rcases lookup_cons_some hl with ⟨rfl, rfl⟩ | hl
      · exact comes_none hn
      · exact known t answer hl
    exact ⟨comes_follow (comes_none hn) comes, known'⟩
  | failed _ _ hs _ ih =>
    obtain ⟨comes, known'⟩ := ih (met.1.next hs) known
    exact ⟨comes_follow_error (comes_some hs comes), known'⟩
  | found _ _ hs _ _ ih ih' =>
    obtain ⟨comes, known₁⟩ := ih (met.1.next hs) known
    have target := comes_some hs comes
    -- from here on the table has the target as well
    obtain ⟨comes', known'⟩ := ih' (met.2 _) fun t answer hl => by
      rcases lookup_cons_some hl with ⟨rfl, rfl⟩ | hl
      · exact target
      · exact known₁ t answer hl
    exact ⟨comes_follow target comes', known'⟩

/-! ## Whole documents -/

/-- Only a reference that leads to nothing or lies on a cycle stays unresolved; where there are no
cycles, resolving references is inlining them. -/
theorem parse_resolves (document : Json) (name : String) :
    (∀ set, (parse document name).1 = .ok set →
      ∀ traits text, Occurs (.reference traits text none) set →
        localPointer? text = none ∨
          (∃ pointer, localPointer? text = some pointer ∧ document.select? pointer = none) ∨
          OnCycle document text) ∧
      (Acyclic document → ∃ enough, ∀ budget ≥ enough,
        inlineDocument document name budget = some (parse document name).1) := by
  constructor
  · intro set h traits text hu
    obtain ⟨table, base, complete, yields, rfl⟩ := exists_table h
    have hu : Unresolved text base := unresolved_setRequired.1 ⟨traits, hu⟩
    have excused := unresolved_of_yields (fun t answer ha => complete.sound.accounts ha.1) document yields hu
    rcases excused with hn | hc
    · exact (targetLowering?_eq_none.1 hn).imp_right .inl
    · exact .inr (.inr hc)
  · intro acyclic
    obtain ⟨st, outcome, run, hp⟩ := carries_of_parse document name
    obtain ⟨⟨enough, comes⟩, -⟩ := run.comes acyclic (met_document document name) fun _ _ h => by cases h
    refine ⟨enough, fun budget hb => ?_⟩
    rw [inlineDocument, comes budget hb, hp]
    rfl

/-- A document with a reference to a string and one into another document. -/
def aliases : Json := .object
  [("properties", .object
    [("near", .object [("$ref", .string "#/definitions/text")]), ("far", .object [("$ref", .string "far.json")])]),
    ("definitions", .object [("text", .object [("type", .string "string")])])]

theorem acyclic_aliases : Acyclic aliases := by
  intro target cycle
  have hm : target = "#/definitions/text" ∨ target = "far.json" := by
    have hm := cycle.mem_refTexts
    have texts : refTexts aliases = ["#/definitions/text", "far.json"] := by cbv
    simpa [texts] using hm
  obtain ⟨next, ⟨s, hs, hn⟩, -⟩ := Relation.TransGen.head'_iff.1 cycle
  rcases hm with rfl | rfl
  · have found : targetLowering? aliases "#/definitions/text" =
        some (.done ⟨.string { name := "text" } none none, []⟩) := by cbv
    rw [found] at hs
    cases hs
    cases hn
  · have nothing : targetLowering? aliases "far.json" = none := by cbv
    rw [nothing] at hs
    cases hs

theorem parse_resolves_aliases :
    (localPointer? "far.json" = none ∨
      (∃ pointer, localPointer? "far.json" = some pointer ∧ aliases.select? pointer = none) ∨
      OnCycle aliases "far.json") ∧
    ∃ enough, ∀ budget ≥ enough, inlineDocument aliases "root" budget = some (parse aliases "root").1 := by
  have parsed : (parse aliases "root").1 = .ok ⟨.object { name := "root", required := true }
      [("near", ⟨.reference { name := "near" } "#/definitions/text"
        (some ⟨.string { name := "text" } none none, []⟩), []⟩),
        ("far", ⟨.reference { name := "far" } "far.json" none, []⟩)], []⟩ := by cbv
  refine ⟨(parse_resolves aliases "root").1 _ parsed { name := "far" } "far.json" ?_,
    (parse_resolves aliases "root").2 acyclic_aliases⟩
  exact .property (List.mem_singleton_self _) (List.mem_cons_of_mem _ (List.mem_singleton_self _))
    (.here (List.mem_singleton_self _))

end SchemaClasses.Schema
