/-
The references of a document as a graph: a text leads to the node that its pointer selects, and from
there to every text that the lowering of that node meets when it follows none of them.
-/
import SchemaClasses.Proofs.Schema.Node
import Mathlib.Logic.Relation

namespace SchemaClasses.Schema

open Lowering

/-! ## The graph -/

/-- The lowering of what a text leads to: nothing for a text that is no local pointer and for one
whose pointer selects nothing. -/
def targetLowering? (root : Json) (target : String) : Option (Lowering TypeSet) :=
  (localPointer? target).bind fun pointer =>
    (root.select? pointer).map fun node => lowerNode node pointer (pointerName pointer)

/-- The lowering of what `target` leads to meets `next`. -/
def Edge (root : Json) (target next : String) : Prop :=
  ∃ s, targetLowering? root target = some s ∧ next ∈ s.targets

/-- A way of one edge or more from one text to another. -/
abbrev Path (root : Json) : String → String → Prop := Relation.TransGen (Edge root)

def OnCycle (root : Json) (target : String) : Prop := Path root target target

def Acyclic (root : Json) : Prop := ∀ target, ¬ OnCycle root target

/-- A text that may stay unresolved: it leads to nothing in the document, or it lies on a cycle. -/
def Excused (root : Json) (target : String) : Prop :=
  targetLowering? root target = none ∨ OnCycle root target

theorem targetLowering?_eq_none {root : Json} {target : String} : targetLowering? root target = none ↔
    localPointer? target = none ∨
      ∃ pointer, localPointer? target = some pointer ∧ root.select? pointer = none := by
  unfold targetLowering?
  cases localPointer? target <;> simp

theorem targetLowering?_eq_some {root : Json} {target : String} {s : Lowering TypeSet} :
    targetLowering? root target = some s ↔ ∃ pointer node, localPointer? target = some pointer ∧
      root.select? pointer = some node ∧ s = lowerNode node pointer (pointerName pointer) := by
  unfold targetLowering?
  simp only [Option.bind_eq_some_iff, Option.map_eq_some_iff]
  constructor
  · rintro ⟨pointer, hp, node, hn, rfl⟩
    exact ⟨pointer, node, hp, hn, rfl⟩
  · rintro ⟨pointer, node, hp, hn, rfl⟩
    exact ⟨pointer, hp, node, hn, rfl⟩

/-! ## Texts of the document -/

theorem refTexts_of_step {token : List Char} {json part : Json} (h : json.step? token = some part) :
    ∀ t ∈ refTexts part, t ∈ refTexts json := by
  intro t ht
  cases json with
  | object entries => exact refTexts_of_lookup h t ht
  | array items =>
    obtain ⟨i, -, hi⟩ := Option.bind_eq_some_iff.1 h
    exact refTexts_of_mem_items (List.mem_of_getElem? hi) t ht
  | _ => cases h

theorem refTexts_of_follow : ∀ {tokens : List (List Char)} {json part : Json},
    Json.follow? tokens json = some part → ∀ t ∈ refTexts part, t ∈ refTexts json
  | [], _, _, h, t, ht => by
    cases h
    exact ht
  | _ :: _, _, _, h, t, ht => by
    obtain ⟨next, hn, h⟩ := Option.bind_eq_some_iff.1 h
    exact refTexts_of_step hn t (refTexts_of_follow h t ht)

theorem refTexts_of_select {pointer : String} {root node : Json} (h : root.select? pointer = some node) :
    ∀ t ∈ refTexts node, t ∈ refTexts root := by
  obtain ⟨tokens, -, h⟩ := Option.bind_eq_some_iff.1 h
  exact refTexts_of_follow h

/-- What a text leads to asks only for texts of the document, and for the same ones whatever the
answers are. -/
theorem targetLowering?_steady {root : Json} {target : String} {s : Lowering TypeSet}
    (h : targetLowering? root target = some s) : Steady (· ∈ refTexts root) (fun _ => True) s := by
  obtain ⟨pointer, node, -, hn, rfl⟩ := targetLowering?_eq_some.1 h
  exact lowerNode_steady node pointer _ (refTexts_of_select hn)

theorem Edge.mem_refTexts {root : Json} {target next : String} (h : Edge root target next) :
    next ∈ refTexts root := by
  obtain ⟨s, hs, hm⟩ := h
  exact (targetLowering?_steady hs).keeps.mem_targets next hm

theorem OnCycle.mem_refTexts {root : Json} {target : String} (h : OnCycle root target) :
    target ∈ refTexts root := by
  obtain ⟨_, -, he⟩ := Relation.TransGen.tail'_iff.1 h
  exact he.mem_refTexts

end SchemaClasses.Schema
