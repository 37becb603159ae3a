/-
Unresolved references: where a type set has one, its text leads to nothing in the document or lies on
a cycle of the document's references.
-/
import SchemaClasses.Proofs.Lists
import SchemaClasses.Proofs.Schema.Table

namespace SchemaClasses.Schema

open Lowering

/-! ## Places in a type set -/

/-- A definition stands in a type set: as an alternative, in a property or an item of one, or in what
one refers to. -/
inductive Occurs (d : TypeDef) : TypeSet → Prop
  | here {set : TypeSet} : d ∈ set.toList → Occurs d set
  | property {set inner : TypeSet} {traits : Traits} {properties : List (String × TypeSet)} {key : String} :
      .object traits properties ∈ set.toList → (key, inner) ∈ properties → Occurs d inner → Occurs d set
  | item {set inner : TypeSet} {traits : Traits} {items : List TypeSet} :
      .array traits items ∈ set.toList → inner ∈ items → Occurs d inner → Occurs d set
  | target {set inner : TypeSet} {traits : Traits} {pointer : String} :
      .reference traits pointer (some inner) ∈ set.toList → Occurs d inner → Occurs d set

/-- A reference of this text stands unresolved in a type set. -/
def Unresolved (text : String) (set : TypeSet) : Prop :=
  ∃ traits, Occurs (.reference traits text none) set

/-- A reference of this text stands unresolved in one definition. -/
def UnresolvedIn (text : String) : TypeDef → Prop
  | .object _ properties => ∃ entry ∈ properties, Unresolved text entry.2
  | .array _ items => ∃ inner ∈ items, Unresolved text inner
  | .reference _ pointer none => pointer = text
  | .reference _ _ (some inner) => Unresolved text inner
  | .string .. | .integer _ | .number _ | .boolean _ => False

variable {text : String} {set : TypeSet}

theorem unresolved_iff : Unresolved text set ↔ ∃ d ∈ set.toList, UnresolvedIn text d := by
  constructor
  · rintro ⟨traits, h⟩
    cases h with
    | here hd => exact ⟨_, hd, rfl⟩
    | property hd hp h => exact ⟨_, hd, _, hp, traits, h⟩
    | item hd hi h => exact ⟨_, hd, _, hi, traits, h⟩
    | target hd h => exact ⟨_, hd, traits, h⟩
  · rintro ⟨d, hd, h⟩
    cases d with
    | object _ properties =>
      obtain ⟨⟨key, inner⟩, hp, traits, h⟩ := h
      exact ⟨traits, .property hd hp h⟩
    | array _ items =>
      obtain ⟨inner, hi, traits, h⟩ := h
      exact ⟨traits, .item hd hi h⟩
    | reference traits pointer resolved =>
      cases resolved with
      | none =>
        cases h
        exact ⟨traits, .here hd⟩
      | some inner =>
        obtain ⟨traits, h⟩ := h
        exact ⟨traits, .target hd h⟩
    | _ => cases h

theorem unresolvedIn_setRequired {required : Bool} {d : TypeDef} :
    UnresolvedIn text (d.setRequired required) ↔ UnresolvedIn text d := by
  cases d with
  | reference _ _ resolved => cases resolved <;> exact Iff.rfl
  | _ => exact Iff.rfl

theorem toList_map {α β : Type} (f : α → β) (a : Alternatives α) : (a.map f).toList = a.toList.map f := rfl

theorem unresolved_setRequired {required : Bool} :
    Unresolved text (set.map (TypeDef.setRequired required)) ↔ Unresolved text set := by
  rw [unresolved_iff, unresolved_iff, toList_map]
  simp only [List.mem_map, exists_exists_and_eq_and, unresolvedIn_setRequired]

/-! ## Where references stay unresolved -/

/-- All that stays unresolved at a reference with this answer is in `P`. -/
def Accounts (P : String → Prop) (target : String) : Option TypeSet → Prop
  | none => P target
  | some set => ∀ text, Unresolved text set → P text

/-- If every answer accounts for what stays unresolved, so does what a node yields. -/
theorem unresolved_of_yields {Q : String → Option TypeSet → Prop} {P : String → Prop}
    (hQ : ∀ t answer, Q t answer → Accounts P t answer)
    (json : Json) {pointer name : String} {set : TypeSet} (h : Yields Q (lowerNode json pointer name) set)
    {text : String} (hu : Unresolved text set) : P text := by
  obtain ⟨d, hd, hu⟩ := unresolved_iff.1 hu
  -- the parts of a node are smaller, and what stands behind a reference is left to its answer
  match json, yields_lowerNode h with
  | .object node, @YieldsNode.reference _ _ _ _ answer _ hq =>
    rw [Alternatives.toList, List.mem_singleton] at hd
    subst hd
    cases answer with
    | none =>
      cases hu
      exact hQ _ _ hq
    | some inner => exact hQ _ _ hq text hu
  | .object node, .kinds _ _ hk =>
    obtain ⟨kind, -, hy⟩ := exists_left_of_forall₂ hk hd
    cases hy with
    | object _ hp hs =>
      obtain ⟨entry, he, hu⟩ := hu
      obtain ⟨schema, hm, -, p, inner, hy, hi⟩ := exists_left_of_forall₂ hs he
      have := sizeOf_lt_of_propertySchemas hp hm
      rw [hi, unresolved_setRequired] at hu
      exact unresolved_of_yields hQ schema.2 hy hu
    | array hi hs =>
      obtain ⟨inner, hm, hu⟩ := hu
      obtain ⟨schema, hm, p, hy⟩ := exists_left_of_forall₂ hs hm
      have := sizeOf_lt_of_itemSchemas hi hm
      exact unresolved_of_yields hQ schema hy hu
    | _ => cases hu
termination_by sizeOf json
decreasing_by all_goals simp only [Json.object.sizeOf_spec]; omega

theorem Sound.missing {root : Json} : ∀ {table : Table} (_ : Sound root table) {target : String},
    table.lookup target = some none → targetLowering? root target = none
  | (head, answer) :: rest, ⟨hf, hs⟩, target, hl => by
    rcases lookup_cons_some hl with ⟨rfl, rfl⟩ | hl
    · exact hf
    · exact hs.missing hl

mutual

/-- The references that stay unresolved in what a sound table has are excused. -/
theorem Sound.excused {root : Json} : ∀ {table : Table} (_ : Sound root table) {target text : String}
    {set : TypeSet}, table.lookup target = some (some set) → Unresolved text set → Excused root text
  | (head, answer) :: rest, ⟨hf, hs⟩, target, text, set, hl, hu => by
    rcases lookup_cons_some hl with ⟨rfl, rfl⟩ | hl
    · obtain ⟨s, ht, hy⟩ := hf
      obtain ⟨pointer, node, -, -, rfl⟩ := targetLowering?_eq_some.1 ht
      -- the entry was made with answers of the table below it, which is shorter
      exact unresolved_of_yields (fun t answer ha => hs.accounts ha) node hy hu
    · exact hs.excused hl hu

theorem Sound.accounts {root : Json} {table : Table} (hs : Sound root table) {target : String}
    {answer : Option TypeSet} (ha : Answer root table target answer) : Accounts (Excused root) target answer := by
  rcases ha with ha | ⟨rfl, ha⟩
  · cases answer with
    | none => exact .inl (hs.missing ha)
    | some set => exact fun text hu => hs.excused ha hu
  · exact ha

end

end SchemaClasses.Schema
