/-
Type sets that are the same but for the order of properties, at any depth.
-/
import SchemaClasses.Proofs.Schema.Agreement

namespace SchemaClasses

/-- Two definitions are the same but for the order of properties, their own or those of any object below. -/
abbrev TypeDef.Permuted : TypeDef → TypeDef → Prop := TypeDef.Agrees List.Perm fun _ => False

/-- Two type sets are the same but for the order of properties. -/
abbrev TypeSet.Permuted : TypeSet → TypeSet → Prop := TypeSet.Agrees List.Perm fun _ => False

variable {d d' : TypeDef} {set set' : TypeSet} {properties properties' : List (String × TypeSet)}
  {filter : String → String}

theorem TypeDef.Permuted.traits_eq (h : d.Permuted d') : d.traits = d'.traits := by
  cases h <;> rfl

theorem TypeSet.Permuted.first (h : TypeSet.Permuted set set') : set.first.Permuted set'.first :=
  (List.forall₂_cons.1 h).1

/-- A single definition agrees if the sets of it do. -/
theorem permuted_single (h : d.Permuted d') : TypeSet.Permuted ⟨d, []⟩ ⟨d', []⟩ := .cons h .nil

theorem sizeOf_lt_of_mem_toList (h : d ∈ set.toList) : sizeOf d < sizeOf set := by
  obtain ⟨first, others⟩ := set
  rw [Alternatives.mk.sizeOf_spec]
  rcases List.mem_cons.1 h with rfl | h
  · omega
  · have := @List.sizeOf_lt_of_mem _ d _ others h
    omega

theorem TypeDef.Permuted.symm {d d' : TypeDef} (h : d.Permuted d') : d'.Permuted d := by
  have flip : ∀ {set set' : TypeSet}, sizeOf set < sizeOf d → TypeSet.Permuted set set' →
      TypeSet.Permuted set' set := fun smaller h =>
    forall₂_join h (List.forall₂_same.2 fun _ _ => rfl) fun part hp other _ same he => by
      have := sizeOf_lt_of_mem_toList hp
      exact he ▸ symm same
  cases h with
  | @object traits properties properties' perm _ values =>
    refine .object perm.symm (.inr perm.symm) fun key set set' hm hm' => flip ?_ (values key set' set hm' hm)
    have := List.sizeOf_lt_of_mem hm'
    simp only [Prod.mk.sizeOf_spec, TypeDef.object.sizeOf_spec] at this ⊢
    omega
  | @array traits items items' same =>
    refine .array (forall₂_join same (List.forall₂_same.2 fun _ _ => rfl) fun set hs set' _ same he => ?_)
    have := List.sizeOf_lt_of_mem hs
    refine he ▸ flip ?_ same
    simp only [TypeDef.array.sizeOf_spec]
    omega
  | string => exact .string ..
  | integer => exact .integer _
  | number => exact .number _
  | boolean => exact .boolean _
  | unresolved => exact .unresolved ..
  | resolved same =>
    refine .resolved (flip ?_ same)
    simp only [TypeDef.reference.sizeOf_spec, Option.some.sizeOf_spec]
    omega
  | first loose | second loose => exact loose.elim
termination_by sizeOf d

theorem TypeSet.Permuted.symm (h : TypeSet.Permuted set set') : TypeSet.Permuted set' set :=
  forall₂_join h (List.forall₂_same.2 fun _ _ => rfl) fun _ _ _ _ same he => he ▸ TypeDef.Permuted.symm same

/-! ## Parts -/

theorem exists_property_of_perm (perm : (properties.map Prod.fst).Perm (properties'.map Prod.fst)) {key : String}
    (hm : (key, set) ∈ properties) : ∃ set', (key, set') ∈ properties' := by
  obtain ⟨⟨_, set'⟩, hm', rfl⟩ := List.mem_map.1 (perm.mem_iff.1 (List.mem_map_of_mem hm))
  exact ⟨set', hm'⟩

/-- What holds of the properties of an object, but for their order, is the same. -/
theorem mem_map_of_permuted {β : Type} {f : String × TypeSet → β} {b : β}
    (perm : (properties.map Prod.fst).Perm (properties'.map Prod.fst))
    (same : ∀ key set set', (key, set) ∈ properties → (key, set') ∈ properties' → f (key, set) = f (key, set')) :
    b ∈ properties.map f ↔ b ∈ properties'.map f := by
  constructor
  · intro h
    obtain ⟨⟨key, set⟩, hm, rfl⟩ := List.mem_map.1 h
    obtain ⟨set', hm'⟩ := exists_property_of_perm perm hm
    exact List.mem_map.2 ⟨_, hm', (same key set set' hm hm').symm⟩
  · intro h
    obtain ⟨⟨key, set'⟩, hm', rfl⟩ := List.mem_map.1 h
    obtain ⟨set, hm⟩ := exists_property_of_perm perm.symm hm'
    exact List.mem_map.2 ⟨_, hm, same key set set' hm hm'⟩

/-- Whatever stands in one of two type sets stands in the other one, but for the order of properties. -/
theorem exists_occurs_of_permuted (h : Schema.Occurs d set) (same : TypeSet.Permuted set set') :
    ∃ d', Schema.Occurs d' set' ∧ d.Permuted d' := by
  induction h generalizing set' with
  | here hd =>
    obtain ⟨d', hd', same⟩ := exists_right_of_forall₂ same hd
    exact ⟨d', .here hd', same⟩
  | property hd hp _ ih =>
    obtain ⟨_, hd', same⟩ := exists_right_of_forall₂ same hd
    cases same with
    | object perm _ values =>
      obtain ⟨inner', hp'⟩ := exists_property_of_perm perm hp
      obtain ⟨d', occurs, same⟩ := ih (values _ _ _ hp hp')
      exact ⟨d', .property hd' hp' occurs, same⟩
  | item hd hi _ ih =>
    obtain ⟨_, hd', same⟩ := exists_right_of_forall₂ same hd
    cases same with
    | array items =>
      obtain ⟨inner', hi', same⟩ := exists_right_of_forall₂ items hi
      obtain ⟨d', occurs, same⟩ := ih same
      exact ⟨d', .item hd' hi' occurs, same⟩
  | target hd _ ih =>
    obtain ⟨_, hd', same⟩ := exists_right_of_forall₂ same hd
    cases same with
    | resolved same =>
      obtain ⟨d', occurs, same⟩ := ih same
      exact ⟨d', .target hd' occurs, same⟩
    | first loose => exact loose.elim

/-! ## Keys -/

/-- No two keys of an object in the type set are filtered to one name. -/
def TypeSet.KeysApart (filter : String → String) (set : TypeSet) : Prop :=
  ∀ traits properties, Schema.Occurs (.object traits properties) set →
    ((properties.map Prod.fst).map filter).Nodup

theorem TypeSet.KeysApart.permuted (h : TypeSet.KeysApart filter set) (same : TypeSet.Permuted set set') :
    TypeSet.KeysApart filter set' := by
  intro traits properties' occurs
  obtain ⟨d, occurs, same⟩ := exists_occurs_of_permuted occurs same.symm
  cases same with
  | @object _ _ properties perm _ _ => exact (perm.map filter).nodup_iff.2 (h traits properties occurs)

end SchemaClasses
