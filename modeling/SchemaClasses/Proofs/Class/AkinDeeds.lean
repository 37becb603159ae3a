/-
What deeds leave, whatever their order. The classes are those that were added, and the entities with the pair are
those that are reached from where it was given; so akin deeds leave classes of the same members.
-/
import SchemaClasses.Proofs.Class.Reached

namespace SchemaClasses

open Build ClassModel

/-! ## Classes of the same members -/

/-- Two akin classes with methods of the same names. -/
structure ClassModel.SameMembers (m m' : ClassModel) : Prop extends m.Akin m' where
  methods : ∀ name, m.hasMethod name = m'.hasMethod name

variable {m m' m'' made last : ClassModel} {c c' final final' : Collection} {fqcn : String} {deed deed' : Deed}
  {deeds deeds' : List Deed} {s s' : BuildState} {α : Type} {a : α} {does : Deed → Prop}

theorem ClassModel.SameMembers.symm (h : m.SameMembers m') : m'.SameMembers m :=
  ⟨h.toAkin.symm, fun name => (h.methods name).symm⟩

theorem ClassModel.SameMembers.trans (h : m.SameMembers m') (h' : m'.SameMembers m'') : m.SameMembers m'' :=
  ⟨h.toAkin.trans h'.toAkin, fun name => (h.methods name).trans (h'.methods name)⟩

theorem ClassModel.Reordered.sameMembers (h : m.Reordered m') (hm : m.Orderly) : m.SameMembers m' :=
  ⟨h.toAlike.akin hm.toTidy, h.hasMethod_eq hm.toTidy⟩

/-- An entity that had no methods has those of the pair at most. -/
theorem Matures.hasMethod_eq (h : Matures made m) (hm : made.Orderly) (none : made.methods = []) (name : String) :
    m.hasMethod name = ((name == "toArray" || name == "fromArray") && m.hasMethod "fromArray") := by
  obtain ⟨m₁, paired, same⟩ := h
  have tidy := (paired.orderly hm).toTidy
  rw [← same.hasMethod_eq tidy, ← same.hasMethod_eq tidy]
  rcases paired with rfl | ⟨-, lines, rfl⟩
  · simp [ClassModel.hasMethod, Entries.hasName, none]
  · have bare : ∀ other, made.hasMethod other = false := by simp [ClassModel.hasMethod, Entries.hasName, none]
    simp [ClassModel.withRawArray, hasMethod_addMethod, fromArrayMethod, toArrayMethod, Method.namedConstructor, bare]

theorem Matures.reordered_of_ne (h : Matures made m) (other : made.kind ≠ .entity) : made.Reordered m := by
  obtain ⟨m₁, rfl | ⟨lacks, -⟩, same⟩ := h
  · exact same
  · exact absurd (entity_of_lacks lacks) other

theorem Deed.Proper.methods_eq (h : deed.Proper) (adds : deed.added? = some made) (entity : made.kind = .entity) :
    made.methods = [] := by
  cases deed with
  | entity m =>
    obtain rfl := Option.some.inj adds
    exact h.2.2
  | value m =>
    obtain rfl := Option.some.inj adds
    exact absurd entity h.2
  | pair fqcn => cases adds

/-! ## Akin deeds -/

/-- Two deeds are the same, or add entities of one name that are akin. -/
inductive Deed.Akin : Deed → Deed → Prop
  | refl (deed : Deed) : Akin deed deed
  | entity {m m' : ClassModel} : m.fqcn = m'.fqcn → m.Akin m' → Akin (.entity m) (.entity m')

namespace Deed.Akin

variable {made' : ClassModel}

theorem exists_added (h : deed.Akin deed') (adds : deed.added? = some made) :
    ∃ made', deed'.added? = some made' ∧ made'.fqcn = made.fqcn ∧ made.Akin made' := by
  cases h with
  | refl => exact ⟨made, adds, rfl, .refl made⟩
  | entity fqcn same =>
    obtain rfl := Option.some.inj adds
    exact ⟨_, rfl, fqcn.symm, same⟩

/-- A class that is no entity is added by both deeds alike. -/
theorem added_eq (h : deed.Akin deed') (proper : deed.Proper) (adds : deed.added? = some made)
    (adds' : deed'.added? = some made') (other : made.kind ≠ .entity) : made = made' := by
  cases h with
  | refl => exact Option.some.inj (adds.symm.trans adds')
  | entity fqcn same =>
    obtain rfl := Option.some.inj adds
    exact absurd proper.2.1 other

/-- Later forms of the added classes have the same members, if both have the pair or neither has it. -/
theorem sameMembers (h : deed.Akin deed') (proper : deed.Proper) (proper' : deed'.Proper)
    (adds : deed.added? = some made) (adds' : deed'.added? = some made') (akin : made.Akin made')
    (later : Matures made m) (later' : Matures made' m')
    (pair : m.kind = .entity → m.hasMethod "fromArray" = m'.hasMethod "fromArray") : m.SameMembers m' := by
  have orderly := proper.orderly adds
  have orderly' := proper'.orderly adds'
  by_cases entity : made.kind = .entity
  · refine ⟨((later.akin orderly).symm.trans akin).trans (later'.akin orderly'), fun name => ?_⟩
    rw [later.hasMethod_eq orderly (proper.methods_eq adds entity) name,
      later'.hasMethod_eq orderly' (proper'.methods_eq adds' (akin.kind.symm.trans entity)) name,
      pair ((later.akin orderly).kind.symm.trans entity)]
  · obtain rfl := h.added_eq proper adds adds' entity
    exact ((later.reordered_of_ne entity).sameMembers orderly).symm.trans
      ((later'.reordered_of_ne entity).sameMembers orderly)

end Deed.Akin

/-! ## Collections that deeds have left -/

/-- A collection that silent deeds have left: each class is a later form of one that was added, and an entity has the
pair if and only if it is reached from one that it was given to. -/
structure LeftBy (deeds : List Deed) (final : Collection) : Prop extends AllOrderly final where
  untwinned : AllUntwinned final
  proper : ∀ deed ∈ deeds, deed.Proper
  stems : ∀ {fqcn m}, final.get? fqcn = some m → ∃ deed ∈ deeds, ∃ made, deed.added? = some made ∧ made.fqcn = fqcn
  done : Accomplished deeds final
  pairs : ∀ {fqcn m}, final.get? fqcn = some m → m.kind = .entity →
    (m.hasMethod "fromArray" = true ↔ Reached (.pair · ∈ deeds) final fqcn)

section LeftBy

variable (h : LeftBy deeds final) (h' : LeftBy deeds' final')
  (akin : ∀ deed ∈ deeds, ∃ deed' ∈ deeds', deed.Akin deed')

include h h' akin

/-- What akin deeds have left has akin classes, and they have the same members if the pair is on both or neither. -/
theorem LeftBy.exists_akin (hm : final.get? fqcn = some m) : ∃ m', final'.get? fqcn = some m' ∧ m.Akin m' ∧
    ((m.kind = .entity → m.hasMethod "fromArray" = m'.hasMethod "fromArray") → m.SameMembers m') := by
  obtain ⟨deed, hd, made, adds, rfl⟩ := h.stems hm
  obtain ⟨last, hl, later⟩ := h.done.added hd adds
  obtain rfl := Option.some.inj (hm.symm.trans hl)
  obtain ⟨deed', hd', same⟩ := akin deed hd
  obtain ⟨made', adds', fqcn, made_akin⟩ := same.exists_added adds
  obtain ⟨m', hm', later'⟩ := h'.done.added hd' adds'
  have proper := h.proper _ hd
  have proper' := h'.proper _ hd'
  refine ⟨m', fqcn ▸ hm', ?_, same.sameMembers proper proper' adds adds' made_akin later later'⟩
  exact ((later.akin (proper.orderly adds)).symm.trans made_akin).trans (later'.akin (proper'.orderly adds'))

theorem LeftBy.reached (reached : Reached (.pair · ∈ deeds) final fqcn) : Reached (.pair · ∈ deeds') final' fqcn := by
  refine reached.akin (fun fqcn hr => ?_) h.toAllOrderly h.untwinned fun fqcn m hm => ?_
  · obtain ⟨deed', hd', same⟩ := akin _ hr
    cases same
    exact hd'
  · obtain ⟨m', hm', same, -⟩ := h.exists_akin h' akin hm
    exact ⟨m', hm', same⟩

/-- Akin deeds leave the same classes, but for the order of members. -/
theorem LeftBy.sameMembers (akin' : ∀ deed' ∈ deeds', ∃ deed ∈ deeds, deed'.Akin deed) (fqcn : String) :
    Option.Rel SameMembers (final.get? fqcn) (final'.get? fqcn) := by
  cases hm : final.get? fqcn with
  | none =>
    cases hm' : final'.get? fqcn with
    | none => exact .none
    | some m' =>
      obtain ⟨m, found, -⟩ := h'.exists_akin h akin' hm'
      rw [hm] at found
      cases found
  | some m =>
    obtain ⟨m', hm', same, members⟩ := h.exists_akin h' akin hm
    rw [hm']
    refine .some (members fun entity => Bool.eq_iff_iff.2 ?_)
    rw [h.pairs hm entity, h'.pairs hm' (same.kind.symm.trans entity)]
    exact ⟨h.reached h' akin, h'.reached h akin'⟩

end LeftBy

theorem Performed.leftBy (h : Performed deeds s s') (proper : ∀ deed ∈ deeds, deed.Proper)
    (silent : Collection.Silent s'.events) (empty : s.collection = {}) (closed : Closed [] s'.collection)
    (untwinned : AllUntwinned s'.collection) : LeftBy deeds s'.collection := by
  have sound : Sound s.collection := by
    rw [empty]
    exact sound_empty
  obtain ⟨final, -, done⟩ := h.sound proper silent sound
  refine ⟨final.toAllOrderly, untwinned, proper, fun {fqcn m} hm => ?_, done, fun hm entity =>
    h.hasMethod_iff proper silent empty closed untwinned hm entity⟩
  obtain ⟨origin, -, before | ⟨deed, hd, adds, he⟩⟩ := h.stems hm
  · rw [empty] at before
    cases before
  · exact ⟨deed, hd, origin, adds, he⟩

/-- A collection that silent deeds have left, these and no others. -/
def MadeBy (does : Deed → Prop) (final : Collection) : Prop :=
  ∃ deeds, LeftBy deeds final ∧ ∀ deed, deed ∈ deeds ↔ does deed

theorem MadeBy.sameMembers {does' : Deed → Prop} (h : MadeBy does final) (h' : MadeBy does' final')
    (akin : ∀ deed, does deed → ∃ deed', does' deed' ∧ deed.Akin deed')
    (akin' : ∀ deed', does' deed' → ∃ deed, does deed ∧ deed'.Akin deed) (fqcn : String) :
    Option.Rel SameMembers (final.get? fqcn) (final'.get? fqcn) := by
  obtain ⟨deeds, left, all⟩ := h
  obtain ⟨deeds', left', all'⟩ := h'
  refine left.sameMembers left' (fun deed hd => ?_) (fun deed' hd' => ?_) fqcn
  · obtain ⟨deed', hd', same⟩ := akin deed ((all deed).1 hd)
    exact ⟨deed', (all' deed').2 hd', same⟩
  · obtain ⟨deed, hd, same⟩ := akin' deed' ((all' deed').1 hd')
    exact ⟨deed, (all deed).2 hd, same⟩

theorem Performs.madeBy {action : Build α} (h : Performs does action) (proper : ∀ deed, does deed → deed.Proper)
    {events : List Event} (run : Runs action ⟨{}, events⟩ (.ok a) s) (silent : Collection.Silent s.events)
    (closed : Closed [] s.collection) (untwinned : AllUntwinned s.collection) : MadeBy does s.collection := by
  obtain ⟨deeds, performed, all⟩ := h.performed run
  exact ⟨deeds, performed.leftBy (fun deed hd => proper deed ((all deed).1 hd)) silent rfl closed untwinned, all⟩

/-! ## Additions -/

theorem AllUntwinned.of_maturesInto (h : AllUntwinned c') (matures : MaturesInto c c') (hc : AllOrderly c) :
    AllUntwinned c := by
  intro fqcn m hm
  obtain ⟨last, hl, later⟩ := matures fqcn m hm
  exact (later.akin (hc.orderly hm)).symm.untwinned (h fqcn last hl)

/-- An entity that is added in silence is that of the collection, or takes nothing over. -/
theorem exists_added_in_silence (hc : AllOrderly c) (silent : c.addEvents (keepRawArray (c.get? m.fqcn) m) = []) :
    ∃ made, c.add (keepRawArray (c.get? m.fqcn) m) = c.add made ∧ made.fqcn = m.fqcn ∧
      (c.get? m.fqcn = none ∧ made = m ∨ ∃ earlier, c.get? m.fqcn = some earlier ∧ earlier.SameMembers made) := by
  refine ⟨_, rfl, fqcn_keepRawArray _ _, ?_⟩
  cases he : c.get? m.fqcn with
  | none => exact .inl ⟨rfl, rfl⟩
  | some earlier =>
    rw [he] at silent
    have found : c.get? (keepRawArray (some earlier) m).fqcn = some earlier := by rwa [fqcn_keepRawArray]
    have same := Collection.reordered_of_silent silent (hc.orderly he) found
    exact .inr ⟨earlier, rfl, same.sameMembers (hc.orderly he)⟩

/-- Entities of the same members, added in silence to classes of the same members. -/
theorem sameMembers_add (h : ∀ fqcn, Option.Rel SameMembers (c.get? fqcn) (c'.get? fqcn)) (hc : AllOrderly c)
    (hc' : AllOrderly c') (named : m.fqcn = m'.fqcn) (same : m.SameMembers m')
    (silent : c.addEvents (keepRawArray (c.get? m.fqcn) m) = [])
    (silent' : c'.addEvents (keepRawArray (c'.get? m'.fqcn) m') = []) (fqcn : String) :
    Option.Rel SameMembers ((c.add (keepRawArray (c.get? m.fqcn) m)).get? fqcn)
      ((c'.add (keepRawArray (c'.get? m'.fqcn) m')).get? fqcn) := by
  obtain ⟨made, he, hn, origin⟩ := exists_added_in_silence hc silent
  obtain ⟨made', he', hn', origin'⟩ := exists_added_in_silence hc' silent'
  rw [he, he', Collection.get?_add, Collection.get?_add, hn, hn', ← named]
  split
  · have before := h m.fqcn
    rw [← named] at origin'
    rcases origin with ⟨none, rfl⟩ | ⟨earlier, found, kept⟩
    · rcases origin' with ⟨-, rfl⟩ | ⟨earlier', found', -⟩
      · exact .some same
      · rw [none, found'] at before
        cases before
    · rcases origin' with ⟨none', -⟩ | ⟨earlier', found', kept'⟩
      · rw [found, none'] at before
        cases before
      · rw [found, found'] at before
        cases before with
        | some before => exact .some ((kept.symm.trans before).trans kept')
  · exact h fqcn

end SchemaClasses
