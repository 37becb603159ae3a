/-
Classes that are equal up to the order of imports and members: they are what the comparison of shapes
lets through. An entity that takes the pair of a later form of itself becomes that form as it was
before it was put in another order.
-/
import SchemaClasses.Proofs.Class.Walk

namespace SchemaClasses

namespace ClassModel

variable {c c' c'' : ClassModel} {fqcn name : String}

/-! ## Orderly classes -/

/-- No import and no member comes twice, and every method stands under its own name, as in all classes
that are made by adding members. -/
structure Orderly (c : ClassModel) : Prop extends Tidy c where
  constants : c.constants.Distinct
  own : c.methods.Own (·.name)

theorem Orderly.requireImport (h : c.Orderly) : (c.requireImport fqcn).Orderly := by
  have tidy := @Tidy.requireImport c fqcn h.toTidy
  rw [requireImport_eq] at tidy ⊢
  exact ⟨tidy, h.constants, h.own⟩

theorem Orderly.addImport (h : c.Orderly) : (c.addImport fqcn).Orderly := by
  unfold ClassModel.addImport
  split
  · exact h
  · exact h.requireImport

theorem Orderly.addProperty (h : c.Orderly) (p : Property) : (c.addProperty p).Orderly :=
  ⟨h.toTidy.addProperty p, h.constants, h.own⟩

theorem Orderly.addMethod (h : c.Orderly) (m : Method) : (c.addMethod m).Orderly :=
  ⟨h.toTidy.addMethod m, h.constants, h.own.put m⟩

theorem Orderly.addConstant (h : c.Orderly) (k : Constant) : (c.addConstant k).Orderly :=
  ⟨h.toTidy.addConstant k, h.constants.put, h.own⟩

/-- A class that nothing was added to yet is orderly, whatever its kind and its flags. -/
theorem orderly_of_bare (imports : c.imports = []) (constants : c.constants = []) (properties : c.properties = [])
    (methods : c.methods = []) : c.Orderly := by
  refine ⟨⟨?_, ?_, ?_⟩, ?_, ?_⟩
  · rw [imports]
    exact List.nodup_nil
  · rw [properties]
    exact Entries.distinct_nil
  · rw [methods]
    exact Entries.distinct_nil
  · rw [constants]
    exact Entries.distinct_nil
  · rw [methods]
    exact Entries.own_nil

theorem orderly_entity {space : String} : (entity name space).Orderly := orderly_of_bare rfl rfl rfl rfl

theorem Orderly.withRawArray (h : c.Orderly) (lines : List PropertyLines) : (c.withRawArray lines).Orderly :=
  (h.addMethod _).addMethod _

theorem addMethod_of_at? {m : Method} (h : c.methods.at? m.name = some m) : c.addMethod m = c := by
  unfold addMethod
  rw [Entries.put_of_at? h]

/-! ## Equal up to order -/

/-- Two classes that differ in the order of imports and members only. -/
structure Reordered (c c' : ClassModel) : Prop extends Alike c c' where
  constants : c.constants.Perm c'.constants
  isFinal : c.isFinal = c'.isFinal
  isStrict : c.isStrict = c'.isStrict
  typed : c.typed = c'.typed
  parent : c.parent = c'.parent
  interfaces : c.interfaces = c'.interfaces

theorem Reordered.refl (c : ClassModel) : c.Reordered c :=
  ⟨⟨rfl, rfl, rfl, .refl _, .refl _, .refl _⟩, .refl _, rfl, rfl, rfl, rfl, rfl⟩

theorem Reordered.symm (h : c.Reordered c') : c'.Reordered c :=
  ⟨⟨h.name.symm, h.space.symm, h.kind.symm, h.imports.symm, h.properties.symm, h.methods.symm⟩, h.constants.symm,
    h.isFinal.symm, h.isStrict.symm, h.typed.symm, h.parent.symm, h.interfaces.symm⟩

theorem Reordered.trans (h : c.Reordered c') (h' : c'.Reordered c'') : c.Reordered c'' :=
  ⟨⟨h.name.trans h'.name, h.space.trans h'.space, h.kind.trans h'.kind, h.imports.trans h'.imports,
      h.properties.trans h'.properties, h.methods.trans h'.methods⟩, h.constants.trans h'.constants,
    h.isFinal.trans h'.isFinal, h.isStrict.trans h'.isStrict, h.typed.trans h'.typed, h.parent.trans h'.parent,
    h.interfaces.trans h'.interfaces⟩

theorem Reordered.orderly (h : c.Reordered c') (hc : c.Orderly) : c'.Orderly where
  imports := h.imports.nodup_iff.1 hc.imports
  properties := hc.properties.perm h.properties
  methods := hc.methods.perm h.methods
  constants := hc.constants.perm h.constants
  own := hc.own.perm h.methods

theorem reordered_of_distinct (tidy : c.Tidy) (distinct : c.constants.Distinct) (h : c.sameShape c' = true) :
    c.Reordered c' := by
  have alike := alike_of_sameShape tidy h
  unfold sameShape at h
  simp only [Bool.and_eq_true, beq_iff_eq] at h
  obtain ⟨⟨⟨⟨⟨⟨⟨⟨⟨-, isFinal⟩, isStrict⟩, typed⟩, parent⟩, interfaces⟩, -⟩, constants⟩, -⟩, -⟩ := h
  exact ⟨alike, Entries.perm_of_sameEntries distinct constants, isFinal, isStrict, typed, parent, interfaces⟩

theorem reordered_of_sameShape (hc : c.Orderly) (h : c.sameShape c' = true) : c.Reordered c' :=
  reordered_of_distinct hc.toTidy hc.constants h

theorem Reordered.sameShape (h : c.Reordered c') (hc : c.Orderly) : c.sameShape c' = true := by
  have imports : sameImports c.imports c'.imports = true := by
    unfold sameImports
    rw [Bool.and_eq_true, beq_iff_eq, List.all_eq_true]
    exact ⟨h.imports.length_eq, fun fqcn hi => List.contains_iff_mem.2 (h.imports.mem_iff.1 hi)⟩
  unfold ClassModel.sameShape
  simp only [Bool.and_eq_true, beq_iff_eq]
  exact ⟨⟨⟨⟨⟨⟨⟨⟨⟨⟨⟨h.name, h.space⟩, h.kind⟩, h.isFinal⟩, h.isStrict⟩, h.typed⟩, h.parent⟩, h.interfaces⟩, imports⟩,
    Entries.sameEntries_of_perm hc.constants h.constants⟩, Entries.sameEntries_of_perm hc.properties h.properties⟩,
    Entries.sameEntries_of_perm hc.methods h.methods⟩

theorem Reordered.lacks_eq (h : c.Reordered c') (hc : c.Orderly) : lacksRawArray c = lacksRawArray c' := by
  unfold lacksRawArray
  rw [h.kind, h.hasMethod_eq hc.toTidy]

theorem Reordered.withRawArray (h : c.Reordered c') (hc : c.Orderly) (lines : List PropertyLines) :
    (c.withRawArray lines).Reordered (c'.withRawArray lines) := by
  have methods : (c.withRawArray lines).methods.Perm (c'.withRawArray lines).methods :=
    hc.methods.put.perm_put (hc.methods.perm_put h.methods)
  exact ⟨⟨h.name, h.space, h.kind, h.imports, h.properties, methods⟩, h.constants, h.isFinal, h.isStrict, h.typed,
    h.parent, h.interfaces⟩

end ClassModel

open ClassModel

variable {c : Collection} {m m' m₁ last : ClassModel}

/-- Adding a class in silence puts it in the place of one that is equal up to order, if of any. -/
theorem Collection.reordered_of_silent {found : ClassModel} (silent : c.addEvents m = []) (hf : found.Orderly)
    (hg : c.get? m.fqcn = some found) : found.Reordered m :=
  reordered_of_sameShape hf (sameShape_of_silent silent hg)

/-- Adding a class that is equal up to order to the one in its place is silent. -/
theorem Collection.addEvents_of_reordered {found : ClassModel} (hf : found.Orderly) (hg : c.get? m.fqcn = some found)
    (h : found.Reordered m) : c.addEvents m = [] := by
  unfold addEvents conflicts
  rw [hg]
  simp [h.sameShape hf]

/-! ## Taking over the pair -/

theorem Assembled.orderly {start c : ClassModel} (h : Assembled start c) (hs : start.Orderly) : c.Orderly := by
  induction h with
  | start => exact hs
  | requireImport _ _ ih => exact ih.requireImport
  | addProperty p _ ih => exact ih.addProperty p
  | addMethod m _ ih => exact ih.addMethod m
  | addConstant k _ ih => exact ih.addConstant k

theorem orderly_keepRawArray {previous : Option ClassModel} (h : m.Orderly) :
    (Build.keepRawArray previous m).Orderly :=
  (assembled_keepRawArray previous m).orderly h

/-- Only the pair of the earlier class counts. -/
theorem keepRawArray_congr {earlier earlier' : ClassModel}
    (wraps : earlier.methods.at? "fromArray" = earlier'.methods.at? "fromArray")
    (unwraps : earlier.methods.at? "toArray" = earlier'.methods.at? "toArray") :
    Build.keepRawArray (some earlier) m = Build.keepRawArray (some earlier') m := by
  unfold Build.keepRawArray
  simp only [List.filterMap_cons, List.filterMap_nil, wraps, unwraps]

/-- Methods that are held already change nothing. -/
theorem addMethods_of_held : ∀ (ms : List Method), (∀ method ∈ ms, m.methods.at? method.name = some method) →
    m.addMethods ms = m
  | [], _ => rfl
  | method :: rest, h => by
    show (m.addMethod method).addMethods rest = m
    rw [addMethod_of_at? (h method List.mem_cons_self)]
    exact addMethods_of_held rest fun other ho => h other (List.mem_cons_of_mem _ ho)

/-- A class that holds the pair of the earlier one has nothing to take over. -/
theorem keepRawArray_of_held {earlier : ClassModel} (own : m.methods.Own (·.name))
    (held : ∀ name method, earlier.methods.at? name = some method → m.methods.at? name = some method) :
    Build.keepRawArray (some earlier) m = m := by
  apply addMethods_of_held
  intro method hm
  obtain ⟨name, -, hn⟩ := List.mem_filterMap.1 hm
  have there := held name method hn
  rwa [own.at? there]

/-- The methods taken from an earlier class are found by their names, all other methods as before. -/
theorem at?_addMethods_taken {earlier : ClassModel} (own : earlier.methods.Own (·.name)) {names : List String}
    {name : String} (hn : name ∈ names) : (m.addMethods (names.filterMap earlier.methods.at?)).methods.at? name =
      (earlier.methods.at? name).or (m.methods.at? name) := by
  rw [at?_addMethods]
  congr 1
  cases hf : (names.filterMap earlier.methods.at?).reverse.find? (·.name == name) with
  | none =>
    refine (Option.eq_none_iff_forall_not_mem.2 fun method hm => ?_).symm
    refine List.find?_eq_none.1 hf method (List.mem_reverse.2 (List.mem_filterMap.2 ⟨name, hn, hm⟩)) ?_
    exact beq_iff_eq.2 (own.at? hm)
  | some method =>
    obtain ⟨other, -, there⟩ := List.mem_filterMap.1 (List.mem_reverse.1 (List.mem_of_find?_eq_some hf))
    have found := @List.find?_some _ (·.name == name) method _ hf
    rw [← beq_iff_eq.1 found, own.at? there, there]

/-- Taking methods from a class that has them from an earlier one is the same as taking them from that. -/
theorem addMethods_again {earlier later : ClassModel} (own : earlier.methods.Own (·.name)) :
    ∀ (names : List String) {m : ClassModel}, names.Nodup → m.methods.Own (·.name) →
      (∀ name ∈ names, later.methods.at? name = (earlier.methods.at? name).or (m.methods.at? name)) →
      m.addMethods (names.filterMap later.methods.at?) = m.addMethods (names.filterMap earlier.methods.at?)
  | [], _, _, _, _ => rfl
  | name :: rest, m, distinct, mine, found => by
    obtain ⟨apart, distinct⟩ := List.nodup_cons.1 distinct
    have here := found name List.mem_cons_self
    have further := fun other ho => found other (List.mem_cons_of_mem name ho)
    cases taken : earlier.methods.at? name with
    | some method =>
      rw [taken, Option.some_or] at here
      rw [List.filterMap_cons_some here, List.filterMap_cons_some taken]
      refine addMethods_again own rest distinct (mine.put method) fun other ho => ?_
      have ne : other ≠ method.name := by
        rw [own.at? taken]
        rintro rfl
        exact apart ho
      rw [further other ho, at?_addMethod, if_neg ne]
    | none =>
      rw [taken, Option.none_or] at here
      rw [List.filterMap_cons_none taken, ← addMethods_again own rest distinct mine further]
      cases held : m.methods.at? name with
      | none => rw [List.filterMap_cons_none (here.trans held)]
      -- a method of the class itself is put where it stands
      | some method =>
        rw [List.filterMap_cons_some (here.trans held)]
        show (m.addMethod method).addMethods _ = _
        rw [addMethod_of_at? ((mine.at? held).symm ▸ held)]

/-- An entity that has taken a pair takes the same pair again. -/
theorem keepRawArray_keepRawArray {previous : Option ClassModel} (hm : m.Orderly)
    (hp : ∀ earlier, previous = some earlier → earlier.Orderly) :
    Build.keepRawArray (some (Build.keepRawArray previous m)) m = Build.keepRawArray previous m := by
  cases previous with
  | none => exact keepRawArray_of_held hm.own fun _ _ => id
  | some earlier =>
    have own := (hp earlier rfl).own
    exact addMethods_again own _ (by decide) hm.own fun name hn => at?_addMethods_taken own hn

theorem keepRawArray_of_pair {earlier : ClassModel} {lines : List PropertyLines}
    (wraps : earlier.methods.at? "fromArray" = some (fromArrayMethod lines))
    (unwraps : earlier.methods.at? "toArray" = some (toArrayMethod lines)) :
    Build.keepRawArray (some earlier) m = m.withRawArray lines := by
  unfold Build.keepRawArray
  simp only [List.filterMap_cons, List.filterMap_nil, wraps, unwraps]
  rfl

theorem at?_fromArray_withRawArray (lines : List PropertyLines) (m : ClassModel) :
    (m.withRawArray lines).methods.at? "fromArray" = some (fromArrayMethod lines) := by
  rw [ClassModel.withRawArray, at?_addMethod, at?_addMethod]
  rfl

theorem at?_toArray_withRawArray (lines : List PropertyLines) (m : ClassModel) :
    (m.withRawArray lines).methods.at? "toArray" = some (toArrayMethod lines) := by
  rw [ClassModel.withRawArray, at?_addMethod]
  rfl

/-! ## Later forms of a class -/

/-- A class becomes another one: it gains the pair at most, and is put in another order. -/
def Matures (m last : ClassModel) : Prop := ∃ m₁, Paired m m₁ ∧ m₁.Reordered last

theorem Matures.refl (m : ClassModel) : Matures m m := ⟨m, .inl rfl, .refl m⟩

theorem matures_of_reordered (h : m.Reordered last) : Matures m last := ⟨m, .inl rfl, h⟩

theorem matures_of_paired (h : Paired m last) : Matures m last := ⟨last, h, .refl last⟩

theorem Paired.orderly (h : Paired m m') (hm : m.Orderly) : m'.Orderly := by
  rcases h with rfl | ⟨-, lines, rfl⟩
  · exact hm
  · exact hm.withRawArray lines

theorem Matures.trans (h : Matures m m') (h' : Matures m' last) (hm : m.Orderly) : Matures m last := by
  obtain ⟨m₁, paired, reordered⟩ := h
  obtain ⟨m₂, rfl | ⟨lacks, lines, rfl⟩, reordered'⟩ := h'
  · exact ⟨m₁, paired, reordered.trans reordered'⟩
  -- a class that lacks the pair in the end lacked it before
  · have orderly := paired.orderly hm
    rw [← reordered.lacks_eq orderly] at lacks
    exact ⟨m₁.withRawArray lines, paired.trans (.inr ⟨lacks, lines, rfl⟩),
      (reordered.withRawArray orderly lines).trans reordered'⟩

/-- A class that takes the pair of its later form is that form, but for the order. -/
theorem keepRawArray_of_paired (h : Paired m m₁) (same : m₁.Reordered last) (hm : m.Orderly) :
    Build.keepRawArray (some last) m = m₁ := by
  have orderly := h.orderly hm
  rcases h with rfl | ⟨-, lines, rfl⟩
  · exact keepRawArray_of_held hm.own fun name method hl => (same.method_eq orderly.toTidy name).trans hl
  · refine keepRawArray_of_pair ?_ ?_
    · exact (same.method_eq orderly.toTidy _).symm.trans (at?_fromArray_withRawArray lines m)
    · exact (same.method_eq orderly.toTidy _).symm.trans (at?_toArray_withRawArray lines m)

theorem Matures.reordered (h : Matures m last) (hm : m.Orderly) :
    (Build.keepRawArray (some last) m).Reordered last := by
  obtain ⟨m₁, paired, same⟩ := h
  rw [keepRawArray_of_paired paired same hm]
  exact same

end SchemaClasses
