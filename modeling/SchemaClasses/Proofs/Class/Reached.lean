/-
Which entities have the pair in the end. Lists ask for it, it goes on from an entity to the entities of its
properties, and an entity that is built again keeps it. So an entity has the pair if and only if it is reached in
this way in the final collection, whatever the order in which the classes were built.
-/
import SchemaClasses.Proofs.Class.Closure
import SchemaClasses.Proofs.Class.Deeds

namespace SchemaClasses

open Build

/-! ## Classes of the same members -/

namespace ClassModel

/-- Two classes of one namespace and kind with the same properties by name and the same imports. -/
structure Akin (m m' : ClassModel) : Prop where
  space : m.space = m'.space
  kind : m.kind = m'.kind
  properties : ∀ name, m.properties.at? name = m'.properties.at? name
  imports : ∀ fqcn, fqcn ∈ m.imports ↔ fqcn ∈ m'.imports

/-- No two imports of the class have the same short name. -/
def Untwinned (m : ClassModel) : Prop :=
  ∀ fqcn ∈ m.imports, ∀ other ∈ m.imports, shortName fqcn = shortName other → fqcn = other

instance (m : ClassModel) : Decidable m.Untwinned :=
  inferInstanceAs (Decidable (∀ fqcn ∈ m.imports, ∀ other ∈ m.imports, shortName fqcn = shortName other → fqcn = other))

variable {m m' m'' : ClassModel}

theorem Akin.refl (m : ClassModel) : m.Akin m := ⟨rfl, rfl, fun _ => rfl, fun _ => .rfl⟩

theorem Akin.symm (h : m.Akin m') : m'.Akin m :=
  ⟨h.space.symm, h.kind.symm, fun name => (h.properties name).symm, fun fqcn => (h.imports fqcn).symm⟩

theorem Akin.trans (h : m.Akin m') (h' : m'.Akin m'') : m.Akin m'' :=
  ⟨h.space.trans h'.space, h.kind.trans h'.kind, fun name => (h.properties name).trans (h'.properties name),
    fun fqcn => (h.imports fqcn).trans (h'.imports fqcn)⟩

theorem Alike.akin (h : m.Alike m') (tidy : m.Tidy) : m.Akin m' :=
  ⟨h.space, h.kind, fun _ => Entries.at?_perm tidy.properties h.properties, fun _ => h.imports.mem_iff⟩

theorem Akin.mem_values (h : m.Akin m') (tidy : m.Tidy) {p : Property} (hp : p ∈ m.properties.values) :
    p ∈ m'.properties.values := by
  obtain ⟨name, hn⟩ := (Entries.mem_values_iff tidy.properties).1 hp
  exact Entries.mem_values_of_at? ((h.properties name).symm.trans hn)

theorem Akin.untwinned (h : m.Akin m') (untwinned : m.Untwinned) : m'.Untwinned :=
  fun fqcn hm other ho same => untwinned fqcn ((h.imports _).2 hm) other ((h.imports _).2 ho) same

/-- A short name stands for the same class, if there are no two imports of it. -/
theorem Akin.importedOrLocal_eq (h : m.Akin m') (untwinned : m.Untwinned) (short : String) :
    importedOrLocal m short = importedOrLocal m' short := by
  unfold importedOrLocal
  cases hf : m.imports.find? fun fqcn => shortName fqcn == short with
  | some found =>
    have member := List.mem_of_find?_eq_some hf
    have named := @List.find?_some _ (fun fqcn => shortName fqcn == short) _ _ hf
    cases hf' : m'.imports.find? fun fqcn => shortName fqcn == short with
    | some found' =>
      have member' := (h.imports found').2 (List.mem_of_find?_eq_some hf')
      have named' := @List.find?_some _ (fun fqcn => shortName fqcn == short) _ _ hf'
      exact untwinned found member found' member' ((beq_iff_eq.1 named).trans (beq_iff_eq.1 named').symm)
    | none => exact absurd named (List.find?_eq_none.1 hf' found ((h.imports found).1 member))
  | none =>
    have none : (m'.imports.find? fun fqcn => shortName fqcn == short) = none :=
      List.find?_eq_none.2 fun fqcn hm => List.find?_eq_none.1 hf fqcn ((h.imports fqcn).2 hm)
    rw [none, h.space]

theorem Akin.hinted_eq (h : m.Akin m') (untwinned : m.Untwinned) (p : Property) : hinted m p = hinted m' p :=
  h.importedOrLocal_eq untwinned _

end ClassModel

open ClassModel

variable {m last made : ClassModel} {c c' final : Collection} {roots roots' : String → Prop} {fqcn : String}
  {s s' : BuildState} {deed : Deed} {deeds : List Deed}

theorem Paired.akin {m' : ClassModel} (h : Paired m m') : m.Akin m' := by
  rcases h with rfl | ⟨-, lines, rfl⟩ <;> exact ⟨rfl, rfl, fun _ => rfl, fun _ => .rfl⟩

/-- Gaining the pair and another order of members change none of them. -/
theorem Matures.akin (h : Matures m last) (hm : m.Orderly) : m.Akin last := by
  obtain ⟨m₁, paired, same⟩ := h
  exact paired.akin.trans (same.toAlike.akin (paired.orderly hm).toTidy)

/-- The imports of every class have different short names. -/
def AllUntwinned (c : Collection) : Prop := ∀ fqcn m, c.get? fqcn = some m → m.Untwinned

theorem allUntwinned_of_toList (h : ∀ m ∈ c.toList, m.Untwinned) : AllUntwinned c :=
  fun _ m hm => h m (Collection.mem_toList_of_get? hm)

/-! ## Reached entities -/

/-- The names that the pair goes to from some roots: from an entity to the entities of its properties. -/
inductive Reached (roots : String → Prop) (c : Collection) : String → Prop
  | root {fqcn : String} : roots fqcn → Reached roots c fqcn
  | property {fqcn : String} {m target : ClassModel} {p : Property} : Reached roots c fqcn →
      c.get? fqcn = some m → m.kind = .entity → p ∈ m.properties.values →
      c.get? (hinted m p) = some target → target.kind = .entity → Reached roots c (hinted m p)

/-- What is reached goes with the classes' members, not with their order. -/
theorem Reached.akin (h : Reached roots c fqcn) (sub : ∀ fqcn, roots fqcn → roots' fqcn) (orderly : AllOrderly c)
    (untwinned : AllUntwinned c) (akin : ∀ fqcn m, c.get? fqcn = some m → ∃ m', c'.get? fqcn = some m' ∧ m.Akin m') :
    Reached roots' c' fqcn := by
  induction h with
  | root hr => exact .root (sub _ hr)
  | @property fqcn m target p _ hm entity hp ht target_entity ih =>
    obtain ⟨m', hm', same⟩ := akin _ _ hm
    obtain ⟨target', ht', same'⟩ := akin _ _ ht
    rw [same.hinted_eq (untwinned _ _ hm)] at ht' ⊢
    exact .property ih hm' (same.kind.symm.trans entity) (same.mem_values (orderly.orderly hm).toTidy hp) ht'
      (same'.kind.symm.trans target_entity)

/-! ## Only reached entities have the pair -/

/-- The entities that have the pair are among some names. -/
def PairsAmong (names : String → Prop) (c : Collection) : Prop :=
  ∀ fqcn m, c.get? fqcn = some m → m.kind = .entity → m.hasMethod "fromArray" = true → names fqcn

/-- The entities that an entity puts on the work list are reached from it, in every later collection. -/
theorem Reached.line {lines : List PropertyLines} {line : PropertyLines} (h : Reached roots final fqcn)
    (orderly : AllOrderly c) (matures : MaturesInto c final) (untwinned : AllUntwinned final)
    (hm : c.get? fqcn = some m) (entity : m.kind = .entity) (ho : allPropertyLines c m m.properties.values = .ok lines)
    (hl : line ∈ lines) (isEntity : line.isEntity = true) : Reached roots final line.fqcn := by
  obtain ⟨p, hp, made⟩ := exists_left_of_forall₂ (forall₂_allPropertyLines ho) hl
  obtain ⟨target, -, ht, -, named, is⟩ := propertyLines_ok made
  obtain ⟨last, hlast, later⟩ := matures _ _ hm
  obtain ⟨target', ht', later'⟩ := matures _ _ ht
  have same := later.akin (orderly.orderly hm)
  have hint : line.fqcn = hinted last p :=
    named.trans (same.symm.hinted_eq (untwinned _ _ hlast) p).symm
  have target_entity : target.kind = .entity := beq_iff_eq.1 (is.symm.trans isEntity)
  rw [hint] at ht' ⊢
  exact .property h hlast (same.kind.symm.trans entity) (same.mem_values (orderly.orderly hm).toTidy hp) ht'
    ((later'.akin (orderly.orderly ht)).kind.symm.trans target_entity)

/-- The work list gives the pair to reached entities only, if it begins with such. -/
theorem pairsAmong_addRawArrays (untwinned : AllUntwinned final) (c : Collection) (pending : List String)
    (hs : Sound c) (matures : MaturesInto (addRawArrays c pending).2 final)
    (wanted : ∀ fqcn ∈ pending, Reached roots final fqcn) (hp : PairsAmong (Reached roots final) c) :
    PairsAmong (Reached roots final) (addRawArrays c pending).2 := by
  induction c, pending using addRawArrays_induction with
  | done c =>
    rw [addRawArrays_nil]
    exact hp
  | skip c fqcn rest none ih =>
    rw [addRawArrays_skip' none] at matures ⊢
    exact ih hs matures (fun other ho => wanted other (List.mem_cons_of_mem _ ho)) hp
  | fails c fqcn rest m e hf hl he =>
    rw [addRawArrays_error hf hl he]
    exact hp
  | adds c fqcn rest m lines hf hl ho ih =>
    have before := (addRawArrays_grows c (fqcn :: rest)).maturesInto.trans matures hs.toAllOrderly
    rw [addRawArrays_add hf hl ho] at matures ⊢
    have reached := wanted fqcn List.mem_cons_self
    refine ih (hs.adjust lines) matures (fun other hm => ?_) fun other found hg entity pair => ?_
    · rcases List.mem_append.1 hm with hm | hm
      · obtain ⟨line, kept, rfl⟩ := List.mem_map.1 hm
        obtain ⟨hl', isEntity⟩ := List.mem_filter.1 kept
        exact reached.line hs.toAllOrderly before untwinned hf (entity_of_lacks hl) ho hl' isEntity
      · exact wanted other (List.mem_cons_of_mem _ hm)
    · rcases Collection.of_get?_adjust hg with ⟨rfl, -⟩ | ⟨-, hg⟩
      · exact reached
      · exact hp other found hg entity pair

/-- One deed adds no pair, or gives it to reached entities. -/
theorem Deed.pairsAmong (proper : deed.Proper) (run : Runs deed.action s (.ok ()) s')
    (silent : Collection.Silent s'.events) (hs : Sound s.collection) (matures : MaturesInto s'.collection final)
    (untwinned : AllUntwinned final) (asked : ∀ fqcn, deed = .pair fqcn → roots fqcn)
    (hp : PairsAmong (Reached roots final) s.collection) : PairsAmong (Reached roots final) s'.collection := by
  cases deed with
  | entity made =>
    obtain ⟨-, rfl⟩ := runs_addEntity.1 run
    have quiet := silent.of_append_right.addEvents_eq
    intro other found hg entity pair
    rcases Collection.of_get?_add hg with ⟨rfl, rfl⟩ | ⟨-, hg⟩
    -- an entity that has no methods can only take the pair from the one in its place
    · cases he : s.collection.get? made.fqcn with
      | none =>
        rw [he] at pair
        have pair : made.methods.hasName "fromArray" = true := pair
        rw [proper.2.2] at pair
        cases pair
      | some earlier =>
        have orderly := hs.orderly he
        have same := Collection.reordered_of_silent quiet orderly (by rwa [fqcn_keepRawArray])
        rw [fqcn_keepRawArray]
        exact hp _ earlier he (same.kind.trans entity) ((same.hasMethod_eq orderly.toTidy _).trans pair)
    · exact hp other found hg entity pair
  | value made =>
    obtain ⟨-, rfl⟩ := runs_add.1 run
    intro other found hg entity pair
    rcases Collection.of_get?_add hg with ⟨-, rfl⟩ | ⟨-, hg⟩
    · exact absurd entity proper.2
    · exact hp other found hg entity pair
  | pair fqcn =>
    obtain ⟨c, grown, rfl⟩ := runs_rawArrays.1 run
    have among := @pairsAmong_addRawArrays final roots untwinned s.collection [fqcn] hs
    rw [grown] at among
    exact among matures (fun other ho => List.mem_singleton.1 ho ▸ .root (asked fqcn rfl)) hp

theorem Performed.pairsAmong (h : Performed deeds s s') (proper : ∀ deed ∈ deeds, deed.Proper)
    (silent : Collection.Silent s'.events) (hs : Sound s.collection) (matures : MaturesInto s'.collection final)
    (untwinned : AllUntwinned final) (asked : ∀ fqcn, .pair fqcn ∈ deeds → roots fqcn)
    (hp : PairsAmong (Reached roots final) s.collection) : PairsAmong (Reached roots final) s'.collection := by
  induction h with
  | done s => exact hp
  | report events _ ih => exact ih proper silent hs matures asked hp
  | @deed deed deeds s middle s' ready run rest ih =>
    obtain ⟨first, others⟩ := List.forall_mem_cons.1 proper
    have still := rest.silent others silent
    obtain ⟨sound, -⟩ := (Deed.mirrors first).sound run ready still hs
    obtain ⟨-, later, -⟩ := rest.sound others silent sound
    refine ih others silent sound matures (fun fqcn hm => asked fqcn (List.mem_cons_of_mem _ hm)) ?_
    exact Deed.pairsAmong first run still hs (later.trans matures sound.toAllOrderly) untwinned
      (fun fqcn he => asked fqcn (he ▸ List.mem_cons_self)) hp

/-! ## All reached entities have the pair -/

/-- In a closed collection the pair of an entity leads to that of the entities of its properties. -/
theorem Closed.hasMethod_hinted {target : ClassModel} {p : Property} (closed : Closed [] c) (untwinned : AllUntwinned c)
    (hm : c.get? fqcn = some m) (entity : m.kind = .entity) (pair : m.hasMethod "fromArray" = true)
    (hp : p ∈ m.properties.values) (ht : c.get? (hinted m p) = some target) (target_entity : target.kind = .entity) :
    target.hasMethod "fromArray" = true := by
  obtain ⟨-, imports, perm, all⟩ := (closed fqcn m hm).entity entity pair
  have same : m.Akin { m with imports := imports } := ⟨rfl, rfl, fun _ => rfl, fun _ => perm.mem_iff.symm⟩
  have converting := all p hp
  rw [← same.importedOrLocal_eq (untwinned _ _ hm)] at converting
  obtain ⟨target', conversion, ht', hk, converts⟩ := converting
  obtain rfl := Option.some.inj (ht.symm.trans ht')
  rw [target_entity] at hk
  obtain rfl := Option.some.inj hk
  rcases converts with converts | ⟨-, waiting⟩
  · exact converts.1
  · cases waiting

theorem Reached.hasMethod (h : Reached (.pair · ∈ deeds) final fqcn) (done : Accomplished deeds final)
    (closed : Closed [] final) (untwinned : AllUntwinned final) :
    ∀ {m}, final.get? fqcn = some m → m.kind = .entity → m.hasMethod "fromArray" = true := by
  induction h with
  | root hr =>
    intro m hm entity
    obtain ⟨last, hl, none⟩ := done.paired hr
    obtain rfl := Option.some.inj (hm.symm.trans hl)
    simpa [lacksRawArray, entity] using none
  | property _ hm entity hp ht target_entity ih =>
    intro m' hm' _
    obtain rfl := Option.some.inj (ht.symm.trans hm')
    exact closed.hasMethod_hinted untwinned hm entity (ih hm entity) hp ht target_entity

/-- After silent deeds an entity has the pair if and only if it is reached from those that it was given to. -/
theorem Performed.hasMethod_iff (h : Performed deeds s s') (proper : ∀ deed ∈ deeds, deed.Proper)
    (silent : Collection.Silent s'.events) (empty : s.collection = {}) (closed : Closed [] s'.collection)
    (untwinned : AllUntwinned s'.collection) (hm : s'.collection.get? fqcn = some m) (entity : m.kind = .entity) :
    m.hasMethod "fromArray" = true ↔ Reached (.pair · ∈ deeds) s'.collection fqcn := by
  have sound : Sound s.collection := by
    rw [empty]
    exact sound_empty
  have none : PairsAmong (Reached (.pair · ∈ deeds) s'.collection) s.collection := by
    intro fqcn m hm
    rw [empty] at hm
    cases hm
  obtain ⟨-, -, done⟩ := h.sound proper silent sound
  constructor
  · exact h.pairsAmong proper silent sound (.refl _) untwinned (fun _ => id) none fqcn m hm entity
  · exact fun reached => reached.hasMethod done closed untwinned hm entity

end SchemaClasses
