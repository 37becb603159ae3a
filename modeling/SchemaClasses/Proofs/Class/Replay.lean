/-
Building the same set again. A first run without replaced classes leaves a collection in which each class
is a later form of what it was at any time of the run. A second run from that collection goes in lockstep:
under a name that is not built again yet stands the final class, under the others the class that the first
run had there, with the pair of the final one.
-/
import SchemaClasses.Proofs.Class.Graph
import SchemaClasses.Proofs.Class.Orderly

namespace SchemaClasses

open ClassModel Collection

variable {c c' final : Collection} {s s' t t' : BuildState} {fqcn : String} {m last : ClassModel}

/-! ## Sound collections -/

/-- A class has no method of the pair, or both as they are made from some lines. -/
inductive Whole (m : ClassModel) : Prop
  | bare : m.methods.at? "fromArray" = none → m.methods.at? "toArray" = none → Whole m
  | paired {lines : List PropertyLines} : m.methods.at? "fromArray" = some (fromArrayMethod lines) →
      m.methods.at? "toArray" = some (toArrayMethod lines) → Whole m

/-- No name comes twice, and all classes are orderly. -/
structure AllOrderly (c : Collection) : Prop where
  distinct : c.classes.Distinct
  orderly : ∀ {fqcn m}, c.get? fqcn = some m → m.Orderly

/-- The entities among orderly classes are whole. -/
structure Sound (c : Collection) : Prop extends AllOrderly c where
  whole : ∀ {fqcn m}, c.get? fqcn = some m → m.kind = .entity → Whole m

theorem sound_empty : Sound {} where
  distinct := Entries.distinct_nil
  orderly := fun h => by cases h
  whole := fun h => by cases h

theorem AllOrderly.add (h : AllOrderly c) (hm : m.Orderly) : AllOrderly (c.add m) := by
  refine ⟨h.distinct.put, fun {fqcn found} hf => ?_⟩
  rcases of_get?_add hf with ⟨-, rfl⟩ | ⟨-, hf⟩
  · exact hm
  · exact h.orderly hf

theorem Sound.add (h : Sound c) (hm : m.Orderly) (whole : m.kind = .entity → Whole m) : Sound (c.add m) := by
  refine ⟨h.toAllOrderly.add hm, fun {fqcn found} hf => ?_⟩
  rcases of_get?_add hf with ⟨-, rfl⟩ | ⟨-, hf⟩
  · exact whole
  · exact h.whole hf

theorem whole_withRawArray (lines : List PropertyLines) (m : ClassModel) : Whole (m.withRawArray lines) :=
  .paired (at?_fromArray_withRawArray lines m) (at?_toArray_withRawArray lines m)

theorem Sound.adjust (h : Sound c) (lines : List PropertyLines) : Sound (c.adjust fqcn (·.withRawArray lines)) := by
  refine ⟨⟨?_, fun {other m} hm => ?_⟩, fun {other m} hm hk => ?_⟩
  · unfold Entries.Distinct Collection.adjust
    rw [Entries.names_adjust]
    exact h.distinct
  · rcases of_get?_adjust hm with ⟨-, before, hb, rfl⟩ | ⟨-, hm⟩
    · exact (h.orderly hb).withRawArray lines
    · exact h.orderly hm
  · rcases of_get?_adjust hm with ⟨-, before, -, rfl⟩ | ⟨-, hm⟩
    · exact whole_withRawArray lines before
    · exact h.whole hm hk

/-! ## Later collections -/

/-- All classes stay, in later forms. -/
def MaturesInto (c final : Collection) : Prop :=
  ∀ fqcn m, c.get? fqcn = some m → ∃ last, final.get? fqcn = some last ∧ Matures m last

theorem MaturesInto.refl (c : Collection) : MaturesInto c c := fun _ m h => ⟨m, h, .refl m⟩

theorem MaturesInto.trans (h : MaturesInto c c') (h' : MaturesInto c' final) (hc : AllOrderly c) :
    MaturesInto c final := by
  intro fqcn m hm
  obtain ⟨m', hm', matures⟩ := h fqcn m hm
  obtain ⟨last, hl, matures'⟩ := h' fqcn m' hm'
  exact ⟨last, hl, matures.trans matures' (hc.orderly hm)⟩

theorem maturesInto_add (hc : AllOrderly c) (silent : c.addEvents m = []) : MaturesInto c (c.add m) := by
  intro fqcn found hf
  rw [get?_add]
  split
  · rename_i he
    subst he
    exact ⟨m, rfl, matures_of_reordered (reordered_of_silent silent (hc.orderly hf) hf)⟩
  · exact ⟨found, hf, .refl found⟩

theorem Grows.maturesInto (h : Grows c c') : MaturesInto c c' := by
  intro fqcn m hm
  obtain ⟨m', hm', paired⟩ := h.exists_paired hm
  exact ⟨m', hm', matures_of_paired paired⟩

/-! ## The second run beside the first one -/

/-- What stands under a name in the second run, while the first one had `current` there. -/
def replayed (current : Option ClassModel) (last : ClassModel) : ClassModel :=
  match current with
  | none => last
  | some m => Build.keepRawArray (some last) m

/-- The collection `t` of the second run, while the first one had the collection `c`. -/
structure Mirror (final c t : Collection) : Prop where
  names : t.names = final.names
  classes : ∀ fqcn, t.get? fqcn = (final.get? fqcn).map (replayed (c.get? fqcn))

theorem mirror_empty (final : Collection) : Mirror final {} final := by
  refine ⟨rfl, fun fqcn => ?_⟩
  show final.get? fqcn = (final.get? fqcn).map (replayed none)
  cases final.get? fqcn <;> rfl

variable {made : Collection}

/-- At any time the second run has the final classes, up to order. -/
theorem Mirror.exists_reordered (h : Mirror final c made) (hc : AllOrderly c) (matures : MaturesInto c final)
    (hl : final.get? fqcn = some last) : ∃ there, made.get? fqcn = some there ∧ there.Reordered last := by
  refine ⟨_, (h.classes fqcn).trans (congrArg _ hl), ?_⟩
  cases hf : c.get? fqcn with
  | none => exact .refl last
  | some m =>
    obtain ⟨last', hl', hm⟩ := matures fqcn m hf
    obtain rfl := Option.some.inj (hl.symm.trans hl')
    exact hm.reordered (hc.orderly hf)

theorem Mirror.add (h : Mirror final c made) (hl : final.get? m.fqcn = some last) :
    Mirror final (c.add m) (made.add (Build.keepRawArray (some last) m)) := by
  constructor
  · have there : m.fqcn ∈ final.names := isSome_lookup.1 (Option.isSome_iff_exists.2 ⟨last, hl⟩)
    have names : made.classes.names = final.names := h.names
    show (made.classes.put _ _).names = _
    rw [fqcn_keepRawArray, Entries.names_put, names, if_pos there]
  · intro fqcn
    rw [get?_add, get?_add, fqcn_keepRawArray]
    split
    · rename_i he
      rw [he, hl]
      rfl
    · exact h.classes fqcn

/-- A pair that the first run gives to a class is there in the second run already. -/
theorem Mirror.grows (h : Mirror final c made) (hg : Grows c c') (hc : AllOrderly c) (hc' : AllOrderly c')
    (matures : MaturesInto c' final) : Mirror final c' made := by
  refine ⟨h.names, fun fqcn => (h.classes fqcn).trans ?_⟩
  cases hb : c.get? fqcn with
  | none =>
    have grown := hg fqcn
    rw [hb] at grown
    generalize c'.get? fqcn = after at grown
    cases grown
    rfl
  | some before =>
    obtain ⟨after, ha, gained⟩ := hg.exists_paired hb
    obtain ⟨last, hl, m₁, paired, same⟩ := matures fqcn after ha
    rw [ha, hl]
    show some (Build.keepRawArray (some last) before) = some (Build.keepRawArray (some last) after)
    rw [keepRawArray_of_paired (gained.trans paired) same (hc.orderly hb),
      keepRawArray_of_paired paired same (hc'.orderly ha)]

/-- A second run ends with the final collection, and begins with it. -/
theorem Mirror.eq_final (h : Mirror final c made) (hf : AllOrderly final)
    (part : ∀ fqcn m, c.get? fqcn = some m → final.get? fqcn = some m) : made = final := by
  have same : made.classes = final.classes := by
    refine (Entries.eq_of_at? hf.distinct h.names.symm fun fqcn => ?_).symm
    refine Eq.symm ((h.classes fqcn).trans ?_)
    cases hc : c.get? fqcn with
    | none =>
      show (final.get? fqcn).map (replayed none) = final.get? fqcn
      cases final.get? fqcn <;> rfl
    | some m =>
      have hl := part fqcn m hc
      refine (congrArg (Option.map _) hl).trans (Eq.trans ?_ hl.symm)
      exact congrArg some (keepRawArray_of_held (hf.orderly hl).own fun _ _ => id)
  cases made
  cases final
  exact congrArg _ same

/-- What the first run adds in silence, the second run adds in silence with the pair of the final class. -/
theorem Mirror.add_silent (h : Mirror final c made) (hc : Sound c) (hf : AllOrderly final) (hm : m.Orderly)
    (silent : c.addEvents m = []) (matures : MaturesInto (c.add m) final) : ∃ there last,
      made.get? m.fqcn = some there ∧ there.Reordered last ∧ last.Orderly ∧ Matures m last ∧
      made.addEvents (Build.keepRawArray (some last) m) = [] ∧
      Mirror final (c.add m) (made.add (Build.keepRawArray (some last) m)) := by
  obtain ⟨last, hl, later⟩ := matures _ m get?_add_self
  have before := (maturesInto_add hc.toAllOrderly silent).trans matures hc.toAllOrderly
  obtain ⟨there, ht, same⟩ := h.exists_reordered hc.toAllOrderly before hl
  have orderly := same.symm.orderly (hf.orderly hl)
  have found : made.get? (Build.keepRawArray (some last) m).fqcn = some there := by rwa [fqcn_keepRawArray]
  exact ⟨there, last, ht, same, hf.orderly hl, later,
    addEvents_of_reordered orderly found (same.trans (later.reordered hm).symm), h.add hl⟩

/-! ## Actions that can be mirrored -/

/-- A silent run of the action from a sound collection leaves a sound one with later forms of all classes,
and a second run goes beside it, as long as the collection at the beginning is as given. -/
structure Mirrors {α : Type} (given : Collection → Prop) (action : Build α) : Prop where
  silent : ∀ {s s' a}, Runs action s (.ok a) s' → given s.collection → Silent s'.events → Silent s.events
  sound : ∀ {s s' a}, Runs action s (.ok a) s' → given s.collection → Silent s'.events → Sound s.collection →
    Sound s'.collection ∧ MaturesInto s.collection s'.collection
  again : ∀ {s s' a}, Runs action s (.ok a) s' → given s.collection → Silent s'.events → Sound s.collection →
    ∀ {final t}, AllOrderly final → MaturesInto s'.collection final → Mirror final s.collection t.collection →
      ∃ made events, Runs action t (.ok a) ⟨made, t.events ++ events⟩ ∧ Silent events ∧
        Mirror final s'.collection made

/-- Nothing is asked of the collection. -/
def Anything (_ : Collection) : Prop := True

section Mirrors

variable {α β : Type} {given : Collection → Prop}

/-- An action that fails or leaves the state as it is. -/
theorem mirrors_of_idle {action : Build α} (idle : ∀ {s s' a}, Runs action s (.ok a) s' → s' = s ∧
    ∀ t, Runs action t (.ok a) t) : Mirrors given action where
  silent := fun h _ silent => (idle h).1 ▸ silent
  sound := fun h _ _ hs => by
    rw [(idle h).1]
    exact ⟨hs, MaturesInto.refl _⟩
  again := fun h _ _ _ final t _ _ mirror => by
    obtain ⟨rfl, same⟩ := idle h
    exact ⟨t.collection, [], by simpa using same t, fun _ hm => List.not_mem_nil hm, mirror⟩

theorem mirrors_pure {a : α} : Mirrors given (pure a : Build α) :=
  mirrors_of_idle fun h => by
    obtain ⟨⟨⟩, rfl⟩ := runs_pure.1 h
    exact ⟨rfl, fun t => runs_pure.2 ⟨rfl, rfl⟩⟩

theorem mirrors_throw {e : GenerateError} : Mirrors given (throw e : Build α) :=
  mirrors_of_idle fun h => by cases (runs_throw.1 h).1

theorem mirrors_fromExcept {value : Except GenerateError α} : Mirrors given (Build.fromExcept value) :=
  mirrors_of_idle fun h => by
    obtain ⟨rfl, rfl⟩ := Build.runs_fromExcept.1 h
    exact ⟨rfl, fun t => Build.runs_fromExcept.2 ⟨rfl, rfl⟩⟩

theorem mirrors_report {events : List Event} : Mirrors given (Build.report events) where
  silent := fun h _ silent => by
    obtain ⟨-, rfl⟩ := Build.runs_report.1 h
    exact silent.of_append_left
  sound := fun h _ _ hs => by
    obtain ⟨-, rfl⟩ := Build.runs_report.1 h
    exact ⟨hs, MaturesInto.refl _⟩
  again := fun h _ silent _ final t _ _ mirror => by
    obtain ⟨-, rfl⟩ := Build.runs_report.1 h
    exact ⟨t.collection, events, Build.runs_report.2 ⟨rfl, rfl⟩, silent.of_append_right, mirror⟩

theorem Mirrors.bind {action : Build α} {next : α → Build β} (hm : Mirrors given action)
    (given' : α → Collection → Prop)
    (leads : ∀ {s s' a}, given s.collection → Runs action s (.ok a) s' → given' a s'.collection)
    (hn : ∀ a, Mirrors (given' a) (next a)) : Mirrors given (action >>= next) where
  silent := fun h hg silent => by
    obtain ⟨a, s₁, ha, hb⟩ := runs_bind_ok.1 h
    exact hm.silent ha hg ((hn a).silent hb (leads hg ha) silent)
  sound := fun h hg silent hs => by
    obtain ⟨a, s₁, ha, hb⟩ := runs_bind_ok.1 h
    have silent₁ := (hn a).silent hb (leads hg ha) silent
    obtain ⟨sound₁, matures₁⟩ := hm.sound ha hg silent₁ hs
    obtain ⟨sound₂, matures₂⟩ := (hn a).sound hb (leads hg ha) silent sound₁
    exact ⟨sound₂, matures₁.trans matures₂ hs.toAllOrderly⟩
  again := fun h hg silent hs final t hf matures mirror => by
    obtain ⟨a, s₁, ha, hb⟩ := runs_bind_ok.1 h
    have silent₁ := (hn a).silent hb (leads hg ha) silent
    obtain ⟨sound₁, -⟩ := hm.sound ha hg silent₁ hs
    obtain ⟨-, matures₂⟩ := (hn a).sound hb (leads hg ha) silent sound₁
    -- what the second part leaves of the classes carries the first part to the final ones
    obtain ⟨made₁, events₁, again₁, quiet₁, mirror₁⟩ :=
      hm.again ha hg silent₁ hs hf (matures₂.trans matures sound₁.toAllOrderly) mirror
    obtain ⟨made₂, events₂, again₂, quiet₂, mirror₂⟩ :=
      @(hn a).again _ _ _ hb (leads hg ha) silent sound₁ final ⟨made₁, t.events ++ events₁⟩ hf matures mirror₁
    refine ⟨made₂, events₁ ++ events₂, runs_bind_ok.2 ⟨a, _, again₁, ?_⟩, fun fqcn he => ?_, mirror₂⟩
    · rw [← List.append_assoc]
      exact again₂
    · exact (List.mem_append.1 he).elim (quiet₁ fqcn) (quiet₂ fqcn)

/-- A sequence in which the second part asks for nothing. -/
theorem Mirrors.andThen {action : Build α} {next : α → Build β} (hm : Mirrors given action)
    (hn : ∀ a, Mirrors Anything (next a)) : Mirrors given (action >>= next) :=
  hm.bind (fun _ => Anything) (fun _ _ => trivial) hn

theorem Mirrors.weaken {action : Build α} (h : Mirrors Anything action) : Mirrors given action where
  silent := fun hr _ => h.silent hr trivial
  sound := fun hr _ => h.sound hr trivial
  again := fun hr _ => h.again hr trivial

theorem mirrors_of_given {p : Prop} {action : Build α} (h : p → Mirrors Anything action) :
    Mirrors (fun _ => p) action where
  silent := fun hr hp => (h hp).silent hr trivial
  sound := fun hr hp => (h hp).sound hr trivial
  again := fun hr hp => (h hp).again hr trivial

end Mirrors

/-! ## The single actions -/

namespace Build

theorem mirrors_noteUnion {set : TypeSet} : Mirrors Anything (noteUnion set) := by
  unfold noteUnion
  split
  · exact mirrors_report
  · exact mirrors_pure

theorem mirrors_throughReference : (set : TypeSet) → Mirrors Anything (throughReference set)
  | ⟨.reference .., _⟩ => mirrors_noteUnion.andThen fun _ => mirrors_throw
  | ⟨.object .., _⟩ | ⟨.array .., _⟩ | ⟨.string .., _⟩ | ⟨.integer _, _⟩ | ⟨.number _, _⟩ | ⟨.boolean _, _⟩ =>
    mirrors_noteUnion.andThen fun _ => mirrors_pure

theorem mirrors_resolveFirst : (set : TypeSet) → Mirrors Anything (resolveFirst set)
  | ⟨.reference _ _ none, _⟩ => mirrors_noteUnion.andThen fun _ => mirrors_throw
  | ⟨.reference _ _ (some inner), _⟩ =>
    mirrors_noteUnion.andThen fun _ => (mirrors_throughReference inner).andThen fun _ => mirrors_pure
  | ⟨.object .., _⟩ | ⟨.array .., _⟩ | ⟨.string .., _⟩ | ⟨.integer _, _⟩ | ⟨.number _, _⟩ | ⟨.boolean _, _⟩ =>
    mirrors_noteUnion.andThen fun _ => mirrors_pure

theorem mirrors_valueObject {v : ValueObjects} {className space : String} {d : TypeDef} :
    Mirrors Anything (valueObject v className space d) :=
  mirrors_fromExcept.andThen fun _ => mirrors_report.andThen fun _ => mirrors_pure

/-- A class that has nothing to take over is added as it is. -/
theorem mirrors_add (hm : m.Orderly) (hk : m.kind ≠ .entity) : Mirrors Anything (add m) where
  silent := fun h _ silent => by
    obtain ⟨-, rfl⟩ := runs_add.1 h
    exact silent.of_append_left
  sound := fun h _ silent hs => by
    obtain ⟨-, rfl⟩ := runs_add.1 h
    exact ⟨hs.add hm fun entity => absurd entity hk,
      maturesInto_add hs.toAllOrderly silent.of_append_right.addEvents_eq⟩
  again := fun h _ silent hs final t hf matures mirror => by
    obtain ⟨-, rfl⟩ := runs_add.1 h
    obtain ⟨there, last, -, -, -, ⟨m₁, paired, same⟩, quiet, mirror⟩ :=
      mirror.add_silent hs hf hm silent.of_append_right.addEvents_eq matures
    -- only entities gain the pair
    have unpaired : m₁ = m := paired.resolve_right fun ⟨lacks, _⟩ => by simp [lacksRawArray, hk] at lacks
    rw [keepRawArray_of_paired paired same hm, unpaired] at quiet mirror
    refine ⟨t.collection.add m, [], runs_add.2 ⟨rfl, ?_⟩, fun _ he => List.not_mem_nil he, mirror⟩
    rw [BuildState.add, quiet]

/-- An entity without methods takes the pair of a whole class. -/
theorem paired_keepRawArray {previous : Option ClassModel} (entity : m.kind = .entity) (none : m.methods = [])
    (whole : ∀ earlier, previous = some earlier → Whole earlier) : Paired m (keepRawArray previous m) := by
  cases previous with
  | none => exact .inl rfl
  | some earlier =>
    cases whole earlier rfl with
    | bare wraps unwraps =>
      left
      unfold keepRawArray
      simp [wraps, unwraps, addMethods]
    | @paired lines wraps unwraps =>
      refine .inr ⟨?_, lines, keepRawArray_of_pair wraps unwraps⟩
      simp [lacksRawArray, entity, ClassModel.hasMethod, Entries.hasName, none]

theorem whole_of_paired {m' : ClassModel} (h : Paired m m') (none : m.methods = []) : Whole m' := by
  rcases h with rfl | ⟨-, lines, rfl⟩
  · exact .bare (by simp [none]) (by simp [none])
  · exact whole_withRawArray lines m

/-- What an entity takes over in silence is the pair or nothing. -/
theorem paired_of_sound (hc : Sound c) (entity : m.kind = .entity) (none : m.methods = [])
    (silent : c.addEvents (keepRawArray (c.get? m.fqcn) m) = []) : Paired m (keepRawArray (c.get? m.fqcn) m) := by
  refine paired_keepRawArray entity none fun earlier he => ?_
  refine hc.whole he ((kind_of_silent silent ?_).trans ((kind_keepRawArray _ _).trans entity))
  rwa [fqcn_keepRawArray]

/-- An entity that takes the pair in the first run takes that of its later form in the second one, and is
the same class afterwards. -/
theorem mirrors_addEntity (hm : m.Orderly) (entity : m.kind = .entity) (none : m.methods = []) :
    Mirrors Anything (addEntity m) := by
  constructor
  · intro s s' a h _ silent
    obtain ⟨-, rfl⟩ := runs_addEntity.1 h
    exact silent.of_append_left.of_append_left
  · intro s s' a h _ silent hs
    obtain ⟨-, rfl⟩ := runs_addEntity.1 h
    have silent := silent.of_append_right.addEvents_eq
    exact ⟨hs.add (orderly_keepRawArray hm) fun _ => whole_of_paired (paired_of_sound hs entity none silent) none,
      maturesInto_add hs.toAllOrderly silent⟩
  · intro s s' a h _ silent hs final t hf matures mirror
    obtain ⟨-, rfl⟩ := runs_addEntity.1 h
    have silent := silent.of_append_right.addEvents_eq
    obtain ⟨there, last, ht, same, orderly, ⟨m₁, gained, reordered⟩, quiet, mirror⟩ :=
      mirror.add_silent hs hf (orderly_keepRawArray hm) silent matures
    rw [keepRawArray_of_paired gained reordered (orderly_keepRawArray hm)] at quiet mirror
    rw [fqcn_keepRawArray] at ht
    -- what stands there in the second run has the pair of the final class
    have made : keepRawArray (t.collection.get? m.fqcn) m = m₁ := by
      have tidy := (same.symm.orderly orderly).toTidy
      rw [ht, keepRawArray_congr (same.method_eq tidy _) (same.method_eq tidy _)]
      exact keepRawArray_of_paired ((paired_of_sound hs entity none silent).trans gained) reordered hm
    refine ⟨t.collection.add m₁, [.entityBuilt m.fqcn m.properties.length], runs_addEntity.2 ⟨rfl, ?_⟩,
      silent_of_all rfl, mirror⟩
    rw [made, BuildState.add, BuildState.report, quiet, List.append_nil]

/-- In the second run every entity has the pair already that the first run gave to it. -/
theorem mirrors_rawArrays : Mirrors (fun c => c.contains fqcn = true) (rawArrays fqcn) := by
  have grows : ∀ {s s' : BuildState} {a : Unit}, Runs (rawArrays fqcn) s (.ok a) s' →
      Sound s.collection → Sound s'.collection ∧ Grows s.collection s'.collection := by
    intro s s' a h hs
    obtain ⟨c, hc, rfl⟩ := runs_rawArrays.1 h
    have sound := addRawArrays_keeps (P := Sound) (fun _ _ _ sound => sound.adjust _) s.collection [fqcn] hs
    rw [hc] at sound
    exact ⟨sound, grows_of_addRawArrays hc⟩
  constructor
  · intro s s' a h _ silent
    obtain ⟨c, hc, rfl⟩ := runs_rawArrays.1 h
    exact silent
  · intro s s' a h _ _ hs
    obtain ⟨sound, grown⟩ := grows h hs
    exact ⟨sound, grown.maturesInto⟩
  · intro s s' a h there _ hs final t hf matures mirror
    obtain ⟨sound, grown⟩ := grows h hs
    obtain ⟨c, hc, rfl⟩ := runs_rawArrays.1 h
    -- the second run finds no lack, for the final class has none
    have skip : ∀ m, t.collection.get? fqcn = some m → lacksRawArray m = false := by
      intro m hm
      obtain ⟨before, hb⟩ := contains_iff.1 there
      obtain ⟨after, ha, -⟩ := grown.exists_paired hb
      have none := addRawArrays_done s.collection [fqcn] (congrArg Prod.fst hc) fqcn List.mem_cons_self after
      rw [hc] at none
      have none := none ha
      obtain ⟨last, hl, m₁, paired, reordered⟩ := matures fqcn after ha
      obtain rfl : m₁ = after := paired.resolve_right fun ⟨lacks, _⟩ => by simp [none] at lacks
      have later := grown.maturesInto.trans matures hs.toAllOrderly
      obtain ⟨m', hm', same⟩ := mirror.exists_reordered hs.toAllOrderly later hl
      obtain rfl := Option.some.inj (hm.symm.trans hm')
      rw [same.lacks_eq (same.symm.orderly (hf.orderly hl)), ← reordered.lacks_eq (sound.orderly ha), none]
    refine ⟨t.collection, [], runs_rawArrays.2 ⟨t.collection, ?_, ?_⟩, fun _ he => List.not_mem_nil he,
      mirror.grows grown hs.toAllOrderly sound.toAllOrderly matures⟩
    · rw [addRawArrays_skip' skip]
      exact addRawArrays_nil
    · rw [List.append_nil]

end Build

end SchemaClasses
