/-
How far the raw array form spreads. An entity gains the pair before the entities of its properties are looked at, and
one that has it is passed over, so the recursion comes to an end wherever the properties lead, back to where they came
from as well. What it has given the pair in the end is what properties lead to through entities that had none, as these
were before: a gain changes neither properties nor what their hints stand for.
-/
import SchemaClasses.Proofs.Class.Hints
import SchemaClasses.Proofs.Class.RawArray

namespace SchemaClasses

/-! ## The recursion -/

/-- The recursion, call by call: a list of names is gone through with an outcome and leaves a collection. An entity that
lacks the pair gains it if all its lines can be made, and then the entities of its properties are gone through before
the rest of the list; a fault ends everything and leaves the collection as far as it got. -/
inductive GivesPairs : Collection → List String → Except GenerateError Unit → Collection → Prop
  | done (c : Collection) : GivesPairs c [] (.ok ()) c
  | skip {c c' : Collection} {fqcn : String} {rest : List String} {outcome : Except GenerateError Unit} :
      (∀ m, c.get? fqcn = some m → lacksRawArray m = false) → GivesPairs c rest outcome c' →
      GivesPairs c (fqcn :: rest) outcome c'
  | fails {c : Collection} {fqcn : String} {m : ClassModel} {rest : List String} {e : GenerateError} :
      c.get? fqcn = some m → lacksRawArray m = true → allPropertyLines c m m.properties.values = .error e →
      GivesPairs c (fqcn :: rest) (.error e) c
  | stops {c c' : Collection} {fqcn : String} {m : ClassModel} {rest : List String} {lines : List PropertyLines}
      {e : GenerateError} :
      c.get? fqcn = some m → lacksRawArray m = true → allPropertyLines c m m.properties.values = .ok lines →
      GivesPairs (c.adjust fqcn (·.withRawArray lines)) (entitiesOf lines) (.error e) c' →
      GivesPairs c (fqcn :: rest) (.error e) c'
  | gives {c c₁ c' : Collection} {fqcn : String} {m : ClassModel} {rest : List String} {lines : List PropertyLines}
      {outcome : Except GenerateError Unit} :
      c.get? fqcn = some m → lacksRawArray m = true → allPropertyLines c m m.properties.values = .ok lines →
      GivesPairs (c.adjust fqcn (·.withRawArray lines)) (entitiesOf lines) (.ok ()) c₁ →
      GivesPairs c₁ rest outcome c' → GivesPairs c (fqcn :: rest) outcome c'

section Runs

variable {c c' : Collection} {pending front rest : List String} {outcome : Except GenerateError Unit}

theorem addRawArrays_append (c : Collection) (front rest : List String) :
    addRawArrays c (front ++ rest) = match addRawArrays c front with
      | (.ok (), c₁) => addRawArrays c₁ rest
      | (.error e, c₁) => (.error e, c₁) := by
  induction c, front using addRawArrays_induction with
  | done c => rw [addRawArrays_nil, List.nil_append]
  | skip c fqcn others hs ih => rw [List.cons_append, addRawArrays_skip' hs, addRawArrays_skip' hs, ih]
  | fails c fqcn others m e hf hl he =>
    rw [List.cons_append, addRawArrays_error hf hl he, addRawArrays_error hf hl he]
  | adds c fqcn others m lines hf hl ho ih =>
    rw [List.cons_append, addRawArrays_add hf hl ho, addRawArrays_add hf hl ho, ← ih, List.append_assoc]

theorem GivesPairs.addRawArrays_eq (h : GivesPairs c pending outcome c') : addRawArrays c pending = (outcome, c') := by
  induction h with
  | done c => exact addRawArrays_nil
  | skip hs _ ih => rw [addRawArrays_skip' hs, ih]
  | fails hf hl he => exact addRawArrays_error hf hl he
  | stops hf hl ho _ ih => rw [addRawArrays_add hf hl ho, addRawArrays_append, ih]
  | gives hf hl ho _ _ ih ih' =>
    rw [addRawArrays_add hf hl ho, addRawArrays_append, ih]
    exact ih'

/-- What goes through a list goes through its front first. -/
theorem GivesPairs.of_append (h : GivesPairs c (front ++ rest) outcome c') :
    (∃ c₁, GivesPairs c front (.ok ()) c₁ ∧ GivesPairs c₁ rest outcome c') ∨
      ∃ e, outcome = .error e ∧ GivesPairs c front (.error e) c' := by
  generalize hn : front ++ rest = names at h
  induction h generalizing front with
  | done c =>
    obtain ⟨rfl, rfl⟩ := List.append_eq_nil_iff.1 hn
    exact .inl ⟨c, .done c, .done c⟩
  | skip hs h ih =>
    rcases List.append_eq_cons_iff.1 hn with ⟨rfl, rfl⟩ | ⟨others, rfl, rfl⟩
    · exact .inl ⟨_, .done _, .skip hs h⟩
    · rcases ih rfl with ⟨c₁, first, second⟩ | ⟨e, rfl, first⟩
      · exact .inl ⟨c₁, .skip hs first, second⟩
      · exact .inr ⟨e, rfl, .skip hs first⟩
  | fails hf hl he =>
    rcases List.append_eq_cons_iff.1 hn with ⟨rfl, rfl⟩ | ⟨others, rfl, rfl⟩
    · exact .inl ⟨_, .done _, .fails hf hl he⟩
    · exact .inr ⟨_, rfl, .fails hf hl he⟩
  | stops hf hl ho h _ =>
    rcases List.append_eq_cons_iff.1 hn with ⟨rfl, rfl⟩ | ⟨others, rfl, rfl⟩
    · exact .inl ⟨_, .done _, .stops hf hl ho h⟩
    · exact .inr ⟨_, rfl, .stops hf hl ho h⟩
  | gives hf hl ho h h' _ ih =>
    rcases List.append_eq_cons_iff.1 hn with ⟨rfl, rfl⟩ | ⟨others, rfl, rfl⟩
    · exact .inl ⟨_, .done _, .gives hf hl ho h h'⟩
    · rcases ih rfl with ⟨c₁, first, second⟩ | ⟨e, rfl, first⟩
      · exact .inl ⟨c₁, .gives hf hl ho h first, second⟩
      · exact .inr ⟨e, rfl, .gives hf hl ho h first⟩

/-- The recursion comes to an end, in every collection. -/
theorem givesPairs_addRawArrays (c : Collection) (pending : List String) :
    GivesPairs c pending (addRawArrays c pending).1 (addRawArrays c pending).2 := by
  induction c, pending using addRawArrays_induction with
  | done c =>
    rw [addRawArrays_nil]
    exact .done c
  | skip c fqcn rest hs ih =>
    rw [addRawArrays_skip' hs]
    exact .skip hs ih
  | fails c fqcn rest m e hf hl he =>
    rw [addRawArrays_error hf hl he]
    exact .fails hf hl he
  | adds c fqcn rest m lines hf hl ho ih =>
    rw [addRawArrays_add hf hl ho]
    rcases ih.of_append with ⟨c₁, first, second⟩ | ⟨e, he, first⟩
    · exact .gives hf hl ho first second
    · rw [he]
      exact .stops hf hl ho first

end Runs

/-! ## What awaits the pair -/

/-- An entity that lacks the pair and is asked for, or is what a property of such an entity stands for. -/
inductive Awaits (c : Collection) (pending : List String) : String → Prop
  | asked {fqcn : String} {m : ClassModel} : fqcn ∈ pending → c.get? fqcn = some m → lacksRawArray m = true →
      Awaits c pending fqcn
  | property {fqcn : String} {m m' : ClassModel} {p : Property} : Awaits c pending fqcn → c.get? fqcn = some m →
      p ∈ m.properties.values → c.get? (hinted m p) = some m' → lacksRawArray m' = true →
      Awaits c pending (hinted m p)

section Awaiting

variable {c : Collection} {pending rest : List String} {fqcn other : String} {m : ClassModel}
  {lines : List PropertyLines}

theorem Awaits.exists_lacking (h : Awaits c pending fqcn) : ∃ m, c.get? fqcn = some m ∧ lacksRawArray m = true := by
  cases h with
  | asked _ hf hl => exact ⟨_, hf, hl⟩
  | property _ _ _ hf hl => exact ⟨_, hf, hl⟩

theorem not_awaits_nil (h : Awaits c [] fqcn) : False := by
  induction h with
  | asked hm => cases hm
  | property _ _ _ _ _ ih => exact ih

theorem Awaits.cons (h : Awaits c rest other) (fqcn : String) : Awaits c (fqcn :: rest) other := by
  induction h with
  | asked hm hf hl => exact .asked (List.mem_cons_of_mem _ hm) hf hl
  | property _ hf hp hf' hl ih => exact .property ih hf hp hf' hl

/-- A class that does not lack the pair leads nowhere. -/
theorem Awaits.of_skip (hs : ∀ m, c.get? fqcn = some m → lacksRawArray m = false)
    (h : Awaits c (fqcn :: rest) other) : Awaits c rest other := by
  induction h with
  | asked hm hf hl =>
    rcases List.mem_cons.1 hm with rfl | hm
    · rw [hs _ hf] at hl
      cases hl
    · exact .asked hm hf hl
  | property _ hf hp hf' hl ih => exact .property ih hf hp hf' hl

theorem lacks_of_adjust (h : (c.adjust fqcn (·.withRawArray lines)).get? other = some m)
    (lacks : lacksRawArray m = true) : c.get? other = some m ∧ other ≠ fqcn := by
  rcases Collection.of_get?_adjust h with ⟨-, before, -, rfl⟩ | ⟨ne, hm⟩
  · rw [lacksRawArray_withRawArray] at lacks
    cases lacks
  · exact ⟨hm, ne⟩

theorem get?_adjust_of_ne (lines : List PropertyLines) (ne : other ≠ fqcn) :
    (c.adjust fqcn (·.withRawArray lines)).get? other = c.get? other := by
  rw [Collection.get?_adjust, if_neg ne]

/-- The entities of an entity's properties are those that their hints stand for. -/
theorem mem_entitiesOf (ho : allPropertyLines c m m.properties.values = .ok lines) : other ∈ entitiesOf lines ↔
    ∃ p ∈ m.properties.values, other = hinted m p ∧ ∃ t, c.get? other = some t ∧ t.kind = .entity := by
  have all := forall₂_allPropertyLines ho
  unfold entitiesOf
  simp only [List.mem_map, List.mem_filter]
  constructor
  · rintro ⟨line, ⟨hl, entity⟩, rfl⟩
    obtain ⟨p, hp, made⟩ := exists_left_of_forall₂ all hl
    obtain ⟨t, -, ht, -, stands, same⟩ := propertyLines_ok made
    rw [same, beq_iff_eq] at entity
    exact ⟨p, hp, stands, t, ht, entity⟩
  · rintro ⟨p, hp, rfl, t, ht, entity⟩
    obtain ⟨line, hl, made⟩ := exists_right_of_forall₂ all hp
    obtain ⟨t', -, ht', -, stands, same⟩ := propertyLines_ok made
    have stands : line.fqcn = hinted m p := stands
    rw [stands, ht] at ht'
    cases ht'
    exact ⟨line, ⟨hl, by rw [same, entity]; rfl⟩, stands⟩

/-- Once an entity has gained the pair, what awaited it with this one still does. -/
theorem Awaits.after_gain (hf : c.get? fqcn = some m) (ho : allPropertyLines c m m.properties.values = .ok lines)
    (h : Awaits c (fqcn :: rest) other) :
    other = fqcn ∨ Awaits (c.adjust fqcn (·.withRawArray lines)) (entitiesOf lines ++ rest) other := by
  induction h with
  | @asked x mx hm hx lacks =>
    by_cases he : x = fqcn
    · exact .inl he
    · have there := List.mem_append_right (entitiesOf lines) ((List.mem_cons.1 hm).resolve_left he)
      exact .inr (.asked there ((get?_adjust_of_ne lines he).trans hx) lacks)
  | @property x mx mp p _ hx hp hmp lacks ih =>
    by_cases he : hinted mx p = fqcn
    · exact .inl he
    · have still := (get?_adjust_of_ne lines he).trans hmp
      rcases ih with rfl | ih
      · rw [hf] at hx
        cases hx
        have entity := (mem_entitiesOf ho).2 ⟨p, hp, rfl, mp, hmp, entity_of_lacks lacks⟩
        exact .inr (.asked (List.mem_append_left _ entity) still lacks)
      -- what awaits the pair after the gain is as it was
      · obtain ⟨found, hfound, lacking⟩ := ih.exists_lacking
        have same := (lacks_of_adjust hfound lacking).1
        rw [hx] at same
        cases same
        exact .inr (.property ih hfound hp still lacks)

theorem Awaits.before_gain (hf : c.get? fqcn = some m) (hl : lacksRawArray m = true)
    (ho : allPropertyLines c m m.properties.values = .ok lines)
    (h : Awaits (c.adjust fqcn (·.withRawArray lines)) (entitiesOf lines ++ rest) other) :
    Awaits c (fqcn :: rest) other := by
  induction h with
  | @asked x mx hm hx lacks =>
    obtain ⟨before, -⟩ := lacks_of_adjust hx lacks
    rcases List.mem_append.1 hm with hm | hm
    · obtain ⟨p, hp, rfl, -⟩ := (mem_entitiesOf ho).1 hm
      exact .property (.asked List.mem_cons_self hf hl) hf hp before lacks
    · exact .asked (List.mem_cons_of_mem _ hm) before lacks
  | property h hx hp hmp lacks ih =>
    obtain ⟨found, hfound, lacking⟩ := h.exists_lacking
    rw [hx] at hfound
    cases hfound
    exact .property ih (lacks_of_adjust hx lacking).1 hp (lacks_of_adjust hmp lacks).1 lacks

/-- The classes that are there in the end are those from before, and only such as awaited the pair have gained it. -/
theorem of_get?_addRawArrays (c : Collection) (pending : List String) :
    ∀ {fqcn m'}, (addRawArrays c pending).2.get? fqcn = some m' → ∃ m, c.get? fqcn = some m ∧
      (m' = m ∨ Awaits c pending fqcn ∧ ∃ lines, m' = m.withRawArray lines) := by
  induction c, pending using addRawArrays_induction with
  | done c =>
    intro other m' h
    rw [addRawArrays_nil] at h
    exact ⟨m', h, .inl rfl⟩
  | skip c fqcn rest hs ih =>
    intro other m' h
    rw [addRawArrays_skip' hs] at h
    obtain ⟨m, hm, same | ⟨awaits, gained⟩⟩ := ih h
    · exact ⟨m, hm, .inl same⟩
    · exact ⟨m, hm, .inr ⟨awaits.cons fqcn, gained⟩⟩
  | fails c fqcn rest m e hf hl he =>
    intro other m' h
    rw [addRawArrays_error hf hl he] at h
    exact ⟨m', h, .inl rfl⟩
  | adds c fqcn rest m lines hf hl ho ih =>
    intro other m' h
    rw [addRawArrays_add hf hl ho] at h
    obtain ⟨found, hfound, same | ⟨awaits, gained⟩⟩ := ih h
    · rcases Collection.of_get?_adjust hfound with ⟨rfl, before, hb, rfl⟩ | ⟨-, hm⟩
      · obtain rfl := Option.some.inj (hf.symm.trans hb)
        exact ⟨m, hf, .inr ⟨.asked List.mem_cons_self hf hl, lines, same⟩⟩
      · exact ⟨found, hm, .inl same⟩
    · obtain ⟨lacking, hlack, lacks⟩ := awaits.exists_lacking
      rw [hfound] at hlack
      cases hlack
      exact ⟨found, (lacks_of_adjust hfound lacks).1, .inr ⟨awaits.before_gain hf hl ho, gained⟩⟩

/-- Nothing still awaits the pair when all has gone well. -/
theorem not_lacks_of_awaits (c : Collection) (pending : List String) (ok : (addRawArrays c pending).1 = .ok ()) :
    ∀ {fqcn m'}, Awaits c pending fqcn → (addRawArrays c pending).2.get? fqcn = some m' →
      lacksRawArray m' = false := by
  induction c, pending using addRawArrays_induction with
  | done c =>
    intro other m' awaits
    exact absurd awaits not_awaits_nil
  | skip c fqcn rest hs ih =>
    intro other m' awaits h
    rw [addRawArrays_skip' hs] at h ok
    exact ih ok (awaits.of_skip hs) h
  | fails c fqcn rest m e hf hl he =>
    rw [addRawArrays_error hf hl he] at ok
    cases ok
  | adds c fqcn rest m lines hf hl ho ih =>
    intro other m' awaits h
    rcases awaits.after_gain hf ho with rfl | awaits
    · exact addRawArrays_done c _ ok _ List.mem_cons_self m' h
    · rw [addRawArrays_add hf hl ho] at h ok
      exact ih ok awaits h

end Awaiting

/-! ## Collections -/

/-- Two classes that differ at most in the entries of the pair: the other methods are the same ones in their order. -/
structure SameButPair (m m' : ClassModel) : Prop where
  same : m' = { m with methods := m'.methods }
  others : m'.methods.filter (fun entry => entry.1 ∉ ["fromArray", "toArray"]) =
    m.methods.filter fun entry => entry.1 ∉ ["fromArray", "toArray"]

theorem sameButPair_withRawArray (lines : List PropertyLines) (m : ClassModel) :
    SameButPair m (m.withRawArray lines) := by
  refine ⟨rfl, ?_⟩
  show ((m.methods.put "fromArray" (fromArrayMethod lines)).put "toArray" (toArrayMethod lines)).filter _ = _
  rw [Entries.filter_put fun _ => rfl, Entries.filter_put fun _ => rfl]

/-- Giving the raw array form to a class comes to an end, in every collection and in one way only. It changes no class
but entities that lacked the pair and are reached by properties from the class through such entities, and of these only
the entries of the pair; if it succeeds, all of them have both methods. -/
theorem addRawArrays_spreads (c : Collection) (fqcn : String) : ∃ outcome c',
    addRawArrays c [fqcn] = (outcome, c') ∧
    (∀ o d, GivesPairs c [fqcn] o d ↔ o = outcome ∧ d = c') ∧
    c'.names = c.names ∧
    (∀ other m', c'.get? other = some m' → ∃ m, c.get? other = some m ∧
      (m' = m ∨ Awaits c [fqcn] other ∧ SameButPair m m')) ∧
    (outcome = .ok () → ∀ other, Awaits c [fqcn] other → ∃ m', c'.get? other = some m' ∧
      m'.hasMethod "fromArray" = true ∧ m'.hasMethod "toArray" = true) := by
  refine ⟨_, _, rfl, fun o d => ⟨fun h => ?_, ?_⟩, names_addRawArrays c [fqcn], fun other m' h => ?_,
    fun ok other h => ?_⟩
  · rw [h.addRawArrays_eq]
    exact ⟨rfl, rfl⟩
  · rintro ⟨rfl, rfl⟩
    exact givesPairs_addRawArrays c [fqcn]
  · obtain ⟨m, hm, same | ⟨awaits, lines, rfl⟩⟩ := of_get?_addRawArrays c [fqcn] h
    · exact ⟨m, hm, .inl same⟩
    · exact ⟨m, hm, .inr ⟨awaits, sameButPair_withRawArray lines m⟩⟩
  · obtain ⟨m, hm, lacks⟩ := h.exists_lacking
    obtain ⟨m', hm', gained⟩ := (addRawArrays_grows c [fqcn]).exists_paired hm
    rcases gained with rfl | ⟨-, lines, rfl⟩
    · rw [not_lacks_of_awaits c [fqcn] ok h hm'] at lacks
      cases lacks
    · exact ⟨_, hm', (converts_withRawArray lines m).1, (converts_withRawArray lines m).2⟩

/-! ### Two entities that refer to each other -/

def towards (other : String) : Property := { name := "partner", typeHint := "?" ++ other }

def partner (name other : String) : ClassModel := (ClassModel.entity name "App").addProperty (towards other)

def partners : Collection := (({} : Collection).add (partner "A" "B")).add (partner "B" "A")

/-- The recursion comes back to the first entity and has given the pair to both. -/
theorem addRawArrays_spreads_partners : ∃ c', addRawArrays partners ["App\\A"] = (.ok (), c') ∧
    ∀ fqcn ∈ ["App\\A", "App\\B"], ∃ m', c'.get? fqcn = some m' ∧
      m'.hasMethod "fromArray" = true ∧ m'.hasMethod "toArray" = true := by
  have first : Awaits partners ["App\\A"] "App\\A" := .asked List.mem_cons_self (m := partner "A" "B") rfl rfl
  have second : Awaits partners ["App\\A"] "App\\B" :=
    @Awaits.property _ _ _ (partner "A" "B") (partner "B" "A") (towards "B") first rfl List.mem_cons_self rfl rfl
  have ok : (addRawArrays partners ["App\\A"]).1 = .ok () := by
    obtain ⟨lines, ho, he⟩ : ∃ lines, allPropertyLines partners (partner "A" "B") (partner "A" "B").properties.values =
        .ok lines ∧ entitiesOf lines = ["App\\B"] := ⟨_, rfl, by decide +kernel⟩
    rw [addRawArrays_add (m := partner "A" "B") rfl rfl ho, he]
    have there : (partners.adjust "App\\A" (·.withRawArray lines)).get? "App\\B" = some (partner "B" "A") := rfl
    obtain ⟨lines', ho', he'⟩ : ∃ lines', allPropertyLines (partners.adjust "App\\A" (·.withRawArray lines))
        (partner "B" "A") (partner "B" "A").properties.values = .ok lines' ∧ entitiesOf lines' = ["App\\A"] :=
      ⟨_, rfl, rfl⟩
    rw [List.singleton_append, addRawArrays_add there rfl ho', he', List.singleton_append]
    rw [addRawArrays_skip (m := (partner "A" "B").withRawArray lines) rfl (lacksRawArray_withRawArray _ _),
      addRawArrays_nil]
  obtain ⟨outcome, c', run, -, -, -, gained⟩ := addRawArrays_spreads partners "App\\A"
  rw [run] at ok
  obtain rfl : outcome = .ok () := ok
  refine ⟨c', run, fun fqcn hm => gained rfl fqcn ?_⟩
  rcases List.mem_pair.1 hm with rfl | rfl
  · exact first
  · exact second

end SchemaClasses
