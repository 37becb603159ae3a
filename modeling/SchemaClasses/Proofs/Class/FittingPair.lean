/-
Which properties the raw array form of an entity goes through: its own, each once, under their raw keys.
An entity that is rebuilt takes the pair from whatever class stood under its name, so the pair fits
unless that class had another shape.
-/
import SchemaClasses.Proofs.Class.Closure

namespace SchemaClasses

/-! ## The lines of a property -/

/-- The line that assigns a property from the raw value under its key. -/
def assignment : Property × Conversion → String
  | (p, conversion) =>
    let short := plainHint p.typeHint
    let key := singleQuoted p.rawKey
    if p.isNullable then
      s!"$instance->{p.name} = isset($data[{key}]) ? {short}::{conversion.wrap}($data[{key}]) : null;"
    else s!"$instance->{p.name} = {short}::{conversion.wrap}($data[{key}]);"

/-- The line that puts the raw value of a property under its key. -/
def reading : Property × Conversion → String
  | (p, conversion) =>
    let key := singleQuoted p.rawKey
    if p.isNullable then s!"    {key} => $this->{p.name}?->{conversion.unwrap}(),"
    else s!"    {key} => $this->{p.name}->{conversion.unwrap}(),"

/-- The pair goes through the properties of the class, each once and in the same order both ways. -/
def HasFittingPair (m : ClassModel) : Prop :=
  ∃ parts : List (Property × Conversion), (parts.map Prod.fst).Perm m.properties.values ∧
    (m.methods.at? "fromArray").map (·.body) =
      some (["$instance = new self();"] ++ parts.map assignment ++ ["return $instance;"]) ∧
    (m.methods.at? "toArray").map (·.body) = some (["return ["] ++ parts.map reading ++ ["];"])

variable {c c' : Collection} {m m' : ClassModel} {fqcn : String}

theorem propertyLines_texts {p : Property} {line : PropertyLines} (h : propertyLines c m p = .ok line) :
    ∃ conversion, line.fromArray = assignment (p, conversion) ∧ line.toArray = reading (p, conversion) := by
  unfold propertyLines at h
  simp only at h
  split at h
  · cases h
  · split at h
    · cases h
    · rename_i conversion _
      obtain rfl := Except.ok.inj h
      refine ⟨conversion, ?_⟩
      simp only [assignment, reading]
      split
      · exact ⟨rfl, rfl⟩
      · exact ⟨rfl, rfl⟩

theorem allPropertyLines_texts {ps : List Property} {lines : List PropertyLines}
    (h : allPropertyLines c m ps = .ok lines) : ∃ parts : List (Property × Conversion), parts.map Prod.fst = ps ∧
      lines.map (·.fromArray) = parts.map assignment ∧ lines.map (·.toArray) = parts.map reading := by
  have each := forall₂_allPropertyLines h
  clear h
  induction each with
  | nil => exact ⟨[], rfl, rfl, rfl⟩
  | @cons p line _ _ hl _ ih =>
    obtain ⟨conversion, assigns, reads⟩ := propertyLines_texts hl
    obtain ⟨parts, rfl, all_assign, all_read⟩ := ih
    exact ⟨(p, conversion) :: parts, rfl, by simp [assigns, all_assign], by simp [reads, all_read]⟩

/-- A pair that is made for a class fits it. -/
theorem hasFittingPair_withRawArray {lines : List PropertyLines}
    (h : allPropertyLines c m m.properties.values = .ok lines) : HasFittingPair (m.withRawArray lines) := by
  obtain ⟨parts, all, assigns, reads⟩ := allPropertyLines_texts h
  refine ⟨parts, List.Perm.of_eq all, ?_, ?_⟩
  · rw [← assigns, ClassModel.withRawArray, ClassModel.at?_addMethod, ClassModel.at?_addMethod]
    rfl
  · rw [← reads, ClassModel.withRawArray, ClassModel.at?_addMethod]
    rfl

/-- The pair of a class fits every class of the same shape. -/
theorem HasFittingPair.alike (h : HasFittingPair m) (tidy : m.Tidy) (alike : m.Alike m') : HasFittingPair m' := by
  obtain ⟨parts, perm, assigns, reads⟩ := h
  rw [alike.method_eq tidy] at assigns reads
  exact ⟨parts, perm.trans (alike.properties.map Prod.snd), assigns, reads⟩

/-! ## Steps -/

/-- A tidy entity whose pair fits, unless a class of another shape was replaced. -/
structure EntityFits (events : List Event) (fqcn : String) (m : ClassModel) : Prop where
  tidy : m.Tidy
  own : m.properties.Own (·.name)
  fits : m.hasMethod "fromArray" = true → HasFittingPair m ∨ Event.classReplaced fqcn ∈ events

/-- The pairs of all entities fit, save those of replaced classes. -/
def PairsFit (events : List Event) (c : Collection) : Prop :=
  ∀ fqcn m, c.get? fqcn = some m → m.kind = .entity → EntityFits events fqcn m

variable {events more : List Event}

theorem EntityFits.mono (h : EntityFits events fqcn m) (sub : events ⊆ more) : EntityFits more fqcn m :=
  ⟨h.tidy, h.own, fun pair => (h.fits pair).imp_right fun he => sub he⟩

theorem pairsFit_empty : PairsFit events {} := fun _ _ h => by cases h

theorem PairsFit.add (h : PairsFit events c) (hm : m.kind = .entity → EntityFits (events ++ more) m.fqcn m) :
    PairsFit (events ++ more) (c.add m) := by
  intro fqcn found hf hk
  rcases Collection.of_get?_add hf with ⟨rfl, rfl⟩ | ⟨-, hf⟩
  · exact hm hk
  · exact (h fqcn found hf hk).mono (List.subset_append_left _ _)

theorem PairsFit.gain {lines : List PropertyLines} (h : PairsFit events c) (hm : c.get? fqcn = some m)
    (ho : allPropertyLines c m m.properties.values = .ok lines) :
    PairsFit events (c.adjust fqcn (·.withRawArray lines)) := by
  intro other found hf hk
  rcases Collection.of_get?_adjust hf with ⟨rfl, found, hm', rfl⟩ | ⟨-, hf⟩
  · obtain rfl := Option.some.inj (hm.symm.trans hm')
    have before := h _ m hm hk
    exact ⟨(before.tidy.addMethod _).addMethod _, before.own, fun _ => .inl (hasFittingPair_withRawArray ho)⟩
  · exact h other found hf hk

variable {v : ValueObjects} {ambient : String} {met : String × TypeSet → Prop} {s s' : BuildState}

/-- Properties are added under their own names. -/
theorem Assembled.own_properties {start : ClassModel} (h : Assembled start m)
    (hs : start.properties.Own (·.name)) : m.properties.Own (·.name) := by
  induction h with
  | start => exact hs
  | requireImport _ _ ih =>
    rw [ClassModel.requireImport_eq]
    exact ih
  | addProperty p _ ih => exact ih.put p
  | addMethod _ _ ih => exact ih
  | addConstant _ _ ih => exact ih

/-- An entity that takes over the pair of a class of the same shape goes on fitting; the replacement of a
class of another shape is reported. -/
theorem EntityFits.rebuilt {name space : String} {properties : List (String × TypeSet)} (h : PairsFit events c) :
    let made := Build.keepRawArray (c.get? (qualify space name)) (entityOf v ambient name space properties)
    EntityFits (events ++ c.addEvents made) made.fqcn made := by
  intro made
  have kind : made.kind = .entity := (kind_keepRawArray _ _).trans (kind_entityOf name space properties)
  have fqcn : made.fqcn = qualify space name := (fqcn_keepRawArray _ _).trans (fqcn_entityOf name space properties)
  refine ⟨(assembled_keepRawArray _ _).tidy (tidy_entityOf name space properties), ?_, fun pair => ?_⟩
  · rw [properties_keepRawArray]
    exact (assembled_foldl properties .start).own_properties Entries.own_nil
  · obtain ⟨found, hf⟩ := exists_of_hasMethod pair
    rw [← fqcn] at hf
    rcases c.addEvents_cases made with silent | replaced
    · have before := h _ found hf ((Collection.kind_of_silent silent hf).trans kind)
      have alike := Collection.alike_of_silent silent before.tidy hf
      rw [← alike.hasMethod_eq before.tidy] at pair
      exact (before.fits pair).imp (·.alike before.tidy alike) (List.mem_append_left _)
    · rw [replaced]
      exact .inr (List.mem_append_right _ (List.mem_singleton_self _))

theorem Step.pairsFit (h : Step v ambient met s s') (hs : PairsFit s.events s.collection) :
    PairsFit s'.events s'.collection := by
  cases h with
  | report events => exact fun fqcn m hm hk => (hs fqcn m hm hk).mono (List.subset_append_left _ _)
  | value hd hb =>
    obtain ⟨-, -, conversion, -, value⟩ := build_scalar hd hb
    exact hs.add fun entity => absurd entity value.ne_entity
  | list hi hb there =>
    obtain ⟨-, -, list⟩ := build_array hi hb
    exact hs.add fun entity => absurd ((ClassModel.kind_addImport ..).symm.trans entity) list.ne_entity
  | entity trim all => exact hs.add fun _ => EntityFits.rebuilt hs
  | @pair fqcn c ha =>
    have fit := addRawArrays_keeps (P := PairsFit s.events) (fun hf _ ho fits => fits.gain hf ho) s.collection
      [fqcn] hs
    rwa [ha] at fit

theorem Steps.pairsFit (h : Steps v ambient met s s') (hs : PairsFit s.events s.collection) :
    PairsFit s'.events s'.collection :=
  @Steps.keep v ambient met s s' (fun s => PairsFit s.events s.collection) h (·.pairsFit) hs

end SchemaClasses
