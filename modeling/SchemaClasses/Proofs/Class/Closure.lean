/-
Building in silence keeps collections closed: a class takes the place of one of the same shape only,
so that whatever converted goes on converting.
-/
import SchemaClasses.Proofs.Class.Hints
import SchemaClasses.Proofs.Class.RawArray

namespace SchemaClasses

open Template

variable {c : Collection} {m : ClassModel} {pending : List String}

theorem Closed.add (h : Closed pending c) (silent : c.addEvents m = []) (hm : ClassClosed pending c m) :
    Closed pending (c.add m) := by
  have keeps := keepsConversions_add (fun fqcn found hf => (h fqcn found hf).tidy) silent
  intro fqcn found hf
  rcases Collection.of_get?_add hf with ⟨rfl, rfl⟩ | ⟨-, hf⟩
  · exact hm.keeps keeps
  · exact (h fqcn found hf).keeps keeps

/-! ## Value objects -/

theorem classClosed_value {conversion : Conversion} (h : IsValue m conversion) : ClassClosed pending c m := by
  obtain ⟨kind, hk, hc, other⟩ := h.kind
  refine ⟨h.tidy, fun k he => ?_, fun he => ?_, fun he => ?_⟩
  · rw [hk] at he
    cases he
    rw [hc]
    exact h.converts
  · rw [hk] at he
    cases he
  · rw [hk] at he
    cases he
    exact absurd rfl other

theorem hasMethod_of_body {name : String} {body : List String}
    (h : (m.methods.at? name).map (·.body) = some body) : m.hasMethod name = true := by
  obtain ⟨method, hm, -⟩ := Option.map_eq_some_iff.1 h
  exact Entries.hasName_of_at? hm

/-- A class without imports finds the one class that it imports by its short name. -/
theorem candidates_addImport {space name : String} (hi : m.imports = []) (hn : IsShort name)
    (hs : IsTrimmed space) : candidates (m.addImport (qualify space name)) name = [qualify space name] := by
  unfold candidates
  by_cases own : namespaceOf (qualify space name) = m.space
  · rw [ClassModel.addImport_of_eq own, hi, ← own, namespaceOf_qualify hn, hs]
    rfl
  · rw [ClassModel.addImport_of_ne own]
    unfold ClassModel.requireImport
    simp [hi, withoutLeadingBackslashes_qualify hn, shortName_qualify hn]

theorem classClosed_list {itemClass : String} {conversion : Conversion} {space : String} (h : Closed [] c)
    (list : IsList m itemClass conversion) (hn : IsShort itemClass) (hq : '?' ∉ itemClass.toList)
    (hs : IsTrimmed space) (there : HasItemClass c (qualify space itemClass) conversion) :
    ClassClosed [] c (m.addImport (qualify space itemClass)) := by
  have kind : (m.addImport (qualify space itemClass)).kind = .valueObject .array :=
    (ClassModel.kind_addImport ..).trans list.kind
  have lines : ItemLines (m.addImport (qualify space itemClass)) itemClass conversion :=
    list.lines.of_methods (ClassModel.methods_addImport ..)
  refine ⟨list.tidy.addImport, fun k he => ?_, fun he => ?_, fun _ => ?_⟩
  · rw [kind] at he
    cases he
    obtain ⟨arg, items, unwraps⟩ := lines.unwraps
    exact ⟨hasMethod_of_body lines.wraps, hasMethod_of_body unwraps⟩
  · rw [kind] at he
    cases he
  · obtain ⟨t, ht, hk, lacks⟩ := there
    refine ⟨itemClass, conversion, qualify space itemClass, lines, ?_, t, ht, hk, h.converts ht lacks hk⟩
    rw [plainHint_of_not_mem hq, candidates_addImport list.imports hn hs]
    exact fun fqcn hm => List.mem_singleton.1 hm

/-! ## Entities -/

variable {v : ValueObjects} {ambient : String} {met : String × TypeSet → Prop} {s s' : BuildState}

/-- An entity of the same shape as a closed one is closed. -/
theorem EntityClosed.alike {m' : ClassModel} (h : EntityClosed pending c m) (tidy : m.Tidy) (alike : m.Alike m') :
    EntityClosed pending c m' := by
  obtain ⟨pair, imports, perm, all⟩ := h
  refine ⟨(alike.hasMethod_eq tidy _).symm.trans pair, imports, perm.trans alike.imports, fun p hp => ?_⟩
  rw [@importedOrLocal_congr { m with imports := imports } { m' with imports := imports } alike.space.symm rfl]
  exact all p ((alike.properties.map Prod.snd).mem_iff.2 hp)

/-- An entity has the pair only if it took it from one of the same shape. -/
theorem classClosed_entity {name space : String} {properties : List (String × TypeSet)} (h : Closed pending c) :
    let made := Build.keepRawArray (c.get? (qualify space name)) (entityOf v ambient name space properties)
    c.addEvents made = [] → ClassClosed pending c made := by
  intro made silent
  have kind : made.kind = .entity := (kind_keepRawArray _ _).trans (kind_entityOf name space properties)
  have fqcn : made.fqcn = qualify space name := (fqcn_keepRawArray _ _).trans (fqcn_entityOf name space properties)
  refine ⟨(assembled_keepRawArray _ _).tidy (tidy_entityOf name space properties), fun k he => ?_, fun _ pair => ?_,
    fun he => ?_⟩
  · rw [kind] at he
    cases he
  -- the pair can only come from the class that was there before
  · obtain ⟨found, hf⟩ := exists_of_hasMethod pair
    rw [← fqcn] at hf
    have closed := h _ found hf
    have alike := Collection.alike_of_silent silent closed.tidy hf
    exact (closed.entity (alike.kind.trans kind) ((alike.hasMethod_eq closed.tidy _).trans pair)).alike
      closed.tidy alike
  · rw [kind] at he
    cases he

/-! ## Steps -/

theorem Step.closed (plain : PlainNames v.filters) (h : Step v ambient met s s') (silent : Collection.Silent s'.events)
    (hs : Closed [] s.collection) : Closed [] s'.collection := by
  cases h with
  | report events => exact hs
  | @value c className d reported hd hb =>
    obtain ⟨-, -, conversion, -, value⟩ := build_scalar hd hb
    exact hs.add silent.of_append_right.addEvents_eq (classClosed_value value)
  | @list c className traits items item d target source reported hi hb there =>
    obtain ⟨-, -, list⟩ := build_array hi hb
    exact hs.add silent.of_append_right.addEvents_eq (classClosed_list hs list (plain.short _) (plain.unmarked _)
      (isTrimmed_extractNamespace ambient target) there)
  | entity trim all =>
    have silent := silent.of_append_right.addEvents_eq
    exact hs.add silent (classClosed_entity hs silent)
  | @pair fqcn c ha =>
    -- with nothing waiting, a name more on the list asks for less
    have started : Closed [fqcn] s.collection := fun other m hm =>
      (hs other m hm).weaken fun target ⟨t, conversion, ht, hk, hc⟩ =>
        ⟨t, conversion, ht, hk, hc.imp_right fun he => ⟨he.1, by cases he.2⟩⟩
    have closed := closed_addRawArrays _ _ started
    rw [ha] at closed
    exact closed rfl

theorem Step.silent (h : Step v ambient met s s') (silent : Collection.Silent s'.events) :
    Collection.Silent s.events := by
  cases h with
  | report | value | list | entity => exact silent.of_append_left
  | pair => exact silent

theorem Steps.closed (plain : PlainNames v.filters) (h : Steps v ambient met s s')
    (silent : Collection.Silent s'.events) (hs : Closed [] s.collection) : Closed [] s'.collection :=
  -- silence is asked of the last state, and each step hands it back to the state before
  @Steps.keep v ambient met s s' (fun s => Collection.Silent s.events → Closed [] s.collection) h
    (fun step before silent => step.closed plain silent (before (step.silent silent))) (fun _ => hs) silent

end SchemaClasses
