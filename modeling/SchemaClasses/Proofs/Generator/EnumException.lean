/-
The exceptions of a result. Where exceptions are asked for, what an enum throws is a class of the result that
declares the method it is made by, also when enums share the name of their exception.
-/
import SchemaClasses.Proofs.Class.EnumException
import SchemaClasses.Proofs.Generator.Origin
import SchemaClasses.Proofs.Names

namespace SchemaClasses

variable {made m : ClassModel} {source : String} {filters : NameFilters}

theorem Gained.isEnum (h : Gained made m) (enum : IsEnum filters source made) : IsEnum filters source m := by
  have same := h.same
  obtain ⟨kind, imports, field, throws⟩ := enum
  refine ⟨?_, ?_, field, ?_⟩
  · rw [same]
    exact kind
  · rw [same]
    exact imports
  · obtain ⟨method, there, body⟩ := Option.map_eq_some_iff.1 throws
    rw [h.keeps there]
    exact congrArg some body

/-- An enum of a collection that was built was made for an enumerated string, and is still as it was made. -/
theorem Originates.isEnum {v : ValueObjects} {ambient fqcn : String} {built : TypeDef → Prop} {c : Collection}
    (short : ∀ raw, IsShort (v.filters.className raw)) (h : Originates v ambient built c)
    (hf : c.get? fqcn = some m) (hk : m.kind = .valueObject (.enum source)) :
    IsShort m.name ∧ IsEnum v.filters source m ∧ ∃ traits format values, built (.string traits format (some values)) ∧
      source = nameOr traits.name "text" ∧ m.space = extractNamespace ambient (.string traits format (some values)) := by
  obtain ⟨made, origin, gained⟩ := h fqcn m hf
  have same := gained.same
  have hk : made.kind = .valueObject (.enum source) := by
    rw [same] at hk
    exact hk
  cases origin with
  | entity trimmed _ =>
    rw [kind_entityOf] at hk
    cases hk
  | list items _ hb =>
    obtain ⟨-, -, list⟩ := build_array items hb
    rw [ClassModel.kind_addImport, list.kind] at hk
    cases hk
  | @value made className d reported scalar hd hb =>
    obtain ⟨traits, format, values, rfl, rfl⟩ := exists_choices_of_enum scalar hb hk
    obtain ⟨name, space, enum⟩ := isEnum_build short hb
    refine ⟨?_, gained.isEnum enum, traits, format, values, hd, rfl, ?_⟩
    · rw [same]
      exact name ▸ short className
    · rw [same]
      exact space

/-- The name of an exception decides the name of the method that makes it. -/
def MakersFollow (filters : NameFilters) : Prop := ∀ source other, filters.className source = filters.className other →
  EnumException.methodName filters source = EnumException.methodName filters other

theorem makersFollow_conventional : MakersFollow conventionalNames := by
  intro source other same
  unfold EnumException.methodName
  rw [conventionalNames_methodName_for, conventionalNames_methodName_for, same]

namespace Generator

variable {g : Generator} {before : Collection} {fqcn : String} {built : TypeDef → Prop}

/-- The exceptions of the enums of a collection have the names and the makers that go with their raw names. -/
theorem exists_source_of_mem_exceptions (short : ∀ raw, IsShort (g.filters.className raw)) (keyed : before.Keyed)
    (origin : Originates g.valueObjects g.ambient built before) {e : ClassModel} (he : e ∈ g.exceptions before) :
    ∃ (source : String) (enum : ClassModel), IsShort enum.name ∧ EnumException.IsException g.filters source enum.fqcn e ∧
      ∃ traits format values, built (.string traits format (some values)) ∧ source = nameOr traits.name "text" ∧
        enum.space = extractNamespace g.ambient (.string traits format (some values)) := by
  obtain ⟨enum, there, made⟩ := mem_exceptions.1 he
  have there := keyed.mem_toList_iff.1 there
  unfold EnumException.ofClass at made
  split at made
  · rename_i source hk
    obtain rfl := Except.ok.inj made
    obtain ⟨name, -, definition⟩ := origin.isEnum short there hk
    exact ⟨source, enum, name, EnumException.isException_build g.filters g.settings.typed source name, definition⟩
  · cases made

/-- What an enum throws is among the exceptions added last, whichever of those with its name came last. -/
theorem exception_of_enum (short : ∀ raw, IsShort (g.filters.className raw)) (follow : MakersFollow g.filters)
    (keyed : before.Keyed) (origin : Originates g.valueObjects g.ambient built before)
    (hf : before.get? fqcn = some m) (hk : m.kind = .valueObject (.enum source)) :
    ∃ target, (before.addAll (g.exceptions before)).1.get? (EnumException.fqcn g.filters source m.space) = some target ∧
      target.kind = .exception ∧ target.Declares (EnumException.methodName g.filters source) := by
  obtain ⟨name, -, -⟩ := origin.isEnum short hf hk
  have listed : m ∈ before.toList := keyed.mem_toList_iff.2 ((keyed.key hf).symm ▸ hf)
  have made : EnumException.build g.filters g.settings.typed source m.fqcn ∈ g.exceptions before := by
    refine mem_exceptions.2 ⟨m, listed, ?_⟩
    unfold EnumException.ofClass
    rw [hk]
  obtain ⟨last, added, same, there⟩ := Collection.exists_of_mem_addAll (g.exceptions before) (c := before) made
  rw [show m.fqcn = qualify m.space m.name from rfl, EnumException.fqcn_build _ _ _ name] at same there
  obtain ⟨other, owner, -, exception, -⟩ := exists_source_of_mem_exceptions short keyed origin added
  -- two exceptions of one name have one maker
  have classes : g.filters.className source = g.filters.className other := by
    have shorts := congrArg shortName same
    rw [ClassModel.fqcn, exception.name, EnumException.fqcn, shortName_qualify (isShort_exceptionName (short _)),
      shortName_qualify (isShort_exceptionName (short _))] at shorts
    exact ((String.append_right_inj _).1 shorts).symm
  refine ⟨last, there, exception.kind, ?_⟩
  rw [follow source other classes]
  exact exception.declares

/-- In a result with exceptions an enum throws by a class and a method of the result. -/
theorem exception_of_result {schema : Json} {rootName : String} (short : ∀ raw, IsShort (g.filters.className raw))
    (follow : MakersFollow g.filters) (exceptions : g.settings.exceptions = true)
    (h : (g.generate schema rootName).1 = .ok c) (hf : c.get? fqcn = some m)
    (hk : m.kind = .valueObject (.enum source)) : ∃ thrown maker target, Throws m thrown maker ∧
      importedOrLocal m thrown ∈ m.imports ∧ c.get? (importedOrLocal m thrown) = some target ∧
      target.kind = .exception ∧ target.Declares maker := by
  obtain ⟨set, before, -, keyed, origin, hc⟩ := generate_originates h
  rw [if_pos exceptions] at hc
  -- an enum is none of the exceptions added last
  have hf : before.get? fqcn = some m := by
    rw [hc] at hf
    rcases Collection.of_get?_addAll _ hf with ⟨added, -⟩ | ⟨-, hf⟩
    · obtain ⟨enum, -, made⟩ := mem_exceptions.1 added
      rw [kind_of_exception made] at hk
      cases hk
    · exact hf
  have enum : IsEnum g.filters source m := (origin.isEnum short hf hk).2.1
  obtain ⟨target, there, kind, declares⟩ := exception_of_enum short follow keyed origin hf hk
  have resolved : importedOrLocal m (EnumException.className g.filters source) =
      EnumException.fqcn g.filters source m.space := by
    unfold importedOrLocal
    have called : shortName (EnumException.fqcn g.filters source m.space) = EnumException.className g.filters source :=
      shortName_qualify (isShort_exceptionName (short source))
    rw [enum.imports]
    simp [called]
  refine ⟨_, _, target, enum.throws, ?_, ?_, kind, declares⟩
  · rw [resolved]
    exact enum.imports ▸ List.mem_singleton_self _
  · rw [hc, resolved]
    exact there

section Color

open Build

/-- A document of one enum. -/
def color : Json := .object [("enum", .array [.string "red"])]

def colorDefinition : TypeDef := .string { name := "color", required := true } none (some ["red"])

theorem parse_color : Schema.parse color "color" = (.ok ⟨colorDefinition, []⟩, []) := by
  unfold colorDefinition
  cbv

def colorClass : ClassModel :=
  ValueObjects.withException conventionalNames (named (Template.Enum.build conventionalNames true "color" ["red"]).1
    (conventionalNames.className (conventionalNames.className "color"))
    (extractNamespace (ambient {}) colorDefinition))

def colorState : BuildState := (BuildState.report {} [.valueObjectBuilt colorClass.fqcn "string"]).add colorClass

theorem build_color : build {} ⟨colorDefinition, []⟩ "color" = (.ok (), colorState) :=
  buildSet_value trivial rfl

def colorClasses : Collection := (finish {} colorState.collection).1

theorem generate_color : (generate {} color "color").1 = .ok colorClasses :=
  congrArg Prod.fst (generate_of_build parse_color build_color)

theorem enum_color : (colorClasses.get? "App\\Color").map (·.kind) = some (.valueObject (.enum "color")) := by
  decide +kernel

end Color

end Generator

end SchemaClasses
