/-
The classes of value objects are put together from a class without members, so they are orderly, whatever
they are made from.
-/
import SchemaClasses.Proofs.Class.Reordered

namespace SchemaClasses

open Template

/-- An orderly value object, as one that nothing was added to yet. -/
structure IsBlank (c : ClassModel) : Prop where
  orderly : c.Orderly
  kind : ∃ kind, c.kind = .valueObject kind

theorem isBlank_valueObject (kind : ValueObjectKind) (typed : Bool) : IsBlank (.valueObject kind typed) :=
  ⟨ClassModel.orderly_of_bare rfl rfl rfl rfl, kind, rfl⟩

theorem TemplateOf.assembled {v : ValueObjects} {d : TypeDef} {made : ClassModel} (h : TemplateOf v d made) :
    ∃ start, IsBlank start ∧ Assembled start made := by
  cases h with
  | enum traits format values => exact ⟨_, isBlank_valueObject _ _, assembled_enum v.filters v.typed _ values⟩
  | dateTime traits format name => exact ⟨_, isBlank_valueObject _ _, assembled_dateTime v.filters v.typed name _⟩
  | uuid traits format name => exact ⟨_, isBlank_valueObject _ _, assembled_uuid v.filters v.typed name⟩
  | languageTag traits format name => exact ⟨_, isBlank_valueObject _ _, assembled_languageTag v.filters v.typed name⟩
  | scalar d scalar name => exact ⟨_, isBlank_valueObject _ _, assembled_scalar v.filters v.typed name scalar⟩

theorem assembled_template {v : ValueObjects} {d : TypeDef} {made : ClassModel} {events : List Event}
    (h : v.template d = .ok (made, events)) : ∃ start, IsBlank start ∧ Assembled start made := by
  cases d with
  | string | integer | number | boolean => exact (templateOf_template (by trivial) h).assembled
  | array traits items =>
    simp only [ValueObjects.template, ListOf.ofArray, except_map_eq_ok] at h
    obtain ⟨_, ⟨item, -, rfl⟩, he⟩ := h
    cases he
    exact ⟨_, ⟨ClassModel.orderly_of_bare rfl rfl rfl rfl, _, rfl⟩, assembled_list v.filters v.typed _ item⟩
  | object | reference => cases h

/-- The class of a definition is an orderly value object. -/
theorem orderly_build {v : ValueObjects} {className space : String} {d : TypeDef} {c : ClassModel}
    {events : List Event} (h : v.build className space d = .ok (c, events)) :
    c.Orderly ∧ ∃ kind, c.kind = .valueObject kind := by
  obtain ⟨made, reported, ht, rfl⟩ := build_eq h
  obtain ⟨start, ⟨orderly, kind, hk⟩, assembled⟩ := assembled_template ht
  have made_orderly := assembled.orderly orderly
  -- the name and the flags have no part in being orderly
  have orderly : (named made className space).Orderly :=
    ⟨⟨made_orderly.imports, made_orderly.properties, made_orderly.methods⟩, made_orderly.constants, made_orderly.own⟩
  constructor
  · unfold ValueObjects.withException
    split
    · exact orderly.requireImport
    · exact orderly
  · rw [withException_eq]
    exact ⟨kind, assembled.kind_eq.trans hk⟩

end SchemaClasses
