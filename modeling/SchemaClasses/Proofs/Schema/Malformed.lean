/-
What is wrong with a schema node, said by its keywords alone: `Malformed` has one constructor for each
reason, and what the lowering of a node finds wrong with it is one of them.
-/
import SchemaClasses.Proofs.Schema.WellFormed

namespace SchemaClasses.Schema

/-- The kinds that a schema can name. -/
def knownKinds : List String := ["object", "array", "string", "integer", "number", "boolean", "null"]

/-- A node has no type, for a reason. Beside a reference nothing but the reference counts. -/
inductive Malformed : Json → SchemaFault → Prop
  | notObject {json : Json} : (∀ node, json ≠ .object node) → Malformed json .notObject
  | refNotString {node : Node} {value : Json} : node.lookup "$ref" = some value → (∀ target, value ≠ .string target) →
      Malformed (.object node) .refNotString
  | typeEntryNotString {node : Node} {entries : List Json} {entry : Json} : node.lookup "$ref" = none →
      node.lookup "type" = some (.array entries) → entry ∈ entries → (∀ kind, entry ≠ .string kind) →
      Malformed (.object node) .typeEntryNotString
  | typeNotStringOrArray {node : Node} {value : Json} : node.lookup "$ref" = none →
      node.lookup "type" = some value → (∀ kind, value ≠ .string kind) → (∀ entries, value ≠ .array entries) →
      Malformed (.object node) .typeNotStringOrArray
  | missingType {node : Node} : node.lookup "$ref" = none → node.lookup "type" = none →
      node.lookup "properties" = none → node.lookup "items" = none → node.lookup "enum" = none →
      Malformed (.object node) .missingType
  | nullOnly {node : Node} {kinds : List String} : node.lookup "$ref" = none → NamesKinds node kinds →
      (∀ kind ∈ kinds, kind = "null") → Malformed (.object node) .nullOnly
  | unknownType {node : Node} {kind : String} : HasKind node kind → kind ∉ knownKinds →
      Malformed (.object node) (.unknownType kind)
  | requiredNotArray {node : Node} {value : Json} : HasKind node "object" → node.lookup "required" = some value →
      (∀ keys, value ≠ .array keys) → Malformed (.object node) .requiredNotArray
  | propertiesNotObject {node : Node} {value : Json} : HasKind node "object" →
      node.lookup "properties" = some value → (∀ properties, value ≠ .object properties) →
      Malformed (.object node) .propertiesNotObject
  | itemsMissing {node : Node} : HasKind node "array" → (∀ item, node.lookup "items" ≠ some (.object item)) →
      (∀ items, items ≠ [] → node.lookup "items" ≠ some (.array items)) → Malformed (.object node) .itemsMissing
  | enumNotArray {node : Node} {value : Json} : HasKind node "string" → node.lookup "enum" = some value →
      (∀ values, value ≠ .array values) → Malformed (.object node) .enumNotArray
  | enumValueNotString {node : Node} {values : List Json} {value : Json} : HasKind node "string" →
      node.lookup "enum" = some (.array values) → value ∈ values → value ≠ .null →
      (∀ text, value ≠ .string text) → Malformed (.object node) (.enumValueNotString value)

variable {node : Node} {kind : String} {reason : SchemaFault}

/-! ## Kinds -/

theorem kindTexts_error : ∀ {items : List Json}, kindTexts items = .error reason →
    reason = .typeEntryNotString ∧ ∃ item ∈ items, ∀ kind, item ≠ .string kind
  | .string kind :: rest, h => by
    rw [kindTexts] at h
    cases hr : kindTexts rest with
    | ok texts =>
      rw [hr] at h
      cases h
    | error found =>
      rw [hr] at h
      cases h
      obtain ⟨same, item, hm, other⟩ := kindTexts_error hr
      exact ⟨same, item, List.mem_cons_of_mem _ hm, other⟩
  | .null :: _, h | .bool _ :: _, h | .number _ :: _, h | .array _ :: _, h | .object _ :: _, h => by
    cases h
    exact ⟨rfl, _, List.mem_cons_self, by simp⟩

theorem malformed_of_namedKinds (plain : node.lookup "$ref" = none) (h : namedKinds node = .error reason) :
    Malformed (.object node) reason := by
  unfold namedKinds at h
  split at h
  · cases h
  · rename_i items hl
    obtain ⟨rfl, item, hm, other⟩ := kindTexts_error h
    exact .typeEntryNotString plain hl hm other
  · rename_i value not_string not_array hl
    cases h
    exact .typeNotStringOrArray plain hl (fun kind he => not_string kind he) fun entries he => not_array entries he
  · rename_i hl
    split at h
    · cases h
    · rename_i properties
      split at h
      · cases h
      · rename_i items
        split at h
        · cases h
        · rename_i enum
          cases h
          simp only [Option.not_isSome_iff_eq_none] at properties items enum
          exact .missingType plain hl properties items enum

theorem malformed_of_declaredKinds (plain : node.lookup "$ref" = none) (h : declaredKinds node = .error reason) :
    Malformed (.object node) reason := by
  unfold declaredKinds at h
  split at h
  · rename_i hn
    cases h
    exact malformed_of_namedKinds plain hn
  · rename_i kinds hn
    split at h
    · rename_i only
      cases h
      exact .nullOnly plain (namedKinds_ok.1 hn) (by simpa using only)
    · cases h

/-! ## One kind -/

theorem choiceTexts_error : ∀ {values : List Json}, choiceTexts values = .error reason →
    ∃ value ∈ values, value ≠ .null ∧ (∀ text, value ≠ .string text) ∧ reason = .enumValueNotString value
  | .string text :: rest, h => by
    rw [choiceTexts] at h
    cases hr : choiceTexts rest with
    | ok texts =>
      rw [hr] at h
      cases h
    | error found =>
      rw [hr] at h
      cases h
      obtain ⟨value, hm, other⟩ := choiceTexts_error hr
      exact ⟨value, List.mem_cons_of_mem _ hm, other⟩
  | .null :: rest, h => by
    have inner : choiceTexts rest = .error reason := h
    obtain ⟨value, hm, other⟩ := choiceTexts_error inner
    exact ⟨value, List.mem_cons_of_mem _ hm, other⟩
  | .bool _ :: _, h | .number _ :: _, h | .array _ :: _, h | .object _ :: _, h => by
    cases h
    exact ⟨_, List.mem_cons_self, by simp, by simp, rfl⟩

theorem malformed_of_requiredKeys (hk : HasKind node "object") (h : requiredKeys node = .error reason) :
    Malformed (.object node) reason := by
  unfold requiredKeys at h
  split at h
  · cases h
  · cases h
  · rename_i value other hl
    cases h
    exact .requiredNotArray hk hl fun keys he => other keys he

theorem malformed_of_choices (hk : HasKind node "string") (h : choices node = .error reason) :
    Malformed (.object node) reason := by
  unfold choices at h
  split at h
  · cases h
  · rename_i values hl
    cases hc : choiceTexts values with
    | ok texts =>
      rw [hc] at h
      cases h
    | error found =>
      rw [hc] at h
      cases h
      obtain ⟨value, hm, not_null, not_string, rfl⟩ := choiceTexts_error hc
      exact .enumValueNotString hk hl hm not_null not_string
  · rename_i value other hl
    cases h
    exact .enumNotArray hk hl fun values he => other values he

theorem malformed_of_kindFault (hk : HasKind node kind) (hne : kind ≠ "null")
    (h : kindFault? node kind = some reason) : Malformed (.object node) reason := by
  unfold kindFault? at h
  split at h
  · split at h
    · rename_i hr
      cases h
      exact malformed_of_requiredKeys hk hr
    · split at h
      · cases h
      · rename_i no_properties
        cases h
        have found := mt (fun hp => exists_propertySchemas.2 hp) (by simpa [Option.isSome_iff_exists] using no_properties)
        obtain ⟨value, hl⟩ := Option.ne_none_iff_exists'.1 fun hl => found (.inl hl)
        exact .propertiesNotObject hk hl fun properties he => found (.inr ⟨properties, he ▸ hl⟩)
  · split at h
    · cases h
    · rename_i no_items
      cases h
      have found := mt (fun hi => exists_itemSchemas.2 hi) (by simpa [Option.isSome_iff_exists] using no_items)
      exact .itemsMissing hk (fun item hl => found (.inl ⟨item, hl⟩))
        fun items filled hl => found (.inr ⟨items, filled, hl⟩)
  · split at h
    · rename_i hc
      cases h
      exact malformed_of_choices hk hc
    · cases h
  · cases h
  · cases h
  · cases h
  · cases h
    refine .unknownType hk ?_
    simp_all [knownKinds]

/-! ## Malformed and well formed -/

theorem WellFormed.exists_kinds (h : WellFormed (.object node)) (plain : node.lookup "$ref" = none) :
    ∃ kinds, NamesKinds node kinds ∧ (∃ kind ∈ kinds, kind ≠ "null") ∧
      ∀ kind ∈ kinds, kind ≠ "null" → WellFormedAs node kind := by
  cases h with
  | reference hl =>
    rw [plain] at hl
    cases hl
  | kinds _ hn other each => exact ⟨_, hn, other, each⟩

theorem WellFormed.wellFormedAs (h : WellFormed (.object node)) (hk : HasKind node kind) (hne : kind ≠ "null") :
    WellFormedAs node kind := by
  obtain ⟨plain, named, hn, hm⟩ := hk
  obtain ⟨kinds, hn', -, each⟩ := h.exists_kinds plain
  obtain rfl := Except.ok.inj ((namedKinds_ok.2 hn).symm.trans (namedKinds_ok.2 hn'))
  exact each kind hm hne

theorem WellFormedAs.object_keywords (h : WellFormedAs node "object") :
    (node.lookup "required" = none ∨ ∃ keys, node.lookup "required" = some (.array keys)) ∧
      (node.lookup "properties" = none ∨ ∃ properties, node.lookup "properties" = some (.object properties)) := by
  generalize same : "object" = kind at h
  cases h with
  | object required properties => exact ⟨required, properties⟩
  | _ => exact absurd same (by decide)

theorem WellFormedAs.array_keywords (h : WellFormedAs node "array") :
    (∃ item, node.lookup "items" = some (.object item)) ∨
      ∃ items, items ≠ [] ∧ node.lookup "items" = some (.array items) := by
  generalize same : "array" = kind at h
  cases h with
  | array items => exact items
  | _ => exact absurd same (by decide)

theorem WellFormedAs.string_keywords (h : WellFormedAs node "string") :
    node.lookup "enum" = none ∨ ∃ values, node.lookup "enum" = some (.array values) ∧
      ∀ value ∈ values, value = .null ∨ ∃ text, value = .string text := by
  generalize same : "string" = kind at h
  cases h with
  | string enum => exact enum
  | _ => exact absurd same (by decide)

/-- A malformed node is not well formed, whatever the reason. -/
theorem Malformed.not_wellFormed {json : Json} (h : Malformed json reason) : ¬ WellFormed json := by
  intro well
  cases h with
  | notObject other => cases well <;> exact other _ rfl
  | refNotString hl other =>
    cases well with
    | reference hl' =>
      rw [hl] at hl'
      cases hl'
      exact other _ rfl
    | kinds plain =>
      rw [hl] at plain
      cases plain
  | typeEntryNotString plain hl hm other =>
    obtain ⟨kinds, hn, -⟩ := well.exists_kinds plain
    have texts := namedKinds_ok.2 hn
    rw [namedKinds, hl] at texts
    obtain rfl := kindTexts_ok.1 texts
    obtain ⟨kind, -, rfl⟩ := List.mem_map.1 hm
    exact other kind rfl
  | @typeNotStringOrArray _ value plain hl not_string not_array =>
    obtain ⟨kinds, hn, -⟩ := well.exists_kinds plain
    have texts := namedKinds_ok.2 hn
    rw [namedKinds, hl] at texts
    cases value with
    | string kind => exact not_string kind rfl
    | array entries => exact not_array entries rfl
    | _ => cases texts
  | missingType plain no_type no_properties no_items no_enum =>
    obtain ⟨kinds, hn, -⟩ := well.exists_kinds plain
    have texts := namedKinds_ok.2 hn
    simp [namedKinds, no_type, no_properties, no_items, no_enum] at texts
  | nullOnly plain hn only =>
    obtain ⟨kinds, hn', ⟨kind, hm, hne⟩, -⟩ := well.exists_kinds plain
    obtain rfl := Except.ok.inj ((namedKinds_ok.2 hn).symm.trans (namedKinds_ok.2 hn'))
    exact hne (only kind hm)
  | @unknownType _ kind hk unknown =>
    have not_null : kind ≠ "null" := by
      rintro rfl
      exact unknown (by decide)
    cases well.wellFormedAs hk not_null <;> exact unknown (by decide)
  | requiredNotArray hk hl other =>
    obtain ⟨absent | ⟨keys, hl'⟩, -⟩ := (well.wellFormedAs hk (by decide)).object_keywords
    · simp [hl] at absent
    · exact other keys (Option.some.inj (hl.symm.trans hl'))
  | propertiesNotObject hk hl other =>
    obtain ⟨-, absent | ⟨properties, hl'⟩⟩ := (well.wellFormedAs hk (by decide)).object_keywords
    · simp [hl] at absent
    · exact other properties (Option.some.inj (hl.symm.trans hl'))
  | itemsMissing hk no_item no_items =>
    obtain ⟨item, hl⟩ | ⟨items, filled, hl⟩ := (well.wellFormedAs hk (by decide)).array_keywords
    · exact no_item item hl
    · exact no_items items filled hl
  | enumNotArray hk hl other =>
    obtain absent | ⟨values, hl', -⟩ := (well.wellFormedAs hk (by decide)).string_keywords
    · simp [hl] at absent
    · exact other values (Option.some.inj (hl.symm.trans hl'))
  | @enumValueNotString _ values value hk hl hm not_null not_string =>
    obtain absent | ⟨found, hl', all⟩ := (well.wellFormedAs hk (by decide)).string_keywords
    · simp [hl] at absent
    · rw [hl] at hl'
      cases hl'
      obtain rfl | ⟨text, rfl⟩ := all value hm
      · exact not_null rfl
      · exact not_string text rfl

end SchemaClasses.Schema
