/-
What the classes of value objects have whatever they are made from: they are tidy, carry the
conversion of their kind, and lists say the class of their items.
-/
import SchemaClasses.Proofs.Class.Assembled
import SchemaClasses.Proofs.Run

namespace SchemaClasses

open Template

/-! ## Methods -/

namespace ClassModel

variable {c : ClassModel} {name : String}

theorem at?_addMethod (m : Method) : (c.addMethod m).methods.at? name =
    if name = m.name then some m else c.methods.at? name :=
  Entries.at?_put ..

theorem hasMethod_addMethods : ∀ (ms : List Method) {c : ClassModel},
    (c.addMethods ms).hasMethod name = (ms.any (·.name == name) || c.hasMethod name)
  | [], _ => rfl
  | m :: rest, c => by
    show ((c.addMethod m).addMethods rest).hasMethod name = _
    rw [hasMethod_addMethods rest, hasMethod, addMethod, Entries.hasName_put, List.any_cons, hasMethod,
      Bool.beq_comm]
    ac_rfl

theorem at?_addMethods : ∀ (ms : List Method) {c : ClassModel}, (c.addMethods ms).methods.at? name =
    (ms.reverse.find? (·.name == name)).or (c.methods.at? name)
  | [], _ => rfl
  | m :: rest, c => by
    show ((c.addMethod m).addMethods rest).methods.at? name = _
    rw [at?_addMethods rest, at?_addMethod, List.reverse_cons, List.find?_append, Option.or_assoc]
    by_cases h : name = m.name
    · simp [h]
    · have h' : ¬ m.name = name := fun e => h e.symm
      simp [h, h']

/-- The class has the named constructor and the accessor of a conversion. -/
def Converts (c : ClassModel) (conversion : Conversion) : Prop :=
  c.hasMethod conversion.wrap = true ∧ c.hasMethod conversion.unwrap = true

end ClassModel

/-! ## Conversions -/

/-- The conversion of the class that a definition makes; references make none of their own. -/
def conversionOf? : TypeDef → Option Conversion
  | .object .. | .array .. => some .array
  | .string .. => some .string
  | .integer _ => some .int
  | .number _ => some .float
  | .boolean _ => some .bool
  | .reference .. => none

/-- A definition of a single value. -/
def IsScalar : TypeDef → Prop
  | .string .. | .integer _ | .number _ | .boolean _ => True
  | .object .. | .array .. | .reference .. => False

/-- A tidy class of a kind of value objects other than lists, with the conversion of that kind. -/
structure IsValue (c : ClassModel) (conversion : Conversion) : Prop where
  kind : ∃ kind, c.kind = .valueObject kind ∧ kind.conversion = conversion ∧ kind ≠ .array
  tidy : c.Tidy
  converts : c.Converts conversion

theorem IsValue.ne_entity {c : ClassModel} {conversion : Conversion} (h : IsValue c conversion) :
    c.kind ≠ .entity := by
  obtain ⟨kind, hk, -⟩ := h.kind
  simp [hk]

/-! ## Single values -/

section Values

variable (filters : NameFilters) (typed : Bool)

theorem tidy_valueObject (kind : ValueObjectKind) : (ClassModel.valueObject kind typed).Tidy :=
  ⟨List.nodup_nil, Entries.distinct_nil, Entries.distinct_nil⟩

theorem isValue_scalar (scalar : Scalar) (name : String) (h : scalar.kind ≠ .array) :
    IsValue (scalar.build filters typed name) scalar.kind.conversion where
  kind := ⟨scalar.kind, rfl, rfl, h⟩
  tidy := (assembled_scalar filters typed name scalar).tidy (tidy_valueObject typed _)
  converts := by
    constructor <;>
      simp [Scalar.build, ClassModel.hasMethod_addMethods, fromNative, accessor, Method.namedConstructor]

theorem isValue_dateTime (format name : String) : IsValue (DateTime.build filters typed format name) .string where
  kind := ⟨.dateTime, rfl, rfl, by decide⟩
  tidy := (assembled_dateTime filters typed name format).tidy (tidy_valueObject typed _)
  converts := by
    constructor <;>
      simp [DateTime.build, ClassModel.hasMethod_addMethods, Conversion.string, Method.namedConstructor]

theorem isValue_uuid (name : String) : IsValue (Uuid.build filters typed name) .string where
  kind := ⟨.uuid, rfl, rfl, by decide⟩
  tidy := (assembled_uuid filters typed name).tidy (tidy_valueObject typed _)
  converts := by
    constructor <;>
      simp [Uuid.build, ClassModel.hasMethod_addMethods, Conversion.string, Method.namedConstructor]

theorem isValue_languageTag (name : String) : IsValue (LanguageTag.build filters typed name) .string where
  kind := ⟨.bcp47, rfl, rfl, by decide⟩
  tidy := (assembled_languageTag filters typed name).tidy (tidy_valueObject typed _)
  converts := by
    constructor <;>
      simp [LanguageTag.build, ClassModel.hasMethod_addMethods, Conversion.string, fromNative, accessor,
        Method.namedConstructor]

theorem isValue_enum (name : String) (values : List String) :
    IsValue (Enum.build filters typed name values).1 .string := by
  have assembled := assembled_enum filters typed name values
  refine ⟨⟨.enum name, assembled.kind_eq, rfl, by simp⟩, assembled.tidy (tidy_valueObject typed _), ?_, ?_⟩
  -- the named constructor of texts is there before those of the values, which take no method away
  · unfold Enum.build
    rw [ClassModel.hasMethod_addMethods, Bool.or_eq_true]
    refine .inr ((Assembled.start.addChoices filters values).hasMethod ?_)
    rw [hasMethod_addMethod]
    rfl
  · simp [Enum.build, ClassModel.hasMethod_addMethods, Enum.closingMethods, Conversion.string, accessor]

end Values

/-- The class that a template makes for a definition of a single value. -/
inductive TemplateOf (v : ValueObjects) : TypeDef → ClassModel → Prop
  | enum (traits : Traits) (format : Option String) (values : List String) :
      TemplateOf v (.string traits format (some values))
        (Enum.build v.filters v.typed (nameOr traits.name "text") values).1
  | dateTime (traits : Traits) (format : Option String) (name : String) :
      TemplateOf v (.string traits format none) (DateTime.build v.filters v.typed v.dateTimeFormat name)
  | uuid (traits : Traits) (format : Option String) (name : String) :
      TemplateOf v (.string traits format none) (Uuid.build v.filters v.typed name)
  | languageTag (traits : Traits) (format : Option String) (name : String) :
      TemplateOf v (.string traits format none) (LanguageTag.build v.filters v.typed name)
  | scalar (d : TypeDef) (scalar : Scalar) (name : String) :
      scalar.kind ∈ [.string, .integer, .number, .boolean] → conversionOf? d = some scalar.kind.conversion →
      TemplateOf v d (scalar.build v.filters v.typed name)

theorem templateOf_ofString (v : ValueObjects) (traits : Traits) (format : Option String)
    (choices : Option (List String)) : TemplateOf v (.string traits format choices) (v.ofString traits format choices).1 := by
  unfold ValueObjects.ofString
  simp only
  split
  · exact .enum traits format _
  · simp only
    split
    · exact .dateTime traits _ _
    · exact .dateTime traits _ _
    · exact .uuid traits _ _
    · exact .languageTag traits _ _
    · exact .scalar _ .text _ (by decide) rfl

theorem templateOf_template {v : ValueObjects} {d : TypeDef} {made : ClassModel} {events : List Event}
    (hd : IsScalar d) (h : v.template d = .ok (made, events)) : TemplateOf v d made := by
  cases d with
  | string traits format choices =>
    obtain rfl : (v.ofString traits format choices).1 = made := congrArg Prod.fst (Except.ok.inj h)
    exact templateOf_ofString v traits format choices
  | integer traits =>
    cases h
    exact .scalar _ .integer _ (by decide) rfl
  | number traits =>
    cases h
    exact .scalar _ .number _ (by decide) rfl
  | boolean traits =>
    cases h
    exact .scalar _ .boolean _ (by decide) rfl
  | _ => cases hd

/-- What a template makes carries the conversion of its definition. -/
theorem TemplateOf.isValue {v : ValueObjects} {d : TypeDef} {made : ClassModel} (h : TemplateOf v d made) :
    ∃ conversion, conversionOf? d = some conversion ∧ IsValue made conversion := by
  cases h with
  | enum traits format values => exact ⟨_, rfl, isValue_enum v.filters v.typed _ values⟩
  | dateTime traits format name => exact ⟨_, rfl, isValue_dateTime v.filters v.typed _ name⟩
  | uuid traits format name => exact ⟨_, rfl, isValue_uuid v.filters v.typed name⟩
  | languageTag traits format name => exact ⟨_, rfl, isValue_languageTag v.filters v.typed name⟩
  | scalar d scalar name among conversion =>
    have single : scalar.kind ≠ .array := fun he => absurd (he ▸ among) (by decide)
    exact ⟨_, conversion, isValue_scalar v.filters v.typed scalar name single⟩

/-! ## Named classes -/

/-- A template under a name in a namespace. -/
def named (c : ClassModel) (className space : String) : ClassModel :=
  { c with name := className, space := space, isStrict := true, isFinal := true }

theorem build_eq {v : ValueObjects} {className space : String} {d : TypeDef} {c : ClassModel}
    {events : List Event} (h : v.build className space d = .ok (c, events)) : ∃ made reported,
      v.template d = .ok (made, reported) ∧
      c = ValueObjects.withException v.filters (named made className space) := by
  unfold ValueObjects.build at h
  split at h
  · cases h
  · rename_i made reported ht
    cases h
    exact ⟨made, reported, ht, rfl⟩

theorem tidy_withException {filters : NameFilters} {c : ClassModel} (h : c.Tidy) :
    (ValueObjects.withException filters c).Tidy := by
  unfold ValueObjects.withException
  split
  · exact h.requireImport
  · exact h

/-- The import of an exception leaves everything else as it is. -/
theorem withException_eq (filters : NameFilters) (c : ClassModel) : ValueObjects.withException filters c =
    { c with imports := (ValueObjects.withException filters c).imports } := by
  unfold ValueObjects.withException
  split
  · exact ClassModel.requireImport_eq
  · rfl

/-- The class of a single value is named as asked and carries the conversion of its definition. -/
theorem build_scalar {v : ValueObjects} {className space : String} {d : TypeDef} {c : ClassModel}
    {events : List Event} (hd : IsScalar d) (h : v.build className space d = .ok (c, events)) :
    c.name = className ∧ c.space = space ∧ ∃ conversion, conversionOf? d = some conversion ∧ IsValue c conversion := by
  obtain ⟨made, reported, ht, rfl⟩ := build_eq h
  have same := withException_eq v.filters (named made className space)
  refine ⟨congrArg ClassModel.name same, congrArg ClassModel.space same, ?_⟩
  obtain ⟨conversion, hc, value⟩ := (templateOf_template hd ht).isValue
  -- the name and the flags have no part in being tidy
  have tidy : (named made className space).Tidy := ⟨value.tidy.imports, value.tidy.properties, value.tidy.methods⟩
  refine ⟨conversion, hc, ⟨?_, tidy_withException tidy, ?_⟩⟩
  · rw [same]
    exact value.kind
  · unfold ClassModel.Converts ClassModel.hasMethod
    rw [same]
    exact value.converts

/-! ## Lists -/

/-- What stands behind at most one reference, and the raw name of its class. -/
def itemSource? : TypeDef → Option (TypeDef × String)
  | .reference _ pointer (some ⟨target, []⟩) => some (target, nameOr target.name (targetName pointer))
  | .reference .. => none
  | d => some (d, d.name)

/-- The items of a list have a type: they are single values or objects, each of one alternative. -/
structure HasItems (items : List TypeSet) (item : ItemType) (d target : TypeDef) (source : String) : Prop where
  only : items = [⟨d, []⟩]
  leads : itemSource? d = some (target, source)
  single : IsScalar target ∨ ∃ traits properties, target = .object traits properties
  conversion : conversionOf? target = some item.conversion
  name : item.sourceName = nameOr source "item"

theorem itemTarget_ok {name source : String} {d target : TypeDef} :
    itemTarget name d = .ok (target, source) ↔ itemSource? d = some (target, source) := by
  cases d with
  | reference traits pointer resolved =>
    cases resolved with
    | none => simp [itemTarget, itemSource?]
    | some set =>
      obtain ⟨first, others⟩ := set
      cases others with
      | nil => simp [itemTarget, itemSource?, onlyAlternative, Except.map]
      | cons _ _ => simp [itemTarget, itemSource?, onlyAlternative, Except.map]
  | _ => simp [itemTarget, itemSource?]

theorem itemConversion_ok {name : String} {d : TypeDef} {conversion : Conversion} :
    itemConversion name d = .ok conversion ↔
      (IsScalar d ∨ ∃ traits properties, d = .object traits properties) ∧ conversionOf? d = some conversion := by
  cases d <;> simp [itemConversion, IsScalar, conversionOf?]

theorem onlyAlternative_ok {name : String} {set : TypeSet} {d : TypeDef} :
    onlyAlternative name set = .ok d ↔ set = ⟨d, []⟩ := by
  obtain ⟨first, others⟩ := set
  cases others <;> simp [onlyAlternative]

theorem itemType_ok {name : String} {items : List TypeSet} {item : ItemType} :
    itemType name items = .ok item ↔ ∃ d target source, HasItems items item d target source := by
  constructor
  · intro h
    unfold itemType at h
    split at h
    · simp only [except_bind_eq_ok, onlyAlternative_ok] at h
      obtain ⟨d, rfl, ⟨target, source⟩, ht, conversion, hc, ⟨⟩⟩ := h
      obtain ⟨single, hc⟩ := itemConversion_ok.1 hc
      exact ⟨d, target, source, rfl, itemTarget_ok.1 ht, single, hc, rfl⟩
    · cases h
  · rintro ⟨d, target, source, rfl, hs, single, conversion, hn⟩
    obtain ⟨sourceName, _⟩ := item
    cases hn
    simp only [itemType, except_bind_eq_ok, onlyAlternative_ok]
    exact ⟨d, rfl, _, itemTarget_ok.2 hs, _, itemConversion_ok.2 ⟨single, conversion⟩, rfl⟩

/-- The lines in which a list makes its items and turns them back. -/
structure ItemLines (c : ClassModel) (itemClass : String) (conversion : Conversion) : Prop where
  current : (c.methods.at? "current").map (·.returnType) = some (some itemClass)
  wraps : (c.methods.at? "fromArray").map (·.body) = some
    [s!"return new self(...array_map(static function ({conversion.native} $item) \x7b",
      s!"    return {itemClass}::{conversion.wrap}($item);", "\x7d, $items));"]
  unwraps : ∃ arg items : String, (c.methods.at? "toArray").map (·.body) = some
    [s!"return array_map(static function ({itemClass} ${arg}) \x7b",
      s!"    return ${arg}->{conversion.unwrap}();", s!"\x7d, $this->{items});"]

theorem ItemLines.of_methods {c c' : ClassModel} {itemClass : String} {conversion : Conversion}
    (h : ItemLines c itemClass conversion) (methods : c'.methods = c.methods) : ItemLines c' itemClass conversion := by
  obtain ⟨current, wraps, unwraps⟩ := h
  rw [← methods] at current wraps unwraps
  exact ⟨current, wraps, unwraps⟩

/-- A tidy class of a list without imports that makes its items by a conversion. -/
structure IsList (c : ClassModel) (itemClass : String) (conversion : Conversion) : Prop where
  kind : c.kind = .valueObject .array
  tidy : c.Tidy
  imports : c.imports = []
  lines : ItemLines c itemClass conversion

theorem IsList.ne_entity {c : ClassModel} {itemClass : String} {conversion : Conversion}
    (h : IsList c itemClass conversion) : c.kind ≠ .entity := by simp [h.kind]

theorem isList_build (filters : NameFilters) (typed : Bool) (name : String) (item : ItemType) :
    IsList (ListOf.build filters typed name item) (filters.className item.sourceName) item.conversion where
  kind := rfl
  tidy := (assembled_list filters typed name item).tidy
    ⟨List.nodup_nil, Entries.distinct_nil, Entries.distinct_nil⟩
  imports := rfl
  lines := by
    refine ⟨?_, ?_, filters.propertyName item.sourceName, filters.propertyName name, ?_⟩
    · rw [ListOf.build, ClassModel.at?_addMethod, ClassModel.at?_addMethods, walkable, ClassModel.at?_addMethods]
      rfl
    · rw [ListOf.build, ClassModel.at?_addMethod, ClassModel.at?_addMethods]
      rfl
    · rw [ListOf.build, ClassModel.at?_addMethod, ClassModel.at?_addMethods]
      rfl

theorem build_array {v : ValueObjects} {className space : String} {traits : Traits} {items : List TypeSet}
    {c : ClassModel} {events : List Event} {item : ItemType} {d target : TypeDef} {source : String}
    (hi : HasItems items item d target source) (h : v.build className space (.array traits items) = .ok (c, events)) :
    c.name = className ∧ c.space = space ∧ IsList c (v.filters.className item.sourceName) item.conversion := by
  obtain ⟨made, reported, ht, rfl⟩ := build_eq h
  unfold ValueObjects.template ListOf.ofArray at ht
  simp only [itemType_ok.2 ⟨d, target, source, hi⟩] at ht
  cases ht
  obtain ⟨kind, tidy, imports, lines⟩ :=
    isList_build v.filters v.typed (nameOr traits.name "items") item
  generalize ListOf.build v.filters v.typed (nameOr traits.name "items") item = made at *
  -- only enums import an exception
  have same : ValueObjects.withException v.filters (named made className space) = named made className space := by
    unfold ValueObjects.withException
    rw [show (named made className space).kind = .valueObject .array from kind]
  rw [same]
  exact ⟨rfl, rfl, kind, ⟨tidy.imports, tidy.properties, tidy.methods⟩, imports,
    lines.current, lines.wraps, lines.unwraps⟩

end SchemaClasses
