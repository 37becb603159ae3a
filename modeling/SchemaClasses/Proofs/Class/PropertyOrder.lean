/-
The order of properties has no say in what is built. Two type sets that differ in it have akin deeds, and what
deeds leave is said without their order: the classes are those that were added, and the entities with the pair
are those that are reached from where it was given.
-/
import SchemaClasses.Proofs.Class.AkinDeeds
import SchemaClasses.Proofs.Class.Imports
import SchemaClasses.Proofs.Class.Order
import SchemaClasses.Proofs.Class.Properties
import SchemaClasses.Proofs.Generator.Rebuild
import SchemaClasses.Proofs.Schema.PropertyOrder

namespace SchemaClasses

open Build ClassModel Template

variable {v : ValueObjects} {ambient name space className key : String} {traits : Traits}
  {properties properties' : List (String × TypeSet)} {d d' target : TypeDef} {set set' : TypeSet}
  {items items' : List TypeSet} {item : ItemType} {source : String} {deed : Deed} {m : ClassModel} {s s' : BuildState}

/-! ## Parts of permuted type sets -/

theorem TypeDef.Permuted.walked (h : d.Permuted d') : TypeSet.Permuted (walked d) (walked d') := by
  have kept := h
  cases h with
  | resolved same => exact same
  | first loose | second loose => exact loose.elim
  | _ => exact permuted_single kept

theorem TypeDef.Permuted.walkedName_eq (h : d.Permuted d') (key : String) : walkedName key d = walkedName key d' := by
  cases h with
  | resolved same => simp only [walkedName, TypeDef.name, (TypeSet.Permuted.first same).traits_eq]
  | first loose | second loose => exact loose.elim
  | _ => rfl

theorem TypeDef.Permuted.promisedName_eq (h : d.Permuted d') (key : String) :
    promisedName v ambient key d = promisedName v ambient key d' := by
  have traits := h.traits_eq
  cases h with
  | resolved same =>
    have first := (TypeSet.Permuted.first same).traits_eq
    simp only [promisedName, TypeDef.name, extractNamespace_of_traits first, first]
  | first loose | second loose => exact loose.elim
  | _ => simp only [promisedName, extractNamespace_of_traits traits]

theorem exists_standsFor_of_permuted (h : TypeSet.Permuted set set') (stands : standsFor? set = some d) :
    ∃ d', standsFor? set' = some d' ∧ d.Permuted d' := by
  obtain ⟨first, others⟩ := set
  obtain ⟨first', others'⟩ := set'
  have same := TypeSet.Permuted.first h
  have kept := same
  cases same with
  | @resolved _ _ inner inner' same =>
    obtain ⟨inner, more⟩ := inner
    obtain ⟨inner', more'⟩ := inner'
    have same := TypeSet.Permuted.first same
    have kept := same
    cases same with
    | unresolved | resolved => cases stands
    | first loose | second loose => exact loose.elim
    | _ =>
      cases stands
      exact ⟨_, rfl, kept⟩
  | unresolved => cases stands
  | first loose | second loose => exact loose.elim
  | _ =>
    cases stands
    exact ⟨_, rfl, kept⟩

theorem exists_itemSource_of_permuted (h : d.Permuted d') (leads : itemSource? d = some (target, source)) :
    ∃ target', itemSource? d' = some (target', source) ∧ target.Permuted target' := by
  have kept := h
  cases h with
  | @resolved _ pointer inner inner' same =>
    obtain ⟨inner, more⟩ := inner
    obtain ⟨inner', more'⟩ := inner'
    obtain ⟨first, rest⟩ := List.forall₂_cons.1 same
    cases more with
    | cons => cases leads
    | nil =>
      obtain rfl := List.forall₂_nil_left_iff.1 rest
      cases leads
      have first : TypeDef.Permuted _ inner' := first
      refine ⟨inner', ?_, first⟩
      simp only [itemSource?, TypeDef.name, first.traits_eq]
  | unresolved => cases leads
  | first loose | second loose => exact loose.elim
  | _ =>
    cases leads
    exact ⟨_, rfl, kept⟩

/-- Permuted items are of the same type. -/
theorem HasItems.permuted (hi : HasItems items item d target source) (h : List.Forall₂ TypeSet.Permuted items items') :
    ∃ d' target', HasItems items' item d' target' source ∧ d.Permuted d' ∧ target.Permuted target' := by
  obtain ⟨rfl, leads, single, conversion, name⟩ := hi
  cases h with
  | @cons _ set' _ _ same rest =>
    cases rest
    obtain ⟨d', others'⟩ := set'
    obtain ⟨first, none⟩ := List.forall₂_cons.1 same
    obtain rfl := List.forall₂_nil_left_iff.1 none
    obtain ⟨target', leads', same⟩ := exists_itemSource_of_permuted first leads
    refine ⟨d', target', ⟨rfl, leads', ?_, ?_, name⟩, first, same⟩
    · rcases single with scalar | ⟨_, _, rfl⟩
      · cases same with
        | string | integer | number | boolean => exact .inl trivial
        | _ => cases scalar
      · cases same with
        | object => exact .inr ⟨_, _, rfl⟩
    · rw [← conversion]
      cases same <;> rfl

/-- The type of the items is all that a list is made from. -/
theorem build_list_eq {d' target' : TypeDef} {source' space : String} (hi : HasItems items item d target source)
    (hi' : HasItems items' item d' target' source') :
    v.build className space (.array traits items) = v.build className space (.array traits items') := by
  unfold ValueObjects.build ValueObjects.template ListOf.ofArray
  simp only [itemType_ok.2 ⟨_, _, _, hi⟩, itemType_ok.2 ⟨_, _, _, hi'⟩]
  rfl

/-! ## Entities of permuted objects -/

section Entities

variable (perm : (properties.map Prod.fst).Perm (properties'.map Prod.fst))
  (apart : ((properties.map Prod.fst).map v.filters.propertyName).Nodup)
  (same : ∀ key set set', (key, set) ∈ properties → (key, set') ∈ properties' → TypeSet.Permuted set set')

include perm same

theorem mem_imports_of_permuted (short : ∀ raw, IsShort (v.filters.className raw)) (into : ClassModel) (fqcn : String) :
    fqcn ∈ (properties.foldl (withSchemaProperty v ambient) into).imports ↔
      fqcn ∈ (properties'.foldl (withSchemaProperty v ambient) into).imports := by
  rw [mem_imports_foldl short, mem_imports_foldl short]
  refine or_congr_right (and_congr_left fun _ => mem_map_of_permuted perm fun key set set' hm hm' => ?_)
  exact (TypeSet.Permuted.first (same key set set' hm hm')).promisedName_eq key

include apart

/-- Where all keys have names of their own, each name has the property of its key. -/
theorem at?_properties_of_permuted (into : ClassModel) (name : String) :
    (properties.foldl (withSchemaProperty v ambient) into).properties.at? name =
      (properties'.foldl (withSchemaProperty v ambient) into).properties.at? name := by
  let named : String × TypeSet → String × Property :=
    fun entry => (v.filters.propertyName entry.1, schemaProperty v ambient entry)
  have names : ∀ entries : List (String × TypeSet),
      Entries.names (entries.map named) = (entries.map Prod.fst).map v.filters.propertyName := fun entries => by
    simp [Entries.names, named, Function.comp_def]
  have distinct : Entries.Distinct (properties.map named) := by
    rw [Entries.Distinct, names]
    exact apart
  have distinct' : Entries.Distinct (properties'.map named) := by
    rw [Entries.Distinct, names]
    exact (perm.map _).nodup_iff.1 apart
  have pairs : (properties.map named).Perm (properties'.map named) := by
    refine (List.perm_ext_iff_of_nodup (.of_map _ distinct) (.of_map _ distinct')).2 fun pair =>
      mem_map_of_permuted perm fun key set set' hm hm' => ?_
    have first := TypeSet.Permuted.first (same key set set' hm hm')
    have hint := propertyTypeHint_of_traits first.traits_eq
    simp only [named, schemaProperty]
    rw [first.promisedName_eq key, hint]
  rw [properties_foldl, properties_foldl, Entries.at?_foldl_put, Entries.at?_foldl_put,
    ← Entries.at?_perm distinct (List.reverse_perm _).symm, ← Entries.at?_perm distinct' (List.reverse_perm _).symm,
    Entries.at?_perm distinct pairs]

theorem akin_foldl (short : ∀ raw, IsShort (v.filters.className raw)) (into : ClassModel) :
    (properties.foldl (withSchemaProperty v ambient) into).Akin
      (properties'.foldl (withSchemaProperty v ambient) into) where
  space := by rw [space_foldl, space_foldl]
  kind := by rw [foldl_withSchemaProperty_eq properties, foldl_withSchemaProperty_eq properties']
  properties := at?_properties_of_permuted perm apart same into
  imports := mem_imports_of_permuted perm same short into

end Entities

/-! ## Akin deeds -/

theorem KeysApart.of_property {filter : String → String} {others : List TypeDef} {entry : String × TypeSet}
    (apart : TypeSet.KeysApart filter ⟨.object traits properties, others⟩) (he : entry ∈ properties)
    (stands : standsFor? (walked entry.2.first) = some d) : TypeSet.KeysApart filter ⟨d, []⟩ :=
  fun traits inner occurs => apart traits inner
    (.property List.mem_cons_self he (occurs_of_walked (occurs_of_standsFor stands occurs)))

theorem KeysApart.of_item {filter : String → String} {others : List TypeDef}
    (apart : TypeSet.KeysApart filter ⟨.array traits items, others⟩) (hi : HasItems items item d target source) :
    TypeSet.KeysApart filter ⟨target, []⟩ := fun traits inner occurs => by
  refine apart traits inner (.item List.mem_cons_self ?_ (occurs_of_standsFor hi.standsFor occurs))
  rw [hi.only]
  exact List.mem_cons_self

/-- A property of a permuted object is built from a permuted definition under the same name. -/
theorem exists_built_of_permuted {entry : String × TypeSet}
    (same : TypeDef.Permuted (.object traits properties) (.object traits properties')) (he : entry ∈ properties)
    (stands : standsFor? (walked entry.2.first) = some d) : ∃ entry' ∈ properties', ∃ d',
      standsFor? (walked entry'.2.first) = some d' ∧ d.Permuted d' ∧
      walkedName entry.1 entry.2.first = walkedName entry'.1 entry'.2.first ∧ ∀ ambient,
      extractNamespace ambient (walked entry.2.first).first = extractNamespace ambient (walked entry'.2.first).first := by
  obtain ⟨key, set⟩ := entry
  cases same with
  | object perm _ values =>
    obtain ⟨set', he'⟩ := exists_property_of_perm perm he
    have first := TypeSet.Permuted.first (values key set set' he he')
    obtain ⟨d', stands', same⟩ := exists_standsFor_of_permuted first.walked stands
    have traits := (TypeSet.Permuted.first first.walked).traits_eq
    exact ⟨_, he', d', stands', same, first.walkedName_eq key, extractNamespace_of_traits traits⟩

/-- A permuted definition has akin deeds. -/
theorem Does.permuted (plain : PlainNames v.filters) (h : Does v ambient name space className d deed)
    (same : d.Permuted d') (apart : TypeSet.KeysApart v.filters.propertyName ⟨d, []⟩) :
    ∃ deed', Does v ambient name space className d' deed' ∧ deed.Akin deed' := by
  induction h generalizing d' with
  | @entity name space className traits properties =>
    cases same with
    | object perm _ values =>
      refine ⟨_, .entity, .entity ?_ (akin_foldl perm (apart _ _ (.here List.mem_cons_self)) values plain.short _)⟩
      rw [fqcn_entityOf, fqcn_entityOf]
  | @property name space className traits properties entry d deed he stands _ ih =>
    have kept := same
    cases same with
    | object =>
      obtain ⟨entry', he', d', stands', same, named, placed⟩ := exists_built_of_permuted kept he stands
      obtain ⟨deed', does, akin⟩ := ih same (KeysApart.of_property apart he stands)
      rw [named, placed] at does
      exact ⟨deed', .property he' stands' does, akin⟩
  | @item name space className traits items item d target source deed hi _ ih =>
    cases same with
    | array same =>
      obtain ⟨d', target', hi', -, same⟩ := hi.permuted same
      obtain ⟨deed', does, akin⟩ := ih same (KeysApart.of_item apart hi)
      rw [extractNamespace_of_traits same.traits_eq] at does
      exact ⟨deed', .item hi' does, akin⟩
  | @pair name space className traits items item d target source hi object =>
    cases same with
    | array same =>
      obtain ⟨d', target', hi', -, same⟩ := hi.permuted same
      rw [extractNamespace_of_traits same.traits_eq]
      exact ⟨_, .pair hi' object, .refl _⟩
  | @list name space className traits items item d target source c reported hi hb =>
    cases same with
    | @array _ _ items' same =>
      obtain ⟨d', target', hi', -, same⟩ := hi.permuted same
      rw [extractNamespace_of_traits same.traits_eq]
      rw [build_list_eq hi hi'] at hb
      exact ⟨_, .list hi' hb, .refl _⟩
  | @value name space className d c reported hd hb =>
    cases same with
    | string | integer | number | boolean => exact ⟨_, .value hd hb, .refl _⟩
    | _ => cases hd

theorem DoesProperties.permuted {others : List TypeDef} (plain : PlainNames v.filters)
    (h : DoesProperties v ambient properties deed)
    (same : TypeDef.Permuted (.object traits properties) (.object traits properties'))
    (apart : TypeSet.KeysApart v.filters.propertyName ⟨.object traits properties, others⟩) :
    ∃ deed', DoesProperties v ambient properties' deed' ∧ deed.Akin deed' := by
  obtain ⟨entry, he, d, stands, does⟩ := h
  obtain ⟨entry', he', d', stands', same, named, placed⟩ := exists_built_of_permuted same he stands
  obtain ⟨deed', does, akin⟩ := does.permuted plain same (KeysApart.of_property apart he stands)
  rw [named, placed] at does
  exact ⟨deed', ⟨entry', he', d', stands', does⟩, akin⟩

/-! ## Builds -/

section Definitions

variable {into : ClassModel} {events events' : List Event}

theorem madeBy_properties (plain : PlainNames v.filters)
    (run : Runs (buildProperties v ambient properties into) ⟨{}, events⟩ (.ok m) s) (silent : Collection.Silent s.events)
    (untwinned : AllUntwinned s.collection) : MadeBy (DoesProperties v ambient properties) s.collection := by
  have steps := (buildsProperties_all v ambient (fun _ => True) properties (fun _ _ => ⟨trivial, fun _ _ => trivial⟩) run).1
  refine (performsProperties_all v ambient properties into).madeBy ?_ run silent
    (steps.closed plain silent closed_empty) untwinned
  rintro deed ⟨_, _, _, _, does⟩
  exact does.proper

theorem madeBy_definition (plain : PlainNames v.filters)
    (run : Runs (buildDefinition v ambient (.entity "" "") className d) ⟨{}, events⟩ (.ok ()) s)
    (silent : Collection.Silent s.events) (untwinned : AllUntwinned s.collection) :
    MadeBy (Does v ambient "" "" className d) s.collection := by
  have steps := (buildsDefinition_all v ambient (fun _ => True) d isTrimmed_empty (fun _ _ => trivial) run).1
  exact (performsDefinition_all v ambient d "" "" className).madeBy (fun deed does => does.proper) run silent
    (steps.closed plain silent closed_empty) untwinned

/-- An object leaves the classes of its properties and the class that it fills. -/
theorem exists_madeBy_object (plain : PlainNames v.filters)
    (run : Runs (buildDefinition v ambient into className (.object traits properties)) ⟨{}, events⟩ (.ok ()) s)
    (silent : Collection.Silent s.events) (untwinned : AllUntwinned s.collection) :
    ∃ c, MadeBy (DoesProperties v ambient properties) c ∧ AllOrderly c ∧
      let m := properties.foldl (withSchemaProperty v ambient) into
      c.addEvents (keepRawArray (c.get? m.fqcn) m) = [] ∧ s.collection = c.add (keepRawArray (c.get? m.fqcn) m) := by
  rw [buildDefinition] at run
  obtain ⟨_, before, filled, added⟩ := runs_bind_ok.1 run
  obtain rfl := eq_of_runs_buildProperties filled
  obtain ⟨-, rfl⟩ := runs_addEntity.1 added
  have still := silent.of_append_left.of_append_left
  have quiet := silent.of_append_right.addEvents_eq
  obtain ⟨sound, -⟩ := (mirrorsProperties_all v ambient properties into).sound filled trivial still sound_empty
  have orderly := sound.toAllOrderly
  have apart := untwinned.of_maturesInto (maturesInto_add orderly quiet) orderly
  exact ⟨_, madeBy_properties plain filled still apart, orderly, quiet, rfl⟩

theorem sameMembers_foldl (plain : PlainNames v.filters)
    (same : TypeDef.Permuted (.object traits properties) (.object traits properties'))
    (apart : TypeSet.KeysApart v.filters.propertyName ⟨.object traits properties, []⟩) (into : ClassModel) :
    (properties.foldl (withSchemaProperty v ambient) into).fqcn =
        (properties'.foldl (withSchemaProperty v ambient) into).fqcn ∧
      (properties.foldl (withSchemaProperty v ambient) into).SameMembers
        (properties'.foldl (withSchemaProperty v ambient) into) := by
  cases same with
  | object perm _ values =>
    refine ⟨?_, akin_foldl perm (apart _ _ (.here List.mem_cons_self)) values plain.short into, fun name => ?_⟩
    · rw [foldl_withSchemaProperty_eq properties, foldl_withSchemaProperty_eq properties']
      rfl
    · rw [foldl_withSchemaProperty_eq properties, foldl_withSchemaProperty_eq properties']
      rfl

/-- Permuted definitions that are built from nothing leave classes of the same members. -/
theorem sameMembers_definition (plain : PlainNames v.filters) (same : d.Permuted d')
    (apart : TypeSet.KeysApart v.filters.propertyName ⟨d, []⟩)
    (run : Runs (buildDefinition v ambient into className d) ⟨{}, events⟩ (.ok ()) s)
    (run' : Runs (buildDefinition v ambient into className d') ⟨{}, events'⟩ (.ok ()) s')
    (silent : Collection.Silent s.events) (silent' : Collection.Silent s'.events)
    (untwinned : AllUntwinned s.collection) (untwinned' : AllUntwinned s'.collection) (fqcn : String) :
    Option.Rel SameMembers (s.collection.get? fqcn) (s'.collection.get? fqcn) := by
  have apart' := apart.permuted (permuted_single same)
  by_cases object : ∃ traits properties, d = .object traits properties
  -- an object may fill a class of any shape, so the class is added by itself
  · obtain ⟨traits, properties, rfl⟩ := object
    have kept := same
    cases same with
    | object =>
      obtain ⟨c, left, orderly, quiet, he⟩ := exists_madeBy_object plain run silent untwinned
      obtain ⟨c', left', orderly', quiet', he'⟩ := exists_madeBy_object plain run' silent' untwinned'
      obtain ⟨named, filled⟩ := @sameMembers_foldl v ambient _ _ _ plain kept apart into
      rw [he, he']
      refine sameMembers_add (left.sameMembers left' ?_ ?_) orderly orderly' named filled quiet quiet' fqcn
      · exact fun deed does => does.permuted plain kept apart
      · exact fun deed' does => does.permuted plain kept.symm apart'
  · have other : ∀ traits properties, d ≠ .object traits properties := fun traits properties he =>
      object ⟨traits, properties, he⟩
    have other' : ∀ traits properties, d' ≠ .object traits properties := by
      rintro traits properties rfl
      cases same with
      | object => exact other _ _ rfl
    rw [buildDefinition_into other] at run
    rw [buildDefinition_into other'] at run'
    refine (madeBy_definition plain run silent untwinned).sameMembers
      (madeBy_definition plain run' silent' untwinned') ?_ ?_ fqcn
    · exact fun deed does => does.permuted plain same apart
    · exact fun deed' does => does.permuted plain same.symm apart'

end Definitions

/-- Two type sets that differ in the order of properties are built from nothing to the same classes, but for the
order of members, if both builds succeed without replacing a class and no class imports two of one short name. The
names of keys must be apart in each object. -/
theorem buildSet_permuted {into : ClassModel} (plain : PlainNames v.filters) (same : TypeSet.Permuted set set')
    (apart : TypeSet.KeysApart v.filters.propertyName set)
    (run : Runs (buildSet v ambient into className set) {} (.ok ()) s)
    (run' : Runs (buildSet v ambient into className set') {} (.ok ()) s')
    (silent : Collection.Silent s.events) (silent' : Collection.Silent s'.events)
    (untwinned : AllUntwinned s.collection) (untwinned' : AllUntwinned s'.collection) (fqcn : String) :
    Option.Rel SameMembers (s.collection.get? fqcn) (s'.collection.get? fqcn) := by
  rw [buildSet] at run run'
  obtain ⟨⟨d, _⟩, _, resolved, run⟩ := runs_bind_ok.1 run
  obtain ⟨⟨d', _⟩, _, resolved', run'⟩ := runs_bind_ok.1 run'
  obtain ⟨stands, events, rfl⟩ := runs_resolveFirst resolved
  obtain ⟨stands', events', rfl⟩ := runs_resolveFirst resolved'
  obtain ⟨_, found, same⟩ := exists_standsFor_of_permuted same stands
  obtain rfl := Option.some.inj (stands'.symm.trans found)
  have apart : TypeSet.KeysApart v.filters.propertyName ⟨d, []⟩ := fun traits properties occurs =>
    apart traits properties (occurs_of_standsFor stands occurs)
  exact sameMembers_definition plain same apart run run' silent silent' untwinned untwinned' fqcn

/-! ## An object and a list of it -/

section Parcel

def parcel : TypeDef := .object { name := "p" } []

def parcels : TypeDef := .array { name := "ps" } [⟨parcel, []⟩]

def parcelsFirst : List (String × TypeSet) := [("ps", ⟨parcels, []⟩), ("p", ⟨parcel, []⟩)]

def parcelsLast : List (String × TypeSet) := [("p", ⟨parcel, []⟩), ("ps", ⟨parcels, []⟩)]

def parcelRecord (properties : List (String × TypeSet)) : TypeSet := ⟨.object { name := "r" } properties, []⟩

def parcelEntity : ClassModel := .entity (conventionalNames.className "p") (extractNamespace "App" parcel)

def parcelName : String := qualify (extractNamespace "App" parcel) (conventionalNames.className "p")

def parcelList : ClassModel :=
  (named (Template.ListOf.build conventionalNames true "ps" ⟨"p", .array⟩) (conventionalNames.className "ps")
    (extractNamespace "App" parcels)).addImport parcelName

/-- What the list leaves: the class of its items, with the pair, and its own class. -/
def withParcels (s : BuildState) : BuildState :=
  ((BuildState.mk ((s.addEntity parcelEntity).collection.adjust parcelName (·.withRawArray []))
    (s.addEntity parcelEntity).events).report [.valueObjectBuilt parcelList.fqcn "array"]).add parcelList

theorem buildDefinition_parcel (into : ClassModel) (className : String) :
    Runs (buildDefinition twinsMaker "App" into className parcel) s (.ok ()) (s.addEntity into) := by
  unfold parcel
  rw [buildDefinition]
  exact runs_bind_ok.2 ⟨_, _, buildProperties_nil into, runs_addEntity.2 ⟨rfl, rfl⟩⟩

theorem propertyClass_parcel : Runs (propertyClass twinsMaker "App" "p" parcel) s
    (.ok (promisedName twinsMaker "App" "p" parcel)) (s.addEntity parcelEntity) := by
  have built := @buildDefinition_parcel s parcelEntity "p"
  unfold parcel at built ⊢
  rw [propertyClass]
  exact runs_bind_ok.2 ⟨_, _, built, runs_pure.2 ⟨rfl, rfl⟩⟩

/-- The list asks for the pair of an entity that has none yet. -/
theorem propertyClass_parcels (lacks : (s.addEntity parcelEntity).collection.get? parcelName = some parcelEntity) :
    Runs (propertyClass twinsMaker "App" "ps" parcels) s (.ok (promisedName twinsMaker "App" "ps" parcels))
      (withParcels s) := by
  have built : Runs (buildSet twinsMaker "App" parcelEntity "p" ⟨parcel, []⟩) s (.ok ()) (s.addEntity parcelEntity) := by
    rw [buildSet]
    exact runs_bind_ok.2 ⟨_, _, rfl, buildDefinition_parcel _ _⟩
  have paired : addRawArrays (s.addEntity parcelEntity).collection [parcelName] =
      (.ok (), (s.addEntity parcelEntity).collection.adjust parcelName (·.withRawArray [])) := by
    have none : allPropertyLines (s.addEntity parcelEntity).collection parcelEntity parcelEntity.properties.values =
        .ok [] := rfl
    rw [addRawArrays_add lacks (by decide +kernel) none]
    exact addRawArrays_nil
  unfold parcels
  rw [propertyClass]
  refine runs_bind_ok.2 ⟨(), _, ?_, runs_pure.2 ⟨rfl, rfl⟩⟩
  rw [buildDefinition]
  refine runs_bind_ok.2 ⟨⟨"p", .array⟩, _, rfl, runs_bind_ok.2 ⟨_, _, rfl, runs_bind_ok.2 ⟨_, _, built, ?_⟩⟩⟩
  refine runs_bind_ok.2 ⟨_, _, runs_rawArrays.2 ⟨_, paired, rfl⟩, ?_⟩
  exact runs_bind_ok.2 ⟨_, _, runs_valueObject.2 ⟨_, rfl, rfl⟩, runs_add.2 ⟨rfl, rfl⟩⟩

def parcelsFirstState : BuildState :=
  ((withParcels {}).addEntity parcelEntity).addEntity
    (entityOf twinsMaker "App" "R" "App" parcelsFirst)

def parcelsLastState : BuildState :=
  (withParcels (BuildState.addEntity {} parcelEntity)).addEntity
    (entityOf twinsMaker "App" "R" "App" parcelsLast)

theorem build_parcelsFirst : Runs (buildSet twinsMaker "App" (.entity "R" "App") "R" (parcelRecord parcelsFirst)) {}
    (.ok ()) parcelsFirstState :=
  buildSet_of_properties (buildProperties_cons (propertyClass_parcels Collection.get?_add_self)
    (buildProperties_cons propertyClass_parcel (buildProperties_nil _)))

theorem build_parcelsLast : Runs (buildSet twinsMaker "App" (.entity "R" "App") "R" (parcelRecord parcelsLast)) {}
    (.ok ()) parcelsLastState := by
  -- the entity is there without the pair when the list builds it again
  have lacks : ((BuildState.addEntity {} parcelEntity).addEntity parcelEntity).collection.get? parcelName =
      some parcelEntity := by
    refine (get?_addEntity _ parcelEntity).trans ?_
    rw [get?_addEntity]
    rfl
  exact buildSet_of_properties (buildProperties_cons propertyClass_parcel
    (buildProperties_cons (propertyClass_parcels lacks) (buildProperties_nil _)))

theorem permuted_parcelRecord : TypeSet.Permuted (parcelRecord parcelsFirst) (parcelRecord parcelsLast) := by
  have item : parcel.Permuted parcel := .object .rfl (.inl rfl) nofun
  have list : parcels.Permuted parcels := .array (.cons (permuted_single item) .nil)
  have perm : (parcelsFirst.map Prod.fst).Perm (parcelsLast.map Prod.fst) := .swap "p" "ps" []
  refine permuted_single (.object perm (.inr perm) fun key set set' hm hm' => ?_)
  simp only [parcelsFirst, parcelsLast, List.mem_cons, Prod.mk.injEq, List.not_mem_nil, or_false] at hm hm'
  rcases hm with ⟨rfl, rfl⟩ | ⟨rfl, rfl⟩
  · rcases hm' with ⟨he, -⟩ | ⟨-, rfl⟩
    · exact absurd he (by decide)
    · exact permuted_single list
  · rcases hm' with ⟨-, rfl⟩ | ⟨he, -⟩
    · exact permuted_single item
    · exact absurd he (by decide)

theorem keysApart_parcelRecord : TypeSet.KeysApart twinsMaker.filters.propertyName (parcelRecord parcelsFirst) := by
  have item : TypeSet.KeysApart twinsMaker.filters.propertyName ⟨parcel, []⟩ := by
    intro traits properties occurs
    cases occurs with
    | here hd =>
      cases List.mem_singleton.1 hd
      exact .nil
    | property hd hp =>
      cases List.mem_singleton.1 hd
      cases hp
    | item hd | target hd => cases List.mem_singleton.1 hd
  have list : TypeSet.KeysApart twinsMaker.filters.propertyName ⟨parcels, []⟩ := by
    intro traits properties occurs
    cases occurs with
    | item hd hi occurs =>
      cases List.mem_singleton.1 hd
      cases List.mem_singleton.1 hi
      exact item _ _ occurs
    | here hd | property hd | target hd => cases List.mem_singleton.1 hd
  intro traits properties occurs
  cases occurs with
  | here hd =>
    cases List.mem_singleton.1 hd
    decide +kernel
  | property hd hp occurs =>
    cases List.mem_singleton.1 hd
    rcases List.mem_cons.1 hp with he | hp
    · cases he
      exact list _ _ occurs
    · cases List.mem_singleton.1 hp
      exact item _ _ occurs
  | item hd | target hd => cases List.mem_singleton.1 hd

theorem silent_parcelsFirst : Collection.Silent parcelsFirstState.events := Collection.silent_of_all (by decide +kernel)

theorem silent_parcelsLast : Collection.Silent parcelsLastState.events := Collection.silent_of_all (by decide +kernel)

theorem untwinned_parcelsFirst : AllUntwinned parcelsFirstState.collection := allUntwinned_of_toList (by decide +kernel)

theorem untwinned_parcelsLast : AllUntwinned parcelsLastState.collection := allUntwinned_of_toList (by decide +kernel)

/-- The list gives the pair to the entity, whether this was built before it or is built again behind it. -/
theorem buildSet_permuted_parcels : parcelsFirstState.collection.names = ["App\\P", "App\\Ps", "App\\R"] ∧
    (parcelsFirstState.collection.get? "App\\P").map (·.hasMethod "fromArray") = some true ∧
    ∀ fqcn, Option.Rel SameMembers (parcelsFirstState.collection.get? fqcn) (parcelsLastState.collection.get? fqcn) := by
  have plain : PlainNames twinsMaker.filters := plainNames_conventional
  refine ⟨by decide +kernel, by decide +kernel, fun fqcn => ?_⟩
  exact buildSet_permuted plain permuted_parcelRecord keysApart_parcelRecord build_parcelsFirst build_parcelsLast
    silent_parcelsFirst silent_parcelsLast untwinned_parcelsFirst untwinned_parcelsLast fqcn

end Parcel

end SchemaClasses
