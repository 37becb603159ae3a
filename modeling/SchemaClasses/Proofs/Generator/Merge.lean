/-
Several schemas in one collection. Of the classes with one name the last one stays, as a whole: an entity
without the pair takes the place of one that had it, and what calls that pair is left without it.
-/
import SchemaClasses.Proofs.Class.Chain
import SchemaClasses.Proofs.Class.FittingPair
import SchemaClasses.Proofs.Class.Telltale
import SchemaClasses.Proofs.Generator.RawArray
import SchemaClasses.Proofs.Generator.Root

namespace SchemaClasses

/-! ## Adding whole collections -/

namespace Collection

variable {c made : Collection} {fqcn : String} {m : ClassModel}

theorem addAll_append : ∀ (models others : List ClassModel) (c : Collection), c.addAll (models ++ others) =
    (((c.addAll models).1.addAll others).1, (c.addAll models).2 ++ ((c.addAll models).1.addAll others).2)
  | [], _, _ => rfl
  | m :: rest, others, c => by
    rw [List.cons_append, addAll, addAll]
    simp only
    rw [addAll_append rest others]
    simp only [List.append_assoc]

/-- The classes of a collection come before those that were there. -/
theorem get?_addAll_toList (keyed : made.Keyed) :
    (c.addAll made.toList).1.get? fqcn = (made.get? fqcn).or (c.get? fqcn) := by
  cases hm : made.get? fqcn with
  | none =>
    refine get?_addAll_of_ne fun m there same => ?_
    rw [keyed.mem_toList_iff, same, hm] at there
    cases there
  | some m =>
    have same : m.fqcn = fqcn := keyed.key hm
    obtain ⟨last, hl, he, there⟩ := exists_of_mem_addAll made.toList (c := c)
      (keyed.mem_toList_iff.2 (same.symm ▸ hm))
    rw [keyed.mem_toList_iff, he, same, hm] at hl
    rw [same] at there
    rw [there, ← hl, Option.some_or]

/-- Under a name stands the class of the last collection that has one. -/
theorem get?_addAll_flatMap : ∀ {made : List Collection} {c : Collection}, (∀ c' ∈ made, c'.Keyed) →
    (c.addAll (made.flatMap toList)).1.get? fqcn = (made.reverse.findSome? (·.get? fqcn)).or (c.get? fqcn)
  | [], _, _ => rfl
  | first :: rest, c, keyed => by
    rw [List.forall_mem_cons] at keyed
    rw [List.flatMap_cons, addAll_append]
    simp only
    rw [get?_addAll_flatMap keyed.2, get?_addAll_toList keyed.1, List.reverse_cons, List.findSome?_append,
      List.findSome?_singleton, Option.or_assoc]

/-- Whoever has the pair keeps it in the eyes of a class of the same shape. -/
theorem hasPair_of_sameShape {m' : ClassModel} (h : m.HasPair) (same : m.sameShape m' = true) : m'.HasPair := by
  unfold ClassModel.sameShape at same
  simp only [Bool.and_eq_true, beq_iff_eq] at same
  exact h.keeps (Entries.at?_of_sameEntries same.2)

/-- A class with the pair that is gone in the end was replaced, and that is reported. -/
theorem replaced_of_lost : ∀ {models : List ClassModel} {c : Collection} {m : ClassModel}, c.get? fqcn = some m →
    m.HasPair → (∀ last, (c.addAll models).1.get? fqcn = some last → ¬ last.HasPair) →
    .classReplaced fqcn ∈ (c.addAll models).2
  | [], c, m, hm, pair, lost => absurd pair (lost m hm)
  | first :: rest, c, m, hm, pair, lost => by
    unfold addAll at lost ⊢
    rw [List.mem_append]
    by_cases same : first.fqcn = fqcn
    · rcases c.addEvents_cases first with silent | replaced
      · have kept := hasPair_of_sameShape pair (sameShape_of_silent silent (same ▸ hm))
        exact .inr (replaced_of_lost (same ▸ get?_add_self) kept lost)
      · rw [replaced, same]
        exact .inl List.mem_cons_self
    · have hm : (c.add first).get? fqcn = some m := by
        rw [get?_add, if_neg (Ne.symm same)]
        exact hm
      exact .inr (replaced_of_lost hm pair lost)

end Collection

/-! ## What bodies call -/

/-- A class that the bodies of a class call `fromArray` or `toArray` of: that of the items of a list of
objects, and those of the properties that an entity with a static `fromArray` converts through arrays. -/
inductive CallsArray (m : ClassModel) : String → Prop
  | item {itemClass : String} : m.kind = .valueObject .array → ItemLines m itemClass .array →
      CallsArray m (importedOrLocal m itemClass)
  | assigned {method : Method} {parts : List (Property × Conversion)} {p : Property} : m.kind = .entity →
      m.methods.at? "fromArray" = some method → method.isStatic = true →
      method.body = ["$instance = new self();"] ++ parts.map assignment ++ ["return $instance;"] →
      (p, .array) ∈ parts → CallsArray m (importedOrLocal m (plainHint p.typeHint))
  | read {method : Method} {parts : List (Property × Conversion)} {p : Property} : m.kind = .entity →
      (m.methods.at? "fromArray").map (·.isStatic) = some true → m.methods.at? "toArray" = some method →
      method.body = ["return ["] ++ parts.map reading ++ ["];"] → p ∈ m.properties.values → (p, .array) ∈ parts →
      CallsArray m (importedOrLocal m (plainHint p.typeHint))

/-- A class that is made from an array and turned back into one. -/
def ArrayForm (c : Collection) (fqcn : String) : Prop :=
  ∃ m, c.get? fqcn = some m ∧ m.kind.conversion? = some .array ∧ m.HasPair

theorem conversion?_eq_array {kind : ClassKind} (h : kind.conversion? = some .array) :
    kind = .entity ∨ kind = .valueObject .array := by
  cases kind with
  | entity => exact .inl rfl
  | exception => cases h
  | valueObject kind =>
    have native : kind.conversion.native = "array" := congrArg Conversion.native (Option.some.inj h)
    cases kind with
    | array => exact .inr rfl
    | string | integer | number | boolean | dateTime | uuid | bcp47 => exact absurd native (by decide)
    | enum => exact absurd (show "string" = "array" from native) (by decide)

/-- Classes of one name have the same properties and imports in two collections. -/
def AgreesWith (c c' : Collection) : Prop :=
  ∀ m ∈ c.toList, ∀ m' ∈ c'.toList, m.fqcn = m'.fqcn →
    m.properties.Perm m'.properties ∧ m.imports.Perm m'.imports

def Agree (made : List Collection) : Prop := ∀ c ∈ made, ∀ c' ∈ made, AgreesWith c c'

namespace Collection

variable {c own merged : Collection} {made earlier later : List Collection} {fqcn : String} {m : ClassModel}

theorem keyed_addAll {models : List ClassModel} (h : c.Keyed) : (c.addAll models).1.Keyed :=
  addAll_induction models h fun _ m _ _ hk => hk.add m

/-- A class stands in the last collection that has its name. -/
theorem exists_last (keyed : ∀ c ∈ made, c.Keyed)
    (h : (({} : Collection).addAll (made.flatMap toList)).1.get? fqcn = some m) :
    ∃ earlier own later, made = earlier ++ own :: later ∧ own.get? fqcn = some m ∧ ∀ c ∈ later, c.get? fqcn = none := by
  rw [get?_addAll_flatMap keyed, show ({} : Collection).get? fqcn = none from rfl, Option.or_none,
    List.findSome?_eq_some_iff] at h
  obtain ⟨later, own, earlier, split, there, none⟩ := h
  refine ⟨earlier.reverse, own, later.reverse, ?_, there, fun c hc => none c (List.mem_reverse.1 hc)⟩
  rw [← List.reverse_reverse made, split]
  simp

/-- A class of a collection with the pair: among those with its name in the collections that come after, the
last one has the pair too, or it is an entity without it, and that is reported. -/
theorem arrayForm_or_replaced (told : ∀ c ∈ own :: later, c.Keyed ∧ ∀ fqcn m, c.get? fqcn = some m → Telltale m)
    (agree : ∀ c ∈ later, AgreesWith own c)
    (h : ArrayForm own fqcn) : ArrayForm (c.addAll ((own :: later).flatMap toList)).1 fqcn ∨
      .classReplaced fqcn ∈ (c.addAll ((own :: later).flatMap toList)).2 ∧ ∃ c' ∈ later, ∃ e, c'.get? fqcn = some e ∧
        (c.addAll ((own :: later).flatMap toList)).1.get? fqcn = some e ∧ e.kind = .entity ∧ ¬ e.HasPair := by
  obtain ⟨m, hm, hk, pair⟩ := h
  rw [List.forall_mem_cons] at told
  obtain ⟨⟨keyed, tellOwn⟩, tell⟩ := told
  have state : (c.addAll own.toList).1.get? fqcn = some m := by rw [get?_addAll_toList keyed, hm, Option.some_or]
  rw [List.flatMap_cons, addAll_append]
  simp only
  have last := @get?_addAll_flatMap fqcn later (c.addAll own.toList).1 fun c hc => (tell c hc).1
  cases hl : later.reverse.findSome? (·.get? fqcn) with
  | none =>
    rw [hl, Option.none_or, state] at last
    exact .inl ⟨m, last, hk, pair⟩
  | some e =>
    rw [hl, Option.some_or] at last
    obtain ⟨c', hc, he⟩ := List.exists_of_findSome?_eq_some hl
    have hc := List.mem_reverse.1 hc
    obtain ⟨keyed', tells⟩ := tell c' hc
    have same : m.fqcn = e.fqcn := (keyed.key hm).trans (keyed'.key he).symm
    obtain ⟨properties, imports⟩ := agree c' hc m (mem_toList_of_get? hm) e (mem_toList_of_get? he) same
    obtain ⟨entity, list⟩ := (tellOwn fqcn m hm).kind_iff (tells fqcn e he) properties imports
    rcases conversion?_eq_array hk with hk | hk
    · have hk := entity.1 hk
      by_cases kept : e.HasPair
      · exact .inl ⟨e, last, by rw [hk]; rfl, kept⟩
      · have lost := replaced_of_lost state pair fun found hf => by
          obtain rfl := Option.some.inj (last.symm.trans hf)
          exact kept
        exact .inr ⟨List.mem_append_right _ lost, c', hc, e, he, last, hk, kept⟩
    · have hk := list.1 hk
      exact .inl ⟨e, last, by rw [hk]; rfl, (tells fqcn e he).pair hk⟩

end Collection

namespace Generator

variable {g : Generator} {schema : Json} {rootName : String} {c : Collection}

/-- The classes of a result stand under their own names, and their kinds can be told. -/
theorem telltale_generate (h : (g.generate schema rootName).1 = .ok c) :
    c.Keyed ∧ ∀ fqcn m, c.get? fqcn = some m → Telltale m := by
  constructor
  · obtain ⟨set, state, -, hb, rfl, -⟩ := generate_ok h
    exact keyed_finish ((build_steps hb).keyed Collection.keyed_empty)
  · obtain ⟨set, before, -, -, origin, rfl⟩ := generate_originates h
    have made : ∀ fqcn m, before.get? fqcn = some m → Telltale m := fun fqcn m hm =>
      let ⟨_, made, gained⟩ := origin fqcn m hm
      (telltale_made made).gained gained
    intro fqcn m hm
    split at hm
    · rcases Collection.of_get?_addAll _ hm with ⟨hm, -⟩ | ⟨-, hm⟩
      · obtain ⟨enum, -, he⟩ := mem_exceptions.1 hm
        unfold EnumException.ofClass at he
        split at he
        · obtain rfl := Except.ok.inj he
          exact telltale_exception _ _ _ _
        · cases he
      · exact made fqcn m hm
    · exact made fqcn m hm

/-- The classes of several schemas are the classes of each, added one schema after the other. -/
theorem generateInto_ok : ∀ {schemas : List (Json × String)} {c merged : Collection},
    (g.generateInto c schemas).1 = .ok merged → ∃ made : List Collection,
      List.Forall₂ (fun schema c => (g.generate schema.1 schema.2).1 = .ok c) schemas made ∧
      merged = (c.addAll (made.flatMap Collection.toList)).1 ∧
      ∀ event ∈ (c.addAll (made.flatMap Collection.toList)).2, event ∈ (g.generateInto c schemas).2
  | [], c, merged, h => ⟨[], .nil, (Except.ok.inj h).symm, nofun⟩
  | (schema, rootName) :: rest, c, merged, h => by
    unfold generateInto at h ⊢
    generalize hg : g.generate schema rootName = generated at h ⊢
    obtain ⟨_ | own, events⟩ := generated
    · cases h
    · obtain ⟨made, all, rfl, reported⟩ := generateInto_ok (show (g.generateInto (c.addAll own.toList).1 rest).1 = .ok merged from h)
      refine ⟨own :: made, .cons (congrArg Prod.fst hg) all, ?_, ?_⟩
      · rw [List.flatMap_cons, Collection.addAll_append]
      · rw [List.flatMap_cons, Collection.addAll_append]
        intro event he
        simp only [List.mem_append] at he ⊢
        rcases he with he | he
        · exact .inl (.inr he)
        · exact .inr (reported event he)

/-- Several schemas with the same properties and imports for the same names: a class that a body calls and
that had the pair in the collection of that body's class still has it, unless the last schema of the later
ones that has it too made it an entity without the pair. That is reported. -/
theorem generateAll_conversions {schemas : List (Json × String)} {merged : Collection}
    (h : (g.generateAll schemas).1 = .ok merged) : ∃ made : List Collection,
    List.Forall₂ (fun schema c => (g.generate schema.1 schema.2).1 = .ok c) schemas made ∧
    merged = (({} : Collection).addAll (made.flatMap Collection.toList)).1 ∧
    (Agree made → ∀ m ∈ merged.toList, ∃ earlier own later, made = earlier ++ own :: later ∧ m ∈ own.toList ∧
      (∀ c ∈ later, c.contains m.fqcn = false) ∧
      ∀ target, CallsArray m target → ArrayForm own target → ArrayForm merged target ∨
        .classReplaced target ∈ (g.generateAll schemas).2 ∧ ∃ c ∈ later, ∃ e, c.get? target = some e ∧
          merged.get? target = some e ∧ e.kind = .entity ∧ ¬ e.HasPair) := by
  obtain ⟨made, all, rfl, reported⟩ := generateInto_ok h
  refine ⟨made, all, rfl, fun agree m hm => ?_⟩
  have told : ∀ c ∈ made, c.Keyed ∧ ∀ fqcn m, c.get? fqcn = some m → Telltale m := fun c hc =>
    let ⟨_, _, made⟩ := exists_left_of_forall₂ all hc
    telltale_generate made
  rw [(Collection.keyed_addAll Collection.keyed_empty).mem_toList_iff] at hm
  obtain ⟨earlier, own, later, rfl, there, others⟩ := Collection.exists_last (fun c hc => (told c hc).1) hm
  have hown : own ∈ earlier ++ own :: later := List.mem_append_right _ List.mem_cons_self
  refine ⟨earlier, own, later, rfl, (told own hown).1.mem_toList_iff.2 there, fun c hc => ?_, fun target _ form => ?_⟩
  · unfold Collection.contains Entries.hasName
    rw [show c.classes.at? m.fqcn = none from others c hc]
    rfl
  · have told : ∀ c ∈ own :: later, c.Keyed ∧ ∀ fqcn m, c.get? fqcn = some m → Telltale m := fun c hc =>
      told c (List.mem_append_right _ hc)
    rw [List.flatMap_append, Collection.addAll_append] at reported ⊢
    rcases Collection.arrayForm_or_replaced told
      (fun c hc => agree own hown c (List.mem_append_right _ (List.mem_cons_of_mem _ hc))) form with kept | lost
    · exact .inl kept
    · exact .inr ⟨reported _ (List.mem_append_right _ lost.1), lost.2⟩

/-! ## A list, and then its items alone -/

section RowAlone

open Build

/-- A document of the items of `rows`. -/
def row : Json := .object [("properties", .object [("p", .object [("type", .string "string")])])]

def rowRoot : TypeDef := .object { name := "r_item", required := true } [("p", ⟨.string { name := "p" } none none, []⟩)]

def rowClasses : Collection := (finish {} rowsBuilt.collection).1

/-- Both documents, the list first. -/
def rowsThenRow : List (Json × String) := [(rows, "r"), (row, "r_item")]

theorem parse_row : Schema.parse row "r_item" = (.ok ⟨rowRoot, []⟩, []) := by
  unfold rowRoot
  cbv

theorem build_row : build {} ⟨rowRoot, []⟩ "r_item" = (.ok (), rowsBuilt) := by
  have built := buildItems_rows
  show Runs (buildSet _ _ (.entity _ _) _ ⟨.object _ _, []⟩) _ _ _
  unfold rowsItem at built
  rw [runs_buildSet_single rfl, buildDefinition] at built ⊢
  exact built

theorem generate_row : (generate {} row "r_item").1 = .ok rowClasses :=
  congrArg Prod.fst (generate_of_build parse_row build_row)

def rowsThenRowClasses : Collection :=
  (({} : Collection).addAll ([rowsClasses, rowClasses].flatMap Collection.toList)).1

theorem generateAll_rowsThenRow : (generateAll {} rowsThenRow).1 = .ok rowsThenRowClasses := by
  have first := generate_of_build parse_rows build_rows
  have second := generate_of_build parse_row build_row
  unfold generateAll rowsThenRow generateInto
  rw [first]
  simp only
  unfold generateInto
  rw [second]
  rfl

theorem agree_rows : Agree [rowsClasses, rowClasses] := by
  unfold Agree AgreesWith
  decide +kernel

theorem list_rowsThenRow : (rowsThenRowClasses.get? "App\\R").map (fun m => (m.kind, m.fqcn, importedOrLocal m "RItem")) =
    some (.valueObject .array, "App\\R", "App\\RItem") := by decide +kernel

theorem lines_rowsThenRow : (rowsThenRowClasses.get? "App\\R").map (fun m =>
    ((m.methods.at? "current").map (·.returnType), (m.methods.at? "fromArray").map (·.body),
      (m.methods.at? "toArray").map (·.body))) = some (some (some "RItem"),
    some ["return new self(...array_map(static function (array $item) \x7b",
      "    return RItem::fromArray($item);", "\x7d, $items));"],
    some ["return array_map(static function (RItem $rItem) \x7b", "    return $rItem->toArray();",
      "\x7d, $this->r);"]) := by decide +kernel

theorem row_rowsThenRow : (rowsThenRowClasses.get? "App\\RItem").map (fun m => (m.kind, m.methods.at? "fromArray")) =
    some (.entity, none) := by decide +kernel

theorem arrayForm_rows : ArrayForm rowsClasses "App\\RItem" := by
  have row : (rowsClasses.get? "App\\RItem").map (fun m => (m.kind,
    (m.methods.at? "fromArray").map (·.isStatic), m.hasMethod "toArray")) = some (.entity, some true, true) := by
    decide +kernel
  obtain ⟨m, hm, he⟩ := Option.map_eq_some_iff.1 row
  simp only [Prod.mk.injEq] at he
  obtain ⟨kind, wraps, unwraps⟩ := he
  exact ⟨m, hm, by rw [kind]; rfl, Option.map_eq_some_iff.1 wraps, unwraps⟩

/-- The list still calls the pair of its items, which is gone. -/
theorem generateAll_conversions_rows : (generateAll {} rowsThenRow).1 = .ok rowsThenRowClasses ∧
    (∃ m ∈ rowsThenRowClasses.toList, m.fqcn = "App\\R" ∧ CallsArray m "App\\RItem") ∧
    ¬ ArrayForm rowsThenRowClasses "App\\RItem" ∧ .classReplaced "App\\RItem" ∈ (generateAll {} rowsThenRow).2 := by
  obtain ⟨made, all, -, conversions⟩ := generateAll_conversions generateAll_rowsThenRow
  obtain ⟨c, c', first, second, rfl⟩ : ∃ c c', (generate {} rows "r").1 = .ok c ∧ (generate {} row "r_item").1 = .ok c' ∧
      made = [c, c'] := by
    cases all with
    | cons first all => cases all with
      | cons second none => cases none; exact ⟨_, _, first, second, rfl⟩
  obtain rfl := Except.ok.inj (generate_rows.symm.trans first)
  obtain rfl := Except.ok.inj (generate_row.symm.trans second)
  obtain ⟨m, hm, he⟩ := Option.map_eq_some_iff.1 list_rowsThenRow
  simp only [Prod.mk.injEq] at he
  obtain ⟨kind, name, target⟩ := he
  have lines := lines_rowsThenRow
  rw [hm, Option.map_some, Option.some.injEq] at lines
  simp only [Prod.mk.injEq] at lines
  have calls : CallsArray m "App\\RItem" := target ▸ .item kind ⟨lines.1, lines.2.1, "rItem", "r", lines.2.2⟩
  have hm : m ∈ rowsThenRowClasses.toList := Collection.mem_toList_of_get? hm
  have gone : ¬ ArrayForm rowsThenRowClasses "App\\RItem" := by
    rintro ⟨e, he, -, ⟨method, there, -⟩, -⟩
    have row := row_rowsThenRow
    rw [he, Option.map_some, Option.some.injEq, Prod.mk.injEq, there] at row
    cases row.2
  obtain ⟨earlier, own, later, split, there, -, kept⟩ := conversions agree_rows m hm
  have listed : own ∈ [rowsClasses, rowClasses] := split ▸ List.mem_append_right _ List.mem_cons_self
  obtain rfl : own = rowsClasses := by
    rcases List.mem_cons.1 listed with same | alone
    · exact same
    · rw [List.mem_singleton.1 alone] at there
      have absent : "App\\R" ∉ rowClasses.toList.map (·.fqcn) := by decide +kernel
      exact absurd (List.mem_map.2 ⟨m, there, name⟩) absent
  rcases kept _ calls arrayForm_rows with form | ⟨replaced, -⟩
  · exact absurd form gone
  · exact ⟨generateAll_rowsThenRow, ⟨m, hm, name, calls⟩, gone, replaced⟩

end RowAlone

end Generator

end SchemaClasses
