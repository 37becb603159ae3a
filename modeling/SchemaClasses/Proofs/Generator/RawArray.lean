/-
The raw array form of a generated collection: every entity with the pair and every list finds what it
converts with, as long as no class was replaced by one of another shape.
-/
import SchemaClasses.Proofs.Class.Closure
import SchemaClasses.Proofs.Generator.Basic

namespace SchemaClasses

/-- A class with a conversion, and with both methods of it. -/
def Convertible (c : Collection) (fqcn : String) : Prop :=
  ∃ m conversion, c.get? fqcn = some m ∧ m.kind.conversion? = some conversion ∧ m.Converts conversion

variable {c c' : Collection} {fqcn : String} {m : ClassModel}

theorem Convertible.keeps (h : Convertible c fqcn) (keeps : KeepsConversions c c') : Convertible c' fqcn := by
  obtain ⟨m, conversion, hm, hk, hw, hu⟩ := h
  obtain ⟨m', hm', kind, methods⟩ := keeps fqcn m conversion hm hk
  exact ⟨m', conversion, hm', kind ▸ hk, methods _ hw, methods _ hu⟩

theorem convertible_of_converting (h : Converting [] c fqcn) : Convertible c fqcn := by
  obtain ⟨m, conversion, hm, hk, hc | ⟨-, hp⟩⟩ := h
  · exact ⟨m, conversion, hm, hk, hc⟩
  · cases hp

/-- The properties of entities with a static `fromArray` convert, the imports being in the order that
they had when the pair was made, and so do the items of lists. -/
structure Settled (c : Collection) : Prop where
  entity : ∀ fqcn m method, c.get? fqcn = some m → m.kind = .entity → m.methods.at? "fromArray" = some method →
    method.isStatic = true → ∃ imports, imports.Perm m.imports ∧ ∀ p ∈ m.properties.values,
    Convertible c (importedOrLocal { m with imports := imports } (plainHint p.typeHint))
  list : ∀ fqcn m, c.get? fqcn = some m → m.kind = .valueObject .array → ListClosed c m

theorem Closed.settled (h : Closed [] c) : Settled c where
  entity := fun fqcn m _ hm hk hf _ =>
    let ⟨_, imports, perm, all⟩ := (h fqcn m hm).entity hk (Entries.hasName_of_at? hf)
    ⟨imports, perm, fun p hp => convertible_of_converting (all p hp)⟩
  list := fun fqcn m hm hk => (h fqcn m hm).list hk

/-! ## Additions -/

section Additions

variable {f : ClassModel → ClassModel}

theorem Addition.keepsConversions (h : Addition f) (c : Collection) : KeepsConversions c (c.mapClasses f) := by
  intro fqcn m conversion hm hk
  refine ⟨f m, ?_, h.kind m, fun name hn => ?_⟩
  · rw [Collection.get?_mapClasses, hm]
    rfl
  · obtain ⟨method, hm⟩ := Option.isSome_iff_exists.1 hn
    exact Entries.hasName_of_at? (h.keeps hm)

theorem Addition.candidates_eq (h : Addition f) (m : ClassModel) (short : String) :
    candidates (f m) short = candidates m short := by
  apply candidates_congr <;> rw [h.same]

theorem ItemLines.addition {itemClass : String} {conversion : Conversion} (h : ItemLines m itemClass conversion)
    (addition : Addition f) : ItemLines (f m) itemClass conversion :=
  let ⟨current, wraps, arg, items, unwraps⟩ := h
  ⟨addition.map_at? current, addition.map_at? wraps, arg, items, addition.map_at? unwraps⟩

theorem ListClosed.addition (h : ListClosed c m) (addition : Addition f) : ListClosed c (f m) := by
  obtain ⟨itemClass, conversion, target, lines, only, there⟩ := h
  refine ⟨itemClass, conversion, target, lines.addition addition, ?_, there⟩
  rw [addition.candidates_eq]
  exact only

theorem Settled.addition (h : Settled c) (addition : Addition f) : Settled (c.mapClasses f) := by
  have keeps := addition.keepsConversions c
  constructor
  · intro fqcn found method hf hk hm static
    obtain ⟨m, before, rfl⟩ := Collection.of_get?_mapClasses hf
    rw [addition.kind] at hk
    obtain ⟨imports, perm, all⟩ := h.entity fqcn m method before hk (addition.fresh hm static) static
    refine ⟨imports, by rwa [addition.same], fun p hp => ?_⟩
    rw [show (f m).properties = m.properties by rw [addition.same]] at hp
    have space : (f m).space = m.space := by rw [addition.same]
    rw [@importedOrLocal_congr { m with imports := imports } { f m with imports := imports } space rfl]
    exact (all p hp).keeps keeps
  · intro fqcn found hf hk
    obtain ⟨m, before, rfl⟩ := Collection.of_get?_mapClasses hf
    rw [addition.kind] at hk
    exact ((h.list fqcn m before hk).addition addition).keeps keeps

/-- An exception takes the place of exceptions only, and these convert nothing. -/
theorem Settled.exception (h : Settled c) (hk : m.kind = .exception) (silent : c.addEvents m = []) :
    Settled (c.add m) := by
  have keeps : KeepsConversions c (c.add m) := by
    intro fqcn found conversion hf hc
    rw [Collection.get?_add]
    split
    · rename_i he
      -- a class that the exception replaces is an exception itself
      rw [he] at hf
      rw [Collection.kind_of_silent silent hf, hk] at hc
      cases hc
    · exact ⟨found, hf, rfl, fun _ hn => hn⟩
  constructor
  · intro fqcn found method hf entity
    rcases Collection.of_get?_add hf with ⟨-, rfl⟩ | ⟨-, hf⟩
    · rw [hk] at entity
      cases entity
    · intro hm static
      obtain ⟨imports, perm, all⟩ := h.entity fqcn found method hf entity hm static
      exact ⟨imports, perm, fun p hp => (all p hp).keeps keeps⟩
  · intro fqcn found hf list
    rcases Collection.of_get?_add hf with ⟨-, rfl⟩ | ⟨-, hf⟩
    · rw [hk] at list
      cases list
    · exact (h.list fqcn found hf list).keeps keeps

end Additions

/-! ## Results -/

namespace Generator

variable {g : Generator}

theorem settled_finish (h : Settled c) (silent : Collection.Silent (g.finish c).2) : Settled (g.finish c).1 :=
  finish_induction h (fun _ _ addition hs => hs.addition addition)
    fun _ _ hk quiet hs => hs.exception hk (quiet silent)

/-- In a result without replaced classes, every property of an entity with the pair converts, if its hint
is looked up in the imports in the order that they had when the pair was made. In the order of the result
the hint stands for the same class, unless there are two imports of its short name. The items of a list
are made and turned back by methods that their class has. -/
theorem generate_rawArrays (plain : PlainNames g.filters) {schema : Json} {rootName : String}
    (h : (g.generate schema rootName).1 = .ok c) (silent : Collection.Silent (g.generate schema rootName).2) :
    (∀ m ∈ c.toList, m.kind = .entity → ∀ method, m.methods.at? "fromArray" = some method →
      method.isStatic = true → ∃ imports, imports.Perm m.imports ∧ ∀ p ∈ m.properties.values, ∃ target,
        target = importedOrLocal { m with imports := imports } (plainHint p.typeHint) ∧ Convertible c target ∧
        (hinted m p ≠ target → hinted m p ∈ m.imports ∧ target ∈ m.imports ∧
          shortName (hinted m p) = shortName target)) ∧
    ∀ m ∈ c.toList, m.kind = .valueObject .array → ∃ itemClass conversion t, ItemLines m itemClass conversion ∧
      c.get? (importedOrLocal m (plainHint itemClass)) = some t ∧ t.kind.conversion? = some conversion ∧
      t.Converts conversion := by
  obtain ⟨set, state, hp, hb, rfl, events, he⟩ := generate_ok h
  rw [he] at silent
  have steps := build_steps hb
  have keyed := @keyed_finish g _ (steps.keyed Collection.keyed_empty)
  have built := silent.of_append_left.of_append_left.of_append_right
  have plain : PlainNames g.valueObjects.filters := plain
  have settled := settled_finish (steps.closed plain built closed_empty).settled
    silent.of_append_left.of_append_right
  constructor
  · intro m hm hk method hf static
    obtain ⟨imports, perm, all⟩ := settled.entity _ m method (keyed.mem_toList_iff.1 hm) hk hf static
    exact ⟨imports, perm, fun p hp => ⟨_, rfl, all p hp, imports_of_reordered perm⟩⟩
  · intro m hm hk
    obtain ⟨itemClass, conversion, target, lines, only, t, ht, hk, converts⟩ :=
      settled.list _ m (keyed.mem_toList_iff.1 hm) hk
    rw [← only _ (importedOrLocal_mem m _)] at ht
    exact ⟨itemClass, conversion, t, lines, ht, hk, converts⟩

/-! ## A list of objects -/

section Rows

open Build

/-- A document of a list whose items have one property. -/
def rows : Json := .object [
  ("items", .object [("properties", .object [("p", .object [("type", .string "string")])])])]

def rowsItem : TypeDef := .object { name := "r_item" } [("p", ⟨.string { name := "p" } none none, []⟩)]

def rowsRoot : TypeDef := .array { name := "r", required := true } [⟨rowsItem, []⟩]

def rowsText : ClassModel :=
  named (Template.Scalar.text.build conventionalNames true "p") (conventionalNames.className "p")
    (extractNamespace (ambient {}) (.string { name := "p" } none none))

def rowsEntity : ClassModel :=
  entityOf (valueObjects {}) (ambient {}) (conventionalNames.className "r_item")
    (extractNamespace (ambient {}) rowsItem) [("p", ⟨.string { name := "p" } none none, []⟩)]

/-- What the build of the items leaves. -/
def rowsBuilt : BuildState where
  collection := (({} : Collection).add rowsText).add rowsEntity
  events := [.valueObjectBuilt rowsText.fqcn "string", .entityBuilt rowsEntity.fqcn 1]

def rowsLines : List PropertyLines := [{
  fromArray := "$instance->p = isset($data['p']) ? P::fromString($data['p']) : null;"
  toArray := "    'p' => $this->p?->toString(),"
  fqcn := "App\\P"
  isEntity := false }]

def rowsName : String := qualify (extractNamespace (ambient {}) rowsItem) (conventionalNames.className "r_item")

def rowsPaired : Collection := rowsBuilt.collection.adjust rowsName (·.withRawArray rowsLines)

def rowsList : ClassModel :=
  (named (Template.ListOf.build conventionalNames true "r" ⟨"r_item", .array⟩)
    (conventionalNames.className (conventionalNames.className "r"))
    (extractNamespace (ambient {}) rowsRoot)).addImport rowsName

theorem buildItems_rows : Runs (buildSet (valueObjects {}) (ambient {}) (.entity (conventionalNames.className "r_item")
    (extractNamespace (ambient {}) rowsItem)) "r_item" ⟨rowsItem, []⟩) {} (.ok ()) rowsBuilt := by
  have property : Runs (propertyClass (valueObjects {}) (ambient {}) "p" (.string { name := "p" } none none)) {}
      (.ok (promisedName (valueObjects {}) (ambient {}) "p" (.string { name := "p" } none none)))
      ⟨({} : Collection).add rowsText, [.valueObjectBuilt rowsText.fqcn "string"]⟩ := by
    rw [propertyClass]
    exact runs_bind_ok.2 ⟨_, _, runs_valueObject.2 ⟨_, rfl, rfl⟩, runs_bind_ok.2
      ⟨_, _, runs_add.2 ⟨rfl, rfl⟩, runs_pure.2 ⟨rfl, rfl⟩⟩⟩
  have none : (({} : Collection).add rowsText).get? rowsEntity.fqcn = none :=
    Option.isNone_iff_eq_none.1 (by decide +kernel)
  have left : BuildState.addEntity ⟨({} : Collection).add rowsText, [.valueObjectBuilt rowsText.fqcn "string"]⟩
      rowsEntity = rowsBuilt := by
    simp only [BuildState.addEntity, BuildState.add, BuildState.report, Collection.addEvents, Collection.conflicts,
      keepRawArray, none]
    rfl
  rw [← left]
  exact buildSet_single property

theorem addRawArrays_rows : addRawArrays rowsBuilt.collection [rowsName] = (.ok (), rowsPaired) := by
  have fqcn : rowsEntity.fqcn = rowsName := fqcn_entityOf _ _ _
  have found : rowsBuilt.collection.get? rowsName = some rowsEntity := fqcn ▸ Collection.get?_add_self
  have lacks : lacksRawArray rowsEntity = true := by decide +kernel
  have lines : (allPropertyLines rowsBuilt.collection rowsEntity rowsEntity.properties.values).toOption =
      some rowsLines := by decide +kernel
  rw [addRawArrays_add found lacks (eq_ok_of_toOption lines)]
  exact addRawArrays_nil

theorem build_rows : build {} ⟨rowsRoot, []⟩ "r" = (.ok (), ⟨rowsPaired.add rowsList,
    rowsBuilt.events ++ [.valueObjectBuilt rowsList.fqcn "array"]⟩) := by
  have none : rowsPaired.get? rowsList.fqcn = none := Option.isNone_iff_eq_none.1 (by decide +kernel)
  show Runs (buildSet _ _ _ _ _) _ _ _
  rw [buildSet]
  refine runs_bind_ok.2 ⟨_, _, rfl, ?_⟩
  show Runs (buildDefinition _ _ _ _ (.array _ _)) _ _ _
  rw [buildDefinition]
  refine runs_bind_ok.2 ⟨⟨"r_item", .array⟩, _, rfl, ?_⟩
  refine runs_bind_ok.2 ⟨_, _, rfl, runs_bind_ok.2 ⟨_, _, buildItems_rows, ?_⟩⟩
  have paired : Runs (rawArrays rowsName) rowsBuilt (.ok ()) { rowsBuilt with collection := rowsPaired } := by
    unfold rawArrays
    refine runs_bind_ok.2 ⟨_, _, runs_get.2 ⟨rfl, rfl⟩, ?_⟩
    rw [addRawArrays_rows]
    exact runs_bind_ok.2 ⟨_, _, runs_modify.2 ⟨rfl, rfl⟩, runs_fromExcept.2 ⟨rfl, rfl⟩⟩
  refine runs_bind_ok.2 ⟨_, _, paired, runs_bind_ok.2 ⟨_, _, runs_valueObject.2 ⟨_, rfl, rfl⟩, ?_⟩⟩
  refine runs_add.2 ⟨rfl, ?_⟩
  show _ = BuildState.add _ rowsList
  simp only [BuildState.add, BuildState.report, Collection.addEvents, Collection.conflicts, none]
  rfl

theorem parse_rows : Schema.parse rows "r" = (.ok ⟨rowsRoot, []⟩, []) := by
  unfold rowsRoot rowsItem
  cbv

def rowsClasses : Collection := (finish {} (rowsPaired.add rowsList)).1

theorem generate_rows : (generate {} rows "r").1 = .ok rowsClasses :=
  congrArg Prod.fst (generate_of_build parse_rows build_rows)

theorem silent_rows : Collection.Silent (generate {} rows "r").2 := by
  rw [congrArg Prod.snd (generate_of_build parse_rows build_rows)]
  exact Collection.silent_of_all (by decide +kernel)

theorem entity_rows : (rowsClasses.get? "App\\RItem").map (fun m => (m.kind, m.fqcn,
    (m.methods.at? "fromArray").map (·.isStatic), m.imports, m.properties.values.map (hinted m))) =
    some (.entity, "App\\RItem", some true, [], ["App\\P"]) := by decide +kernel

theorem list_rows : (rowsClasses.get? "App\\R").map (fun m => (m.kind, m.fqcn)) =
    some (.valueObject .array, "App\\R") := by decide +kernel

theorem generate_rawArrays_rows : ∃ c, (generate {} rows "r").1 = .ok c ∧ Convertible c "App\\P" ∧
    ∃ m ∈ c.toList, m.fqcn = "App\\R" ∧ ∃ itemClass conversion t, ItemLines m itemClass conversion ∧
      c.get? (importedOrLocal m (plainHint itemClass)) = some t ∧ t.Converts conversion := by
  obtain ⟨entities, lists⟩ := @generate_rawArrays _ {} plainNames_conventional _ _ generate_rows silent_rows
  refine ⟨rowsClasses, generate_rows, ?_, ?_⟩
  · obtain ⟨m, hm, he⟩ := Option.map_eq_some_iff.1 entity_rows
    simp only [Prod.mk.injEq] at he
    obtain ⟨entity, -, static, imports, hints⟩ := he
    obtain ⟨method, hmethod, static⟩ := Option.map_eq_some_iff.1 static
    have listed : "App\\P" ∈ m.properties.values.map (hinted m) := by
      rw [hints]
      exact List.mem_singleton_self _
    obtain ⟨p, hp, hint⟩ := List.mem_map.1 listed
    have hm : m ∈ rowsClasses.toList := Collection.mem_toList_of_get? hm
    obtain ⟨_, -, all⟩ := entities m hm entity method hmethod static
    obtain ⟨target, -, converts, reordered⟩ := all p hp
    have same : hinted m p = target := by
      by_contra ne
      have imported := (reordered ne).1
      rw [imports] at imported
      cases imported
    rwa [← hint, same]
  · obtain ⟨m, hm, he⟩ := Option.map_eq_some_iff.1 list_rows
    simp only [Prod.mk.injEq] at he
    have hm : m ∈ rowsClasses.toList := Collection.mem_toList_of_get? hm
    obtain ⟨itemClass, conversion, t, lines, ht, -, converts⟩ := lists m hm he.1
    exact ⟨m, hm, he.2, itemClass, conversion, t, lines, ht, converts⟩

end Rows

end Generator

end SchemaClasses
