/-
Which documents can be lowered: those in which every node that is reached from the top level is well
formed. A node counts once it is reached, however often it is met and whether or not a reference to
it is cut short; what stands beside a reference, below a keyword of another kind or in an unused
definition does not count.
-/
import SchemaClasses.Proofs.Schema.Table

namespace SchemaClasses.Schema

open Lowering

/-! ## Well-formed nodes -/

/-- The kinds that a node names: those of `type`, and without that keyword the one that the other
keywords suggest. -/
inductive NamesKinds (node : Node) : List String → Prop
  | one {kind : String} : node.lookup "type" = some (.string kind) → NamesKinds node [kind]
  | several {kinds : List String} : node.lookup "type" = some (.array (kinds.map .string)) → NamesKinds node kinds
  | object : node.lookup "type" = none → node.lookup "properties" ≠ none → NamesKinds node ["object"]
  | array : node.lookup "type" = none → node.lookup "properties" = none → node.lookup "items" ≠ none →
      NamesKinds node ["array"]
  | string : node.lookup "type" = none → node.lookup "properties" = none → node.lookup "items" = none →
      node.lookup "enum" ≠ none → NamesKinds node ["string"]

/-- The keywords of a kind hold what they should; no other kinds are known. -/
inductive WellFormedAs (node : Node) : String → Prop
  | object : (node.lookup "required" = none ∨ ∃ keys, node.lookup "required" = some (.array keys)) →
      (node.lookup "properties" = none ∨ ∃ properties, node.lookup "properties" = some (.object properties)) →
      WellFormedAs node "object"
  | array : ((∃ item, node.lookup "items" = some (.object item)) ∨
      ∃ items, items ≠ [] ∧ node.lookup "items" = some (.array items)) → WellFormedAs node "array"
  | string : (node.lookup "enum" = none ∨ ∃ values, node.lookup "enum" = some (.array values) ∧
      ∀ value ∈ values, value = .null ∨ ∃ text, value = .string text) → WellFormedAs node "string"
  | integer : WellFormedAs node "integer"
  | number : WellFormedAs node "number"
  | boolean : WellFormedAs node "boolean"

/-- A schema node is a reference, or it has kinds besides null and is well formed as each of them. -/
inductive WellFormed : Json → Prop
  | reference {node : Node} {target : String} :
      node.lookup "$ref" = some (.string target) → WellFormed (.object node)
  | kinds {node : Node} {kinds : List String} : node.lookup "$ref" = none → NamesKinds node kinds →
      (∃ kind ∈ kinds, kind ≠ "null") → (∀ kind ∈ kinds, kind ≠ "null" → WellFormedAs node kind) →
      WellFormed (.object node)

/-- A node without reference has a kind among those that it names. -/
def HasKind (node : Node) (kind : String) : Prop :=
  node.lookup "$ref" = none ∧ ∃ kinds, NamesKinds node kinds ∧ kind ∈ kinds

/-- The schema nodes that are reached from the top level of a document. -/
inductive Reachable (document : Json) : Json → Prop
  | top : Reachable document document
  | property {node properties : Node} {entry : String × Json} : Reachable document (.object node) →
      HasKind node "object" → node.lookup "properties" = some (.object properties) → entry ∈ properties →
      Reachable document entry.2
  | item {node item : Node} : Reachable document (.object node) → HasKind node "array" →
      node.lookup "items" = some (.object item) → Reachable document (.object item)
  | element {node : Node} {items : List Json} {item : Json} : Reachable document (.object node) →
      HasKind node "array" → node.lookup "items" = some (.array items) → item ∈ items → Reachable document item
  | target {node : Node} {pointer : String} {part : Json} : Reachable document (.object node) →
      node.lookup "$ref" = some (.string ("#" ++ pointer)) → document.select? pointer = some part →
      Reachable document part

/-! ## Keywords -/

variable {node : Node}

theorem localPointer?_eq_some {target pointer : String} :
    localPointer? target = some pointer ↔ target = "#" ++ pointer := by
  unfold localPointer?
  constructor
  · intro h
    split at h
    · rename_i rest hl
      cases h
      rw [← String.toList_inj, hl, String.toList_append]
      show '#' :: rest = '#' :: (String.ofList rest).toList
      rw [String.toList_ofList]
    · cases h
  · rintro rfl
    rw [String.toList_append]
    show some (String.ofList pointer.toList) = some pointer
    rw [String.ofList_toList]

theorem kindTexts_ok : ∀ {items : List Json} {kinds : List String},
    kindTexts items = .ok kinds ↔ items = kinds.map .string
  | [], kinds => by
    rw [kindTexts, Except.ok.injEq, eq_comm, eq_comm (a := []), List.map_eq_nil_iff]
  | .string kind :: rest, kinds => by
    rw [kindTexts, except_map_eq_ok]
    simp only [kindTexts_ok]
    cases kinds with
    | nil => simp
    | cons first others =>
      simp only [List.cons.injEq, List.map_cons, Json.string.injEq]
      constructor
      · rintro ⟨texts, rfl, rfl, rfl⟩
        exact ⟨rfl, rfl⟩
      · rintro ⟨rfl, rfl⟩
        exact ⟨others, rfl, rfl, rfl⟩
  | .null :: _, kinds | .bool _ :: _, kinds | .number _ :: _, kinds | .array _ :: _, kinds
  | .object _ :: _, kinds => by
    cases kinds <;> simp [kindTexts]

theorem isOk_choiceTexts : ∀ {values : List Json}, (∃ texts, choiceTexts values = .ok texts) ↔
    ∀ value ∈ values, value = .null ∨ ∃ text, value = .string text
  | [] => by simp [choiceTexts]
  | .string text :: rest => by
    simp only [choiceTexts, except_map_eq_ok, List.forall_mem_cons, ← isOk_choiceTexts]
    simp
  | .null :: rest => by simp [choiceTexts, ← isOk_choiceTexts]
  | .bool _ :: _ | .number _ :: _ | .array _ :: _ | .object _ :: _ => by simp [choiceTexts]

theorem namedKinds_ok {kinds : List String} : namedKinds node = .ok kinds ↔ NamesKinds node kinds := by
  constructor
  · intro h
    unfold namedKinds at h
    split at h
    · rename_i kind hl
      cases h
      exact .one hl
    · rename_i items hl
      rw [kindTexts_ok] at h
      exact .several (h ▸ hl)
    · cases h
    · rename_i hl
      split at h
      · rename_i properties
        cases h
        exact .object hl (Option.isSome_iff_ne_none.1 properties)
      · rename_i noProperties
        have noProperties := Option.not_isSome_iff_eq_none.1 noProperties
        split at h
        · rename_i items
          cases h
          exact .array hl noProperties (Option.isSome_iff_ne_none.1 items)
        · rename_i noItems
          split at h
          · rename_i enum
            cases h
            exact .string hl noProperties (Option.not_isSome_iff_eq_none.1 noItems)
              (Option.isSome_iff_ne_none.1 enum)
          · cases h
  · intro h
    unfold namedKinds
    cases h with
    | one hl => rw [hl]
    | several hl =>
      rw [hl]
      exact kindTexts_ok.2 rfl
    | object hl hp => rw [hl, if_pos (Option.isSome_iff_ne_none.2 hp)]
    | array hl hp hi => rw [hl, hp, if_neg (by simp), if_pos (Option.isSome_iff_ne_none.2 hi)]
    | string hl hp hi he =>
      rw [hl, hp, hi, if_neg (by simp), if_neg (by simp), if_pos (Option.isSome_iff_ne_none.2 he)]

theorem declaredKinds_ok {kinds : Alternatives String} {nullable : Bool}
    (h : declaredKinds node = .ok (kinds, nullable)) :
    ∃ named, NamesKinds node named ∧ kinds.toList = named.filter (· != "null") ∧ nullable = named.contains "null" := by
  unfold declaredKinds at h
  split at h
  · cases h
  · rename_i named hn
    split at h
    · cases h
    · rename_i first others hf
      cases h
      exact ⟨named, namedKinds_ok.1 hn, hf.symm, rfl⟩

/-- A node that names kinds besides null has no fault in its kinds. -/
theorem declaredKinds_ne_error {named : List String} (hn : NamesKinds node named)
    (other : ∃ kind ∈ named, kind ≠ "null") (reason : SchemaFault) : declaredKinds node ≠ .error reason := by
  intro h
  unfold declaredKinds at h
  rw [namedKinds_ok.2 hn] at h
  simp only at h
  split at h
  · rename_i none
    obtain ⟨kind, hk, hne⟩ := other
    exact hne (by simpa using List.filter_eq_nil_iff.1 none kind hk)
  · cases h

theorem isOk_requiredKeys : (∃ required, requiredKeys node = .ok required) ↔
    node.lookup "required" = none ∨ ∃ keys, node.lookup "required" = some (.array keys) := by
  unfold requiredKeys
  generalize node.lookup "required" = value
  rcases value with _ | (_ | _ | _ | _ | _ | _) <;> simp

theorem exists_propertySchemas : (∃ properties, propertySchemas? node = some properties) ↔
    node.lookup "properties" = none ∨ ∃ properties, node.lookup "properties" = some (.object properties) := by
  unfold propertySchemas?
  generalize node.lookup "properties" = value
  rcases value with _ | (_ | _ | _ | _ | _ | _) <;> simp

theorem exists_itemSchemas : (∃ schemas, itemSchemas? node = some schemas) ↔
    (∃ item, node.lookup "items" = some (.object item)) ∨
      ∃ items, items ≠ [] ∧ node.lookup "items" = some (.array items) := by
  unfold itemSchemas?
  generalize node.lookup "items" = value
  rcases value with _ | (_ | _ | _ | _ | (_ | _) | _) <;> simp

theorem isOk_choices : (∃ texts, choices node = .ok texts) ↔
    node.lookup "enum" = none ∨ ∃ values, node.lookup "enum" = some (.array values) ∧
      ∀ value ∈ values, value = .null ∨ ∃ text, value = .string text := by
  unfold choices
  generalize node.lookup "enum" = value
  rcases value with _ | (_ | _ | _ | _ | values | _) <;> simp [except_map_eq_ok, ← isOk_choiceTexts]

theorem kindFault?_of_wellFormedAs {kind : String} (h : WellFormedAs node kind) : kindFault? node kind = none := by
  cases h with
  | object hr hp =>
    obtain ⟨required, hr⟩ := isOk_requiredKeys.2 hr
    obtain ⟨properties, hp⟩ := exists_propertySchemas.2 hp
    simp [kindFault?, hr, hp]
  | array hi =>
    obtain ⟨schemas, hi⟩ := exists_itemSchemas.2 hi
    simp [kindFault?, hi]
  | string he =>
    obtain ⟨values, hc⟩ := isOk_choices.2 he
    simp [kindFault?, hc]
  | _ => rfl

/-! ## What was lowered is well formed -/

section Yields

variable {Q : String → Option TypeSet → Prop}

theorem wellFormedAs_of_yields {traits : Traits} {kind : String} {d : TypeDef}
    (h : YieldsKind Q node traits kind d) : WellFormedAs node kind := by
  cases h with
  | object hr hp _ => exact .object (isOk_requiredKeys.1 ⟨_, hr⟩) (exists_propertySchemas.1 ⟨_, hp⟩)
  | array hi _ => exact .array (exists_itemSchemas.1 ⟨_, hi⟩)
  | string hc => exact .string (isOk_choices.1 ⟨_, hc⟩)
  | integer => exact .integer
  | number => exact .number
  | boolean => exact .boolean

theorem wellFormed_of_yields {json : Json} {name : String} {set : TypeSet}
    (h : YieldsNode Q name json set) : WellFormed json := by
  cases h with
  | reference hl _ => exact .reference hl
  | @kinds node kinds nullable set hl hd hk =>
    obtain ⟨named, hn, kept, -⟩ := declaredKinds_ok hd
    have among : ∀ kind, kind ∈ kinds.toList ↔ kind ∈ named ∧ kind ≠ "null" := by simp [kept]
    refine .kinds hl hn ⟨kinds.first, (among _).1 List.mem_cons_self⟩ fun kind hm hne => ?_
    obtain ⟨d, -, hy⟩ := exists_right_of_forall₂ hk ((among kind).2 ⟨hm, hne⟩)
    exact wellFormedAs_of_yields hy

/-- A node that was lowered was lowered as each kind that it has. -/
theorem yieldsKind_of_hasKind {name kind : String} {set : TypeSet} (h : YieldsNode Q name (.object node) set)
    (hk : HasKind node kind) (hne : kind ≠ "null") : ∃ traits d, YieldsKind Q node traits kind d := by
  obtain ⟨none, named, hn, hm⟩ := hk
  cases h with
  | reference hl _ =>
    rw [none] at hl
    cases hl
  | kinds hl hd hs =>
    obtain ⟨named', hn', kept, -⟩ := declaredKinds_ok hd
    obtain rfl := Except.ok.inj ((namedKinds_ok.2 hn).symm.trans (namedKinds_ok.2 hn'))
    obtain ⟨d, -, hy⟩ := exists_right_of_forall₂ hs (by simp [kept, hm, hne] : kind ∈ _)
    exact ⟨_, d, hy⟩

end Yields

/-- A node that can be lowered when references are answered in `T`. -/
def Lowers (T : String → Prop) (json : Json) : Prop :=
  ∃ pointer name set, Yields (fun t _ => T t) (lowerNode json pointer name) set

theorem Lowers.property {T : String → Prop} {properties : Node} {entry : String × Json}
    (h : Lowers T (.object node)) (hk : HasKind node "object")
    (hp : node.lookup "properties" = some (.object properties)) (he : entry ∈ properties) :
    Lowers T entry.2 := by
  obtain ⟨pointer, name, set, hy⟩ := h
  obtain ⟨traits, d, hy⟩ := yieldsKind_of_hasKind (yields_lowerNode hy) hk (by decide)
  generalize ho : "object" = kind at hy
  cases hy with
  | object _ found each =>
    rw [propertySchemas?, hp] at found
    cases found
    obtain ⟨_, -, -, p, inner, hy, -⟩ := exists_right_of_forall₂ each he
    exact ⟨p, _, inner, hy⟩
  | _ => exact absurd ho (by decide)

theorem Lowers.item {T : String → Prop} {schemas : List Json} {schema : Json} (h : Lowers T (.object node))
    (hk : HasKind node "array") (hi : itemSchemas? node = some schemas) (hs : schema ∈ schemas) :
    Lowers T schema := by
  obtain ⟨pointer, name, set, hy⟩ := h
  obtain ⟨traits, d, hy⟩ := yieldsKind_of_hasKind (yields_lowerNode hy) hk (by decide)
  generalize ha : "array" = kind at hy
  cases hy with
  | array found each =>
    rw [hi] at found
    cases found
    obtain ⟨inner, -, p, hy⟩ := exists_right_of_forall₂ each hs
    exact ⟨p, _, inner, hy⟩
  | _ => exact absurd ha (by decide)

theorem Lowers.target {T : String → Prop} {target : String} (h : Lowers T (.object node))
    (hl : node.lookup "$ref" = some (.string target)) : T target := by
  obtain ⟨pointer, name, set, hy⟩ := h
  cases yields_lowerNode hy with
  | reference hl' hq =>
    rw [hl] at hl'
    cases hl'
    exact hq
  | kinds hl' _ _ =>
    rw [hl] at hl'
    cases hl'

/-- Every node that is reached in a document with a complete table can be lowered with it. -/
theorem Complete.lowers {document : Json} {table : Table} (complete : Complete document table)
    (top : Lowers (Known document table) document) {json : Json} (h : Reachable document json) :
    Lowers (Known document table) json := by
  induction h with
  | top => exact top
  | property _ hk hp he ih => exact ih.property hk hp he
  | item _ hk hi ih => exact ih.item hk (by rw [itemSchemas?, hi]) (List.mem_singleton_self _)
  | element _ hk hi hm ih => exact ih.item hk (itemSchemas?_of_element hi hm) hm
  | @target node pointer part _ hl hs ih =>
    -- the table knows the text, and from what it knows no fault is met
    have found := targetLowering?_eq_some.2 ⟨pointer, part, localPointer?_eq_some.2 rfl, hs, rfl⟩
    obtain ⟨set, hy⟩ := (complete.closed _ (ih.target hl) _ found).exists_yields
    exact ⟨_, _, set, hy⟩

/-! ## What is well formed can be lowered -/

/-- Where the text leads, if anywhere, is reached. -/
def LeadsToReached (document : Json) (target : String) : Prop :=
  ∀ pointer part, target = "#" ++ pointer → document.select? pointer = some part → Reachable document part

theorem Reachable.part {document : Json} {kind suffix : String} {part : Json}
    (h : Reachable document (.object node)) (hk : HasKind node kind) (hp : PartAs node kind suffix part) :
    Reachable document part := by
  cases hp with
  | property hl hm => exact h.property hk hl hm
  | item hl => exact h.item hk hl
  | element hl hi => exact h.element hk hl (List.mem_of_getElem? hi)

/-- If all that is reached is well formed, a node that is reached has no fault and asks only for what is
reached. -/
theorem steady_of_reachable {document : Json} (all : ∀ json, Reachable document json → WellFormed json)
    (json : Json) (h : Reachable document json) (pointer name : String) :
    Steady (LeadsToReached document) (fun _ => False) (lowerNode json pointer name) := by
  -- the parts of a node are reached with it, and smaller
  match json, all json h with
  | .object node, .reference hl =>
    refine steady_lowerNode (fun target ht p part hp hs => ?_) (fun value hv hn => ?_) (fun none => ?_) fun none => ?_
    · subst hp
      exact h.target ht hs
    · rw [hl] at hv
      cases hv
      cases hn
    · rw [hl] at none
      cases none
    · rw [hl] at none
      cases none
  | .object node, @WellFormed.kinds _ named hl hn other each =>
    refine steady_lowerNode (fun target ht => ?_) (fun value hv _ => ?_)
      (fun _ reason hr => declaredKinds_ne_error hn other reason hr) fun _ kinds nullable hd kind hm traits _ => ?_
    · rw [hl] at ht
      cases ht
    · rw [hl] at hv
      cases hv
    · obtain ⟨named', hn', kept, -⟩ := declaredKinds_ok hd
      obtain rfl := Except.ok.inj ((namedKinds_ok.2 hn).symm.trans (namedKinds_ok.2 hn'))
      have hm : kind ∈ named ∧ kind ≠ "null" := by simpa [kept] using hm
      refine steady_lowerKind (fun reason hf => ?_) fun suffix part hp name => ?_
      · rw [kindFault?_of_wellFormedAs (each kind hm.1 hm.2)] at hf
        cases hf
      · have := sizeOf_lt_of_part hp
        exact steady_of_reachable all part (h.part ⟨hl, named, hn, hm.1⟩ hp) (pointer ++ suffix) name
termination_by sizeOf json
decreasing_by all_goals simp only [Json.object.sizeOf_spec]; omega

/-! ## Whole documents -/

theorem wellFormed_of_parse {document json : Json} {name : String} {set : TypeSet}
    (h : (parse document name).1 = .ok set) (reached : Reachable document json) : WellFormed json := by
  obtain ⟨table, base, complete, yields, -⟩ := exists_table h
  have top : Lowers (Known document table) document := ⟨_, _, base, yields.mono fun _ _ ha => ha.2⟩
  obtain ⟨_, _, _, hy⟩ := complete.lowers top reached
  exact wellFormed_of_yields (yields_lowerNode hy)

/-- A document can be lowered if and only if every node that is reached in it is well formed. -/
theorem parse_ok_iff (document : Json) (name : String) :
    (∃ set, (parse document name).1 = .ok set) ↔ ∀ node, Reachable document node → WellFormed node := by
  constructor
  · rintro ⟨set, h⟩ node reached
    exact wellFormed_of_parse h reached
  · intro all
    obtain ⟨st, outcome, run, hp⟩ := carries_of_parse document name
    rw [hp]
    cases outcome with
    | ok base => exact ⟨_, rfl⟩
    | error e =>
      -- a fault would be one of a node that is reached
      have closed : ∀ t, LeadsToReached document t → ∀ s, targetLowering? document t = some s →
          Keeps (LeadsToReached document) (fun _ => False) s := by
        intro t ht s hs
        obtain ⟨pointer, part, hl, selected, rfl⟩ := targetLowering?_eq_some.1 hs
        exact (steady_of_reachable all part (ht pointer part (localPointer?_eq_some.1 hl) selected) _ _).keeps
      exact absurd (run.fault_mem closed (steady_of_reachable all document .top _ _).keeps rfl) id

end SchemaClasses.Schema
