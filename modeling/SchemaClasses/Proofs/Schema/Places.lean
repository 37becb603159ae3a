/-
Where the nodes of a document are lowered. Every lowering that a document begins is of the node that its
pointer selects: a lowering that is right at such places only, and does anything at others, gives the
same outcome. A fault therefore names the pointer of the node that it was found in.
-/
import SchemaClasses.Proofs.Json.Pointer
import SchemaClasses.Proofs.Schema.Malformed
import Mathlib

namespace SchemaClasses.Schema

open Lowering

/-! ## Pointers of parts -/

/-- The pointer of a part selects the part. -/
theorem select?_part {document : Json} (distinct : document.distinctKeys = true) {node : Node} {pointer : String}
    (h : document.select? pointer = some (.object node)) {kind suffix : String} {part : Json}
    (hp : PartAs node kind suffix part) : document.select? (pointer ++ suffix) = some part := by
  -- a keyword is a token that is written as it is
  have keyword : ∀ key, Json.escapeToken key = key → ∀ value, node.lookup key = some value →
      document.select? (pointer ++ "/" ++ key) = some value := by
    intro key plain value hl
    have := Json.select?_key h key
    rwa [plain, hl] at this
  cases hp with
  | @property properties key _ hl hm =>
    have under := keyword "properties" (by decide) _ hl
    have nodup := of_decide_eq_true (Bool.and_eq_true_iff.1 (Json.distinctKeys_of_select? distinct under)).1
    have found := Json.select?_key under key
    rw [lookup_of_mem nodup hm] at found
    rw [show "/properties/" = "/" ++ "properties" ++ "/" from rfl]
    simpa only [String.append_assoc] using found
  | item hl =>
    have under := keyword "items" (by decide) _ hl
    rwa [String.append_assoc] at under
  | @element items i _ hl hi =>
    have found := Json.select?_position (keyword "items" (by decide) _ hl) i
    rw [hi] at found
    rw [show "/items/" = "/" ++ "items" ++ "/" from rfl]
    simpa only [String.append_assoc] using found

/-- The schema nodes that are lowered in a document, each with the pointer it is lowered at: the pointer
grows on the way to a part, and a reference begins anew with the pointer that it holds. -/
inductive LoweredAt (document : Json) : Json → String → Prop
  | top : LoweredAt document document ""
  | part {node : Node} {pointer kind suffix : String} {part : Json} : LoweredAt document (.object node) pointer →
      HasKind node kind → PartAs node kind suffix part → LoweredAt document part (pointer ++ suffix)
  | target {node : Node} {place pointer : String} {part : Json} : LoweredAt document (.object node) place →
      node.lookup "$ref" = some (.string ("#" ++ pointer)) → document.select? pointer = some part →
      LoweredAt document part pointer

theorem LoweredAt.select?_eq {document : Json} (distinct : document.distinctKeys = true) {json : Json}
    {pointer : String} (h : LoweredAt document json pointer) : document.select? pointer = some json := by
  induction h with
  | top => rfl
  | part _ _ hp ih => exact select?_part distinct ih hp
  | target _ _ hs => exact hs

theorem LoweredAt.reachable {document json : Json} {pointer : String} (h : LoweredAt document json pointer) :
    Reachable document json := by
  induction h with
  | top => exact .top
  | part _ hk hp ih => exact ih.part hk hp
  | target _ hl hs ih => exact ih.target hl hs

/-! ## One level of a lowering -/

section Level

variable (lower : Json → String → String → Lowering TypeSet)

/-- Lowers the properties of an object, each by `lower`. -/
def lowerPropertiesBy (pointer : String) (required : List String) : Node → Lowering (List (String × TypeSet))
  | [] => pure []
  | (key, schema) :: rest => do
    let set ← lower schema (pointer ++ "/properties/" ++ Json.escapeToken key) key
    let others ← lowerPropertiesBy pointer required rest
    pure ((key, set.map (TypeDef.setRequired (required.contains key))) :: others)

/-- Lowers the items of an array, each by `lower`. -/
def lowerItemsBy (pointer arrayName : String) (index : Nat) : List Json → Lowering (List TypeSet)
  | [] => pure []
  | item :: rest => do
    let set ← lower item (pointer ++ "/items/" ++ toString index) (itemName item arrayName)
    let others ← lowerItemsBy pointer arrayName (index + 1) rest
    pure (set :: others)

/-- Lowers a node as one kind, its parts by `lower`. -/
def lowerKindBy (node : Node) (pointer : String) (traits : Traits) (kind : String) : Lowering TypeDef :=
  match kind with
  | "object" => do
    let required ← keyword pointer (requiredKeys node)
    match node.lookup "properties" with
    | none => pure (.object traits [])
    | some (.object properties) =>
      let properties ← lowerPropertiesBy lower pointer required properties
      pure (.object traits properties)
    | some _ => fault (.invalidSchema pointer .propertiesNotObject)
  | "array" =>
    match node.lookup "items" with
    | some (.object item) => do
      let set ← lower (.object item) (pointer ++ "/items") (itemName (.object item) traits.name)
      pure (.array traits [set])
    | some (.array (first :: others)) => do
      let items ← lowerItemsBy lower pointer traits.name 0 (first :: others)
      pure (.array traits items)
    | _ => fault (.invalidSchema pointer .itemsMissing)
  | "string" => do
    let choices ← keyword pointer (choices node)
    pure (.string traits (format? node) choices)
  | "integer" => pure (.integer traits)
  | "number" => pure (.number traits)
  | "boolean" => pure (.boolean traits)
  | other => fault (.invalidSchema pointer (.unknownType other))

/-- Lowers a node as each of several kinds, its parts by `lower`. -/
def lowerKindsBy (node : Node) (pointer : String) (traits : Traits) : List String → Lowering (List TypeDef)
  | [] => pure []
  | kind :: rest => do
    let first ← lowerKindBy lower node pointer traits kind
    let others ← lowerKindsBy node pointer traits rest
    pure (first :: others)

/-- Lowers the node at a pointer under a name, its parts by `lower`. -/
def lowerNodeBy (json : Json) (pointer name : String) : Lowering TypeSet :=
  match json with
  | .object node =>
    let traits : Traits := { name := name, segments := segments? node }
    match node.lookup "$ref" with
    | some (.string target) => do
      let resolved ← ask target
      pure ⟨.reference traits target resolved, []⟩
    | some _ => fault (.invalidSchema pointer .refNotString)
    | none => do
      let (kinds, nullable) ← keyword pointer (declaredKinds node)
      let traits := { traits with nullable := nullable }
      let first ← lowerKindBy lower node pointer traits kinds.first
      let others ← lowerKindsBy lower node pointer traits kinds.others
      pure ⟨first, others⟩
  | _ => fault (.invalidSchema pointer .notObject)

/-- Where a reference in the document `root` leads, its target lowered by `lower`. -/
def resolveBy (root : Json) (pending : List String) (target : String) : Resolution (Option TypeSet) :=
  match localPointer? target with
  | none => do
    Resolution.report (.foreignReference target)
    pure none
  | some pointer => do
    match (← get).resolved.lookup target with
    | some known => pure known
    | none =>
      if h : target ∈ pending then
        match root.select? pointer with
        | none => do
          Resolution.remember target none
          pure none
        | some node => do
          have := length_filter_ne_lt h
          let set ← (lower node pointer (pointerName pointer)).runWith
            (resolveBy root (pending.filter (· != target)))
          Resolution.remember target (some set)
          pure (some set)
      else do
        Resolution.report (.recursiveReference target)
        pure none
termination_by pending.length

/-- The type set of a document, with the events of its making, every node lowered by `lower`. -/
def parseBy (document : Json) (name : String) : Except GenerateError TypeSet × List Event :=
  let (outcome, state) := ((lower document "" name).runWith
    (resolveBy lower document (refTexts document))).run.run {}
  (outcome.map (·.map (TypeDef.setRequired true)), state.events)

end Level

/-! ## Lowerings that are right at places -/

section Right

variable {lower : Json → String → String → Lowering TypeSet}

theorem lowerPropertiesBy_eq {pointer : String} {required : List String} : ∀ {properties : Node},
    (∀ entry ∈ properties, ∀ name, lower entry.2 (pointer ++ "/properties/" ++ Json.escapeToken entry.1) name =
      lowerNode entry.2 (pointer ++ "/properties/" ++ Json.escapeToken entry.1) name) →
    lowerPropertiesBy lower pointer required properties = lowerProperties pointer required properties
  | [], _ => by rw [lowerPropertiesBy, lowerProperties]
  | (key, schema) :: rest, h => by
    rw [lowerPropertiesBy, lowerProperties, h _ List.mem_cons_self,
      lowerPropertiesBy_eq fun entry he => h entry (List.mem_cons_of_mem _ he)]

theorem lowerItemsBy_eq {pointer arrayName : String} : ∀ {index : Nat} {items : List Json},
    (∀ i item, items[i]? = some item → ∀ name, lower item (pointer ++ "/items/" ++ toString (index + i)) name =
      lowerNode item (pointer ++ "/items/" ++ toString (index + i)) name) →
    lowerItemsBy lower pointer arrayName index items = lowerItems pointer arrayName index items
  | _, [], _ => by rw [lowerItemsBy, lowerItems]
  | index, item :: rest, h => by
    have first := h 0 item rfl
    rw [Nat.add_zero] at first
    rw [lowerItemsBy, lowerItems, first, lowerItemsBy_eq fun i other ho => ?_]
    rw [Nat.add_right_comm]
    exact h (i + 1) other ho

/-- Every part of the node is lowered as it should be. -/
def RightOnParts (lower : Json → String → String → Lowering TypeSet) (node : Node) (pointer : String) : Prop :=
  ∀ kind suffix part, PartAs node kind suffix part → ∀ name,
    lower part (pointer ++ suffix) name = lowerNode part (pointer ++ suffix) name

variable {node : Node} {pointer : String}

theorem lowerKindBy_eq (right : RightOnParts lower node pointer) (traits : Traits) (kind : String) :
    lowerKindBy lower node pointer traits kind = lowerKind node pointer traits kind := by
  unfold lowerKind
  split
  · cases hr : requiredKeys node with
    | error reason =>
      rw [lowerKindBy, hr]
      rfl
    | ok required =>
      simp only [keyword, bind_eq, andThen]
      split
      · rename_i hl
        simp [lowerKindBy, hr, hl, keyword, bind_eq, andThen]
      · rename_i properties hl
        have each : lowerPropertiesBy lower pointer required properties =
            lowerProperties pointer required properties := by
          refine lowerPropertiesBy_eq fun entry he name => ?_
          rw [String.append_assoc]
          exact right _ _ _ (.property hl he) name
        simp [lowerKindBy, hr, hl, keyword, bind_eq, andThen, each]
      · rename_i hl
        simp [lowerKindBy, hr, hl, keyword, bind_eq, andThen]
  · split
    · rename_i item hl
      simp [lowerKindBy, hl, right _ _ _ (.item hl)]
    · rename_i first others hl
      have each : lowerItemsBy lower pointer traits.name 0 (first :: others) =
          lowerItems pointer traits.name 0 (first :: others) := by
        refine lowerItemsBy_eq fun i item hi name => ?_
        rw [Nat.zero_add, String.append_assoc]
        exact right _ _ _ (.element hl hi) name
      simp [lowerKindBy, hl, each]
    · simp [lowerKindBy]
  all_goals simp [lowerKindBy]

theorem lowerKindsBy_eq (right : RightOnParts lower node pointer) (traits : Traits) : ∀ kinds : List String,
    lowerKindsBy lower node pointer traits kinds = lowerKinds node pointer traits kinds
  | [] => by rw [lowerKindsBy, lowerKinds]
  | kind :: rest => by
    rw [lowerKindsBy, lowerKinds, lowerKindBy_eq right, lowerKindsBy_eq right traits rest]

theorem lowerNodeBy_eq (right : RightOnParts lower node pointer) (name : String) :
    lowerNodeBy lower (.object node) pointer name = lowerNode (.object node) pointer name := by
  have kind : lowerKindBy lower node pointer = lowerKind node pointer := funext₂ (lowerKindBy_eq right)
  have kinds : lowerKindsBy lower node pointer = lowerKinds node pointer := funext₂ (lowerKindsBy_eq right)
  rewrite [lowerNodeBy, lowerNode, kind, kinds]
  rfl

/-- Where a pointer selects the node, `lower` does one level of the lowering and goes on with itself below. Of other
nodes and pointers nothing is asked. -/
def RightAtPlaces (document : Json) (lower : Json → String → String → Lowering TypeSet) : Prop :=
  ∀ json pointer name, document.select? pointer = some json →
    lower json pointer name = lowerNodeBy lower json pointer name

variable {document : Json}

theorem RightAtPlaces.eq_lowerNode (distinct : document.distinctKeys = true) (right : RightAtPlaces document lower)
    (json : Json) {pointer : String} (h : document.select? pointer = some json) (name : String) :
    lower json pointer name = lowerNode json pointer name := by
  rw [right json pointer name h]
  -- the parts of a node are smaller, and stand where their pointers lead
  match json with
  | .object node =>
    refine lowerNodeBy_eq (fun kind suffix part hp name => ?_) name
    have := sizeOf_lt_of_part hp
    exact right.eq_lowerNode distinct part (select?_part distinct h hp) name
  | .null | .bool _ | .number _ | .string _ | .array _ => simp [lowerNodeBy, lowerNode]
termination_by sizeOf json
decreasing_by simp only [Json.object.sizeOf_spec]; omega

theorem RightAtPlaces.resolveBy_eq (distinct : document.distinctKeys = true) (right : RightAtPlaces document lower)
    (pending : List String) (target : String) :
    resolveBy lower document pending target = resolve document pending target := by
  rw [resolveBy, resolve]
  cases hl : localPointer? target with
  | none => rfl
  | some pointer =>
    refine bind_congr fun st => ?_
    cases hk : st.resolved.lookup target with
    | some known => rfl
    | none =>
      by_cases hm : target ∈ pending
      · have smaller := length_filter_ne_lt hm
        have inner := funext (right.resolveBy_eq distinct (pending.filter (· != target)))
        simp only [hm, dite_true]
        cases hs : document.select? pointer with
        | none => rfl
        | some node =>
          simp only [right.eq_lowerNode distinct node hs, inner]
      · simp only [hm, dite_false]
termination_by pending.length

theorem RightAtPlaces.parseBy_eq (distinct : document.distinctKeys = true) (right : RightAtPlaces document lower)
    (name : String) : parseBy lower document name = parse document name := by
  have answers := funext (right.resolveBy_eq distinct (refTexts document))
  rewrite [parseBy, parse, right.eq_lowerNode distinct document rfl name, answers]
  rfl

end Right

/-! ## Faults at places -/

/-- An error names what is wrong with a node that is lowered in the document, and where. -/
def Located (document : Json) (e : GenerateError) : Prop :=
  ∃ json pointer reason, LoweredAt document json pointer ∧ Malformed json reason ∧ e = .invalidSchema pointer reason

/-- Where the text leads, if anywhere, is lowered at the pointer in the text. -/
def LeadsToLowered (document : Json) (target : String) : Prop :=
  ∀ pointer part, target = "#" ++ pointer → document.select? pointer = some part → LoweredAt document part pointer

/-- A node that is lowered at a pointer asks for what is lowered, and ends with no fault but one that is
located. -/
theorem LoweredAt.steady {document : Json} (json : Json) {pointer : String} (h : LoweredAt document json pointer)
    (name : String) : Steady (LeadsToLowered document) (Located document) (lowerNode json pointer name) := by
  match json with
  | .object node =>
    refine steady_lowerNode (fun target hl place part hp hs => ?_) (fun value hl other => ?_)
      (fun plain reason hd => ?_) fun plain kinds nullable hd kind hm traits _ => ?_
    · subst hp
      exact h.target hl hs
    · refine ⟨_, _, _, h, .refNotString hl fun target he => ?_, rfl⟩
      rw [he] at other
      cases other
    · exact ⟨_, _, _, h, malformed_of_declaredKinds plain hd, rfl⟩
    · obtain ⟨named, hn, kept, -⟩ := declaredKinds_ok hd
      have among : kind ∈ named ∧ kind ≠ "null" := by simpa [kept] using hm
      have has : HasKind node kind := ⟨plain, named, hn, among.1⟩
      refine steady_lowerKind (fun reason hf => ?_) fun suffix part hp name => ?_
      · exact ⟨_, _, _, h, malformed_of_kindFault has among.2 hf, rfl⟩
      · have := sizeOf_lt_of_part hp
        exact LoweredAt.steady part (h.part has hp) name
  | .null | .bool _ | .number _ | .string _ | .array _ =>
    rw [lowerNode]
    · exact ⟨rfl, _, _, _, h, .notObject (by simp), rfl⟩
    · intro node he
      cases he
termination_by sizeOf json
decreasing_by simp only [Json.object.sizeOf_spec]; omega

theorem located_of_parse {document : Json} {name : String} {e : GenerateError}
    (h : (parse document name).1 = .error e) : Located document e := by
  obtain ⟨st, outcome, run, hp⟩ := carries_of_parse document name
  rw [hp] at h
  cases outcome with
  | ok base => cases h
  | error found =>
    cases h
    refine run.fault_mem (fun target ht s hs => ?_) (LoweredAt.top.steady document name).keeps rfl
    obtain ⟨pointer, part, hl, selected, rfl⟩ := targetLowering?_eq_some.1 hs
    exact ((ht pointer part (localPointer?_eq_some.1 hl) selected).steady part _).keeps

/-- A document fails if a node that is lowered in it is malformed. -/
theorem parse_error_of_malformed {document json : Json} {name pointer : String} {reason : SchemaFault}
    (lowered : LoweredAt document json pointer) (malformed : Malformed json reason) :
    ∃ e, (parse document name).1 = .error e := by
  cases h : (parse document name).1 with
  | ok set => exact absurd (wellFormed_of_parse h lowered.reachable) malformed.not_wellFormed
  | error e => exact ⟨e, rfl⟩

/-- Nodes are lowered only where their pointers select them, whatever the keys, positions and references on
the way are: a lowering that is right there gives the same outcome, with anything done at other places. The
pointer that the error of a document names is one of a node that is lowered, that the pointer selects and that
is malformed for the reason given; and there is an error if there is such a node. -/
theorem parse_at_places (document : Json) (name : String) (distinct : document.distinctKeys = true) :
    (∀ lower, RightAtPlaces document lower → parseBy lower document name = parse document name) ∧
      (∀ json pointer, LoweredAt document json pointer → document.select? pointer = some json) ∧
      (∀ e, (parse document name).1 = .error e → ∃ json pointer reason, LoweredAt document json pointer ∧
        document.select? pointer = some json ∧ Malformed json reason ∧ e = .invalidSchema pointer reason ∧
        e.message = "invalid schema at `" ++ displayPointer pointer ++ "`: " ++ reason.message) ∧
      ∀ json pointer reason, LoweredAt document json pointer → Malformed json reason →
        ∃ e, (parse document name).1 = .error e := by
  refine ⟨fun lower right => right.parseBy_eq distinct name, fun json pointer h => h.select?_eq distinct,
    fun e h => ?_, fun json pointer reason => parse_error_of_malformed⟩
  obtain ⟨json, pointer, reason, lowered, malformed, rfl⟩ := located_of_parse h
  exact ⟨json, pointer, reason, lowered, lowered.select?_eq distinct, malformed, rfl, rfl⟩

/-- A property of an awkward name refers to a list below another awkward key; the second item of the list has
a property that is malformed. -/
def crossed : Json :=
  let tuple : Json := .object [("type", .string "tuple")]
  let pair : Json := .object [("properties", .object [("é/", tuple)])]
  let list : Json := .object [("items", .array [.object [("type", .string "string")], pair])]
  .object [("properties", .object [("a/b~", .object [("$ref", .string "#/x~1~0/0")])]), ("x/~", .array [list])]

theorem parse_at_places_crossed : crossed.distinctKeys = true ∧ ∃ json,
    (parse crossed "root").1 = .error (.invalidSchema "/x~1~0/0/items/1/properties/é~1" (.unknownType "tuple")) ∧
      LoweredAt crossed json "/x~1~0/0/items/1/properties/é~1" ∧
      crossed.select? "/x~1~0/0/items/1/properties/é~1" = some json ∧ Malformed json (.unknownType "tuple") := by
  have distinct : crossed.distinctKeys = true := by decide
  have failed : (parse crossed "root").1 =
      .error (.invalidSchema "/x~1~0/0/items/1/properties/é~1" (.unknownType "tuple")) := by
    unfold crossed
    cbv
  obtain ⟨json, pointer, reason, lowered, selected, malformed, same, -⟩ :=
    (parse_at_places crossed "root" distinct).2.2.1 _ failed
  cases same
  exact ⟨distinct, json, failed, lowered, selected, malformed⟩

end SchemaClasses.Schema
