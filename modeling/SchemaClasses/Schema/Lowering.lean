/-
From a schema node to its type set, up to where references lead: a lowering stops at every reference
it meets and goes on with the answer to it. Between two references only parts of one node are
visited, which is why a lowering ends whatever the answers are.
-/
import SchemaClasses.Schema.Keywords

namespace SchemaClasses.Schema

/-! ## Lowerings -/

/-- A lowering has a value, ends with a fault, or needs to know where a reference leads. -/
inductive Lowering (α : Type) where
  | done (value : α)
  | fault (error : GenerateError)
  | follow (target : String) (next : Option TypeSet → Lowering α)

namespace Lowering

variable {α β : Type}

/-- One lowering after another. -/
def andThen (s : Lowering α) (f : α → Lowering β) : Lowering β :=
  match s with
  | done value => f value
  | fault error => fault error
  | follow target next => follow target fun answer => (next answer).andThen f

instance : Monad Lowering where
  pure := done
  bind := andThen

/-- Asks where a reference leads. -/
def ask (target : String) : Lowering (Option TypeSet) := follow target done

/-- The value of a keyword of the node at a pointer. -/
def keyword (pointer : String) (value : Except SchemaFault α) : Lowering α :=
  match value with
  | .ok a => done a
  | .error reason => fault (.invalidSchema pointer reason)

/-- Carries a lowering out; `answer` says where references lead. -/
def runWith {m : Type → Type} [Monad m] [MonadExceptOf GenerateError m]
    (answer : String → m (Option TypeSet)) : Lowering α → m α
  | done value => pure value
  | fault error => throw error
  | follow target next => do runWith answer (next (← answer target))

end Lowering

open Lowering

/-! ## Sizes -/

theorem sizeOf_lt_of_lookup {node : Node} {key : String} {value : Json}
    (h : node.lookup key = some value) : sizeOf value < sizeOf node := by
  induction node with
  | nil => simp at h
  | cons entry rest ih =>
    obtain ⟨k, v⟩ := entry
    rw [List.lookup_cons] at h
    split at h
    · cases h
      simp only [List.cons.sizeOf_spec, Prod.mk.sizeOf_spec]
      omega
    · have := ih h
      simp only [List.cons.sizeOf_spec]
      omega

/-! ## Nodes -/

mutual

/-- Lowers the node at a pointer under a name. -/
def lowerNode (json : Json) (pointer name : String) : Lowering TypeSet :=
  match json with
  | .object node =>
    let traits : Traits := { name := name, segments := segments? node }
    -- beside a reference only the namespace counts
    match node.lookup "$ref" with
    | some (.string target) => do
      let resolved ← ask target
      pure ⟨.reference traits target resolved, []⟩
    | some _ => fault (.invalidSchema pointer .refNotString)
    | none => do
      let (kinds, nullable) ← keyword pointer (declaredKinds node)
      let traits := { traits with nullable := nullable }
      let first ← lowerKind node pointer traits kinds.first
      let others ← lowerKinds node pointer traits kinds.others
      pure ⟨first, others⟩
  | _ => fault (.invalidSchema pointer .notObject)
termination_by (sizeOf json, 0)
decreasing_by
  all_goals
    simp only [Json.object.sizeOf_spec]
    apply Prod.Lex.left
    omega

/-- Lowers a node as each of several kinds. -/
def lowerKinds (node : Node) (pointer : String) (traits : Traits) :
    List String → Lowering (List TypeDef)
  | [] => pure []
  | kind :: rest => do
    let first ← lowerKind node pointer traits kind
    let others ← lowerKinds node pointer traits rest
    pure (first :: others)
termination_by kinds => (sizeOf node, kinds.length + 1)

/-- Lowers a node as one kind. -/
def lowerKind (node : Node) (pointer : String) (traits : Traits) (kind : String) :
    Lowering TypeDef :=
  match kind with
  | "object" => do
    let required ← keyword pointer (requiredKeys node)
    match h : node.lookup "properties" with
    | none => pure (.object traits [])
    | some (.object properties) =>
      have := sizeOf_lt_of_lookup h
      let properties ← lowerProperties pointer required properties
      pure (.object traits properties)
    | some _ => fault (.invalidSchema pointer .propertiesNotObject)
  | "array" =>
    match h : node.lookup "items" with
    | some (.object item) => do
      have := sizeOf_lt_of_lookup h
      let name := itemName (.object item) traits.name
      let set ← lowerNode (.object item) (pointer ++ "/items") name
      pure (.array traits [set])
    | some (.array (first :: others)) => do
      have := sizeOf_lt_of_lookup h
      let items ← lowerItems pointer traits.name 0 (first :: others)
      pure (.array traits items)
    | _ => fault (.invalidSchema pointer .itemsMissing)
  | "string" => do
    let choices ← keyword pointer (choices node)
    pure (.string traits (format? node) choices)
  | "integer" => pure (.integer traits)
  | "number" => pure (.number traits)
  | "boolean" => pure (.boolean traits)
  | other => fault (.invalidSchema pointer (.unknownType other))
termination_by (sizeOf node, 0)
decreasing_by
  all_goals
    apply Prod.Lex.left
    simp only [Json.object.sizeOf_spec, Json.array.sizeOf_spec] at *
    omega

/-- Lowers the properties of an object. -/
def lowerProperties (pointer : String) (required : List String) :
    Node → Lowering (List (String × TypeSet))
  | [] => pure []
  | (key, schema) :: rest => do
    let set ← lowerNode schema (pointer ++ "/properties/" ++ Json.escapeToken key) key
    let others ← lowerProperties pointer required rest
    pure ((key, set.map (TypeDef.setRequired (required.contains key))) :: others)
termination_by properties => (sizeOf properties, 0)

/-- Lowers the items of an array, the first of which stands at `index`. -/
def lowerItems (pointer arrayName : String) (index : Nat) : List Json → Lowering (List TypeSet)
  | [] => pure []
  | item :: rest => do
    let set ← lowerNode item (pointer ++ "/items/" ++ toString index) (itemName item arrayName)
    let others ← lowerItems pointer arrayName (index + 1) rest
    pure (set :: others)
termination_by items => (sizeOf items, 0)

end

end SchemaClasses.Schema
