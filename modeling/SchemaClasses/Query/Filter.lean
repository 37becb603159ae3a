/-
Filters that pick schemas out of a document. A filter turns one value into results, one after the
other; a result is a value or a fault. A fault ends nothing by itself: what comes behind it is still
told, and it is for the filter around to stop there or to go on.
-/
import SchemaClasses.Query.Value

namespace SchemaClasses.Query

/-! ## Filters -/

mutual

/-- A filter. -/
inductive Filter where
  | identity
  | literal (value : Value)
  /-- A function or variable that there is not. -/
  | unknown (name : String)
  /-- The values that steps lead to from the values of a filter. -/
  | path (target : Filter) (steps : List Step)
  | pipe (first second : Filter)
  | both (first second : Filter)
  | equal (left right : Filter)
  | negative (body : Filter)
  | array (items : Option Filter)
  | object (entries : List (Filter × Filter))
  /-- The values for which a condition holds. -/
  | select (condition : Filter)
  /-- Stops with a fault, unless there is no message: then the value itself is told. -/
  | fail (message : Filter)
  | nothing
  /-- The values up to the first fault. -/
  | attempt (body : Filter)

/-- A step into a value. Where it is lenient, a value into which it cannot lead is passed over. -/
inductive Step where
  | look (lenient : Bool) (key : Filter)
  | slice (lenient : Bool) (lower upper : Option Filter)
  | each (lenient : Bool)

end

instance : Inhabited Filter := ⟨.identity⟩

mutual

/-- Whether a filter mentions a function or variable that there is not. -/
def Filter.hasUnknown : Filter → Bool
  | .unknown _ => true
  | .identity | .literal _ | .nothing => false
  | .path target steps => target.hasUnknown || hasUnknownSteps steps
  | .pipe a b | .both a b | .equal a b => a.hasUnknown || b.hasUnknown
  | .array items => hasUnknownOption items
  | .object entries => hasUnknownEntries entries
  | .negative body | .select body | .fail body | .attempt body => body.hasUnknown

/-- The same for a step. -/
def Step.hasUnknown : Step → Bool
  | .look _ key => key.hasUnknown
  | .slice _ lower upper => hasUnknownOption lower || hasUnknownOption upper
  | .each _ => false

/-- The same for steps. -/
def hasUnknownSteps : List Step → Bool
  | [] => false
  | step :: rest => step.hasUnknown || hasUnknownSteps rest

/-- The same for a filter that may be absent. -/
def hasUnknownOption : Option Filter → Bool
  | none => false
  | some f => f.hasUnknown

/-- The same for the keys and values of an object. -/
def hasUnknownEntries : List (Filter × Filter) → Bool
  | [] => false
  | (key, value) :: rest => key.hasUnknown || value.hasUnknown || hasUnknownEntries rest

end

/-! ## Results -/

/-- What a filter tells, in order; `none` stands for a fault. -/
abbrev Results (α : Type) := List (Option α)

namespace Results

variable {α β γ : Type}

/-- Goes on with every value; faults stay where they are. -/
def andThen (results : Results α) (next : α → Results β) : Results β :=
  results.flatMap fun
    | some value => next value
    | none => [none]

/-- Combines every result with every other one; the second ones change faster. A fault on either
side is the fault of the pair, so it goes unnoticed where the other side tells nothing. -/
def combine (make : α → β → Option γ) (firsts : Results α) (seconds : Results β) : Results γ :=
  firsts.flatMap fun first => seconds.map fun second => do make (← first) (← second)

/-- All values, or a fault if there is one among them. -/
def gather (results : Results α) : Option (List α) := results.mapM id

/-- The values up to the first fault. -/
def untilFault (results : Results α) : Results α := results.takeWhile Option.isSome

end Results

/-! ## Places -/

/-- A step whose keys and bounds are known. -/
inductive Place where
  | look (lenient : Bool) (key : Value)
  | slice (lenient : Bool) (lower upper : Option Value)
  | each (lenient : Bool)

/-- The result of a step that may be lenient: if so, a fault counts as no result. -/
def lenientResults {α : Type} (lenient : Bool) : Option (List α) → Results α
  | some values => values.map some
  | none => if lenient then [] else [none]

/-- Where a step leads. -/
def Place.follow (value : Value) : Place → Results Value
  | .look lenient key => lenientResults lenient ((value.look? key).map ([·]))
  | .slice lenient lower upper => lenientResults lenient ((value.slice? lower upper).map ([·]))
  | .each lenient => lenientResults lenient value.items?

/-- Where steps lead, one after the other. -/
def followAll : List Place → Value → Results Value
  | [], value => [some value]
  | place :: rest, value => Results.andThen (place.follow value) (followAll rest)

/-! ## Running -/

mutual

/-- The results of a filter for an input. The keys of a path are computed from that input too, and
all of them before the first step is taken. -/
def Filter.run (input : Value) : Filter → Results Value
  | .identity => [some input]
  | .literal value => [some value]
  | .unknown _ => [none]
  | .path target steps =>
    let places := Step.places input steps
    Results.andThen (target.run input) fun value =>
      Results.andThen places fun places => followAll places value
  | .pipe first second => Results.andThen (first.run input) fun value => second.run value
  | .both first second => first.run input ++ second.run input
  | .equal left right =>
    Results.combine (fun a b => some (.bool (same a b))) (left.run input) (right.run input)
  | .negative body =>
    Results.andThen (body.run input) fun
      | .number quantity => [quantity.negative?.map .number]
      | _ => [none]
  | .array none => [some (.array [])]
  | .array (some items) => [(Results.gather (items.run input)).map .array]
  | .object entries =>
    (runEntries input entries).map fun pairs => pairs.map (.object ∘ Entries.ofPairs)
  | .select condition =>
    Results.andThen (condition.run input) fun holds => if holds.isTrue then [some input] else []
  | .fail message => if (message.run input).isEmpty then [some input] else [none]
  | .nothing => []
  | .attempt body => Results.untilFault (body.run input)
termination_by f => sizeOf f

/-- All choices of places for a step. -/
def Step.choices (input : Value) : Step → Results Place
  | .look lenient key => (key.run input).map (·.map (.look lenient))
  | .slice lenient lower upper =>
    Results.combine (fun low high => some (.slice lenient low high)) (runOption input lower)
      (runOption input upper)
  | .each lenient => [some (.each lenient)]
termination_by s => sizeOf s

/-- All choices of places for steps, those of the last step changing fastest. -/
def Step.places (input : Value) : List Step → Results (List Place)
  | [] => [some []]
  | step :: rest =>
    Results.combine (fun place places => some (place :: places)) (step.choices input)
      (Step.places input rest)
termination_by steps => sizeOf steps

/-- The results of a filter that may be absent. -/
def runOption (input : Value) : Option Filter → Results (Option Value)
  | none => [some none]
  | some f => (f.run input).map (·.map some)
termination_by f => sizeOf f

/-- All choices of values for the keys and values of an object, those of the last entry changing
fastest. Keys are texts. -/
def runEntries (input : Value) : List (Filter × Filter) → Results (List (String × Value))
  | [] => [some []]
  | (key, value) :: rest =>
    let entry (key value : Value) : Option (String × Value) :=
      match key with
      | .string key => some (key, value)
      | _ => none
    Results.combine (fun entry entries => some (entry :: entries))
      (Results.combine entry (key.run input) (value.run input)) (runEntries input rest)
termination_by entries => sizeOf entries

end

end SchemaClasses.Query
