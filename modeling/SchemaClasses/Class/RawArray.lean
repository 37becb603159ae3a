/-
The raw array form of entities: `fromArray` and `toArray`, which go through the conversions of the
properties' classes. Giving the pair to an entity gives it to the entities of its properties too, to
theirs, and so on; an entity that has `fromArray` already is left as it is, which is why this ends
even where entities refer to each other in a circle.
-/
import SchemaClasses.Class.Collection
import SchemaClasses.Error

namespace SchemaClasses

/-! ## Texts -/

/-- A text as a single-quoted literal: backslashes and single quotes are escaped. -/
def singleQuoted (text : String) : String :=
  String.ofList ('\x27' :: (text.toList.flatMap fun c =>
    if c = '\\' then ['\\', '\\'] else if c = '\x27' then ['\\', '\x27'] else [c]) ++ ['\x27'])

/-- A type hint without question marks at the front. -/
def plainHint (hint : String) : String := String.ofList (Text.trimStart (· == '?') hint.toList)

/-- The fully-qualified name of a class that is used by its short name: an import of that short name,
else a class of the own namespace. -/
def importedOrLocal (c : ClassModel) (short : String) : String :=
  (c.imports.find? fun fqcn => shortName fqcn == short).getD (qualify c.space short)

/-! ## The pair of one entity -/

/-- The lines that convert one property, and the class of the property. -/
structure PropertyLines where
  fromArray : String
  toArray : String
  fqcn : String
  isEntity : Bool
  deriving Repr, DecidableEq, Inhabited

/-- The lines that convert a property of a class. -/
def propertyLines (collection : Collection) (c : ClassModel) (p : Property) :
    Except GenerateError PropertyLines :=
  let short := plainHint p.typeHint
  let fqcn := importedOrLocal c short
  match collection.get? fqcn with
  | none => .error (.unsupported "property" fqcn .noRawConversion)
  | some model =>
    match model.kind.conversion? with
    | none => .error (.unsupported "property" fqcn .noRawConversion)
    | some conversion =>
      let name := p.name
      let key := singleQuoted p.rawKey
      let wrap := conversion.wrap
      let unwrap := conversion.unwrap
      let isEntity := model.kind == .entity
      .ok <| if p.isNullable then
        ⟨s!"$instance->{name} = isset($data[{key}]) ? {short}::{wrap}($data[{key}]) : null;",
          s!"    {key} => $this->{name}?->{unwrap}(),", fqcn, isEntity⟩
      else
        ⟨s!"$instance->{name} = {short}::{wrap}($data[{key}]);",
          s!"    {key} => $this->{name}->{unwrap}(),", fqcn, isEntity⟩

/-- The lines of all properties. -/
def allPropertyLines (collection : Collection) (c : ClassModel) :
    List Property → Except GenerateError (List PropertyLines)
  | [] => .ok []
  | p :: rest => do
    let lines ← propertyLines collection c p
    let others ← allPropertyLines collection c rest
    pure (lines :: others)

/-- The named constructor from an array. -/
def fromArrayMethod (lines : List PropertyLines) : Method :=
  .namedConstructor "fromArray" [.typed "data" "array"]
    (["$instance = new self();"] ++ lines.map (·.fromArray) ++ ["return $instance;"])

/-- The accessor of the array form. -/
def toArrayMethod (lines : List PropertyLines) : Method where
  name := "toArray"
  returnType := some "array"
  body := ["return ["] ++ lines.map (·.toArray) ++ ["];"]

/-- A class with the pair. -/
def ClassModel.withRawArray (lines : List PropertyLines) (c : ClassModel) : ClassModel :=
  (c.addMethod (fromArrayMethod lines)).addMethod (toArrayMethod lines)

/-! ## The pairs of all entities below -/

/-- Whether a class is an entity that has no raw array form yet. -/
def lacksRawArray (c : ClassModel) : Bool := c.kind == .entity && !c.hasMethod "fromArray"

/-- The number of entities without raw array form. -/
def Collection.lacking (c : Collection) : Nat := c.classes.countP fun entry => lacksRawArray entry.2

theorem hasMethod_addMethod (c : ClassModel) (m : Method) (name : String) :
    (c.addMethod m).hasMethod name = (name == m.name || c.hasMethod name) := by
  unfold ClassModel.addMethod ClassModel.hasMethod Entries.hasName
  simp only [Entries.at?_put]
  by_cases h : name = m.name <;> simp [h]

theorem lacksRawArray_withRawArray (lines : List PropertyLines) (c : ClassModel) :
    lacksRawArray (c.withRawArray lines) = false := by
  simp [lacksRawArray, ClassModel.withRawArray, hasMethod_addMethod, fromArrayMethod,
    toArrayMethod, Method.namedConstructor]

theorem countP_adjust_le (entries : Entries ClassModel) (fqcn : String)
    {change : ClassModel → ClassModel} (h : ∀ c, lacksRawArray (change c) = false) :
    (entries.adjust fqcn change).countP (fun entry => lacksRawArray entry.2) ≤
      entries.countP fun entry => lacksRawArray entry.2 := by
  induction entries with
  | nil => simp [Entries.adjust]
  | cons entry rest ih =>
    unfold Entries.adjust at ih ⊢
    rw [List.map_cons, List.countP_cons, List.countP_cons]
    by_cases hn : entry.1 = fqcn
    · simp only [hn, if_true, h, Bool.false_eq_true, if_false]
      omega
    · simp only [hn, if_false]
      omega

theorem countP_adjust_lt {entries : Entries ClassModel} {fqcn : String} {c : ClassModel}
    {change : ClassModel → ClassModel} (h : ∀ c, lacksRawArray (change c) = false)
    (found : entries.at? fqcn = some c) (lacks : lacksRawArray c = true) :
    (entries.adjust fqcn change).countP (fun entry => lacksRawArray entry.2) <
      entries.countP fun entry => lacksRawArray entry.2 := by
  induction entries with
  | nil => simp at found
  | cons entry rest ih =>
    obtain ⟨n, v⟩ := entry
    -- the entry found counts one less, and those after it count no more than before
    have step := countP_adjust_le rest fqcn h
    unfold Entries.adjust at ih step ⊢
    rw [List.map_cons, List.countP_cons, List.countP_cons]
    rw [Entries.at?_cons] at found
    by_cases hn : fqcn = n
    · subst hn
      simp only [if_true, Option.some.injEq] at found
      subst found
      simp only [if_true, h, lacks, Bool.false_eq_true, if_false]
      omega
    · have hn' : ¬ n = fqcn := fun e => hn e.symm
      simp only [hn, if_false] at found
      have := ih found
      simp only [hn', if_false]
      omega

/-- Gives the raw array form to the entities of a list and to all that their properties lead to, each
one before the next in the list. After a fault the collection is as far as it got. -/
def addRawArrays (collection : Collection) (pending : List String) :
    Except GenerateError Unit × Collection :=
  match pending with
  | [] => (.ok (), collection)
  | fqcn :: rest =>
    match found : collection.get? fqcn with
    | none => addRawArrays collection rest
    | some c =>
      if lacks : lacksRawArray c = true then
        match allPropertyLines collection c c.properties.values with
        | .error e => (.error e, collection)
        | .ok lines =>
          have := countP_adjust_lt (lacksRawArray_withRawArray lines) found lacks
          -- what the properties lead to comes before the rest of the list
          addRawArrays (collection.adjust fqcn (·.withRawArray lines))
            ((lines.filter (·.isEntity)).map (·.fqcn) ++ rest)
      else addRawArrays collection rest
termination_by (collection.lacking, pending.length)
decreasing_by
  · exact Prod.Lex.right _ (by simp)
  · exact Prod.Lex.left _ _ this
  · exact Prod.Lex.right _ (by simp)

end SchemaClasses
