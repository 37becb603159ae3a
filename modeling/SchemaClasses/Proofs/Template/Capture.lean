/-
Names of the templates and names taken from the schema. A line of a method shows its variables behind dollar signs and
the property that it assigns to, and conventional names are read back whole from there. So a field is lost exactly if it
is called like a property that its template adds, and an argument is captured exactly if it is called like a variable
that its method has whatever the items are.
-/
import SchemaClasses.Proofs.Class.ValueObject
import SchemaClasses.Proofs.Text.Label

namespace SchemaClasses

open Text

/-! ## What a line shows -/

/-- The names that stand behind the dollar signs of a line. -/
def variablesIn : List Char → List String
  | [] => []
  | c :: rest => if c == '$' then String.ofList (rest.takeWhile inLabel) :: variablesIn rest else variablesIn rest

/-- The variables of a method: its parameters and those in its lines. -/
def Method.variables (m : Method) : List String :=
  m.params.map (·.name) ++ m.body.flatMap fun line => variablesIn line.toList

/-- The variables of the method under a name. -/
def ClassModel.variablesOf (c : ClassModel) (method : String) : List String :=
  ((c.methods.at? method).map Method.variables).getD []

/-- The property of the object that a line assigns to, and the expression for its value. -/
def assignment? (line : List Char) : Option (String × String) := do
  let target ← line.dropPrefix? "$this->".toList
  let value ← (target.dropWhile inLabel).dropPrefix? " = ".toList
  some (String.ofList (target.takeWhile inLabel), String.ofList (value.takeWhile (· != ';')))

/-- What the properties of the object hold after the lines of a method, as far as they assign to it. -/
def Method.assigned (m : Method) : Entries String :=
  Entries.ofPairs (m.body.filterMap fun line => assignment? line.toList)

/-! ## Names within lines -/

/-- A text of characters of labels, as every conventional name is. -/
def Labelled (text : String) : Prop := ∀ c ∈ text.toList, inLabel c = true

variable {text : String}

theorem labelled_propertyName (raw : String) : Labelled (conventionalNames.propertyName raw) := by
  intro c (hc : c ∈ (conventional camelCase raw).toList)
  rw [conventional, String.toList_ofList, ← Spelling.write_camel] at hc
  exact Spelling.keepsLetters_camel.inLabel hc

theorem labelled_className (raw : String) : Labelled (conventionalNames.className raw) := by
  intro c (hc : c ∈ (conventional pascalCase raw).toList)
  rw [conventional, String.toList_ofList, ← Spelling.write_pascal] at hc
  exact Spelling.keepsLetters_pascal.inLabel hc

theorem Labelled.beq_eq_false (h : Labelled text) {c d : Char} (hc : c ∈ text.toList) (other : inLabel d = false) :
    (c == d) = false := by
  rw [beq_eq_false_iff_ne]
  rintro rfl
  rw [h c hc] at other
  cases other

theorem variablesIn_append {front : List Char} (plain : ∀ c ∈ front, (c == '$') = false) (rest : List Char) :
    variablesIn (front ++ rest) = variablesIn rest := by
  induction front with
  | nil => rfl
  | cons c front ih =>
    obtain ⟨first, plain⟩ := List.forall_mem_cons.1 plain
    rw [List.cons_append, variablesIn, first, ih plain]
    rfl

@[simp] theorem Labelled.variablesIn_append (h : Labelled text) (rest : List Char) :
    variablesIn (text.toList ++ rest) = variablesIn rest :=
  SchemaClasses.variablesIn_append (fun _ hc => h.beq_eq_false hc rfl) rest

@[simp] theorem Labelled.takeWhile_append (h : Labelled text) {c : Char} (other : inLabel c = false)
    (rest : List Char) : (text.toList ++ c :: rest).takeWhile inLabel = text.toList := by
  rw [List.takeWhile_append_of_pos h, List.takeWhile_cons, other]
  exact List.append_nil _

theorem Labelled.dropWhile_append (h : Labelled text) {c : Char} (other : inLabel c = false) (rest : List Char) :
    (text.toList ++ c :: rest).dropWhile inLabel = c :: rest := by
  rw [List.dropWhile_append_of_pos h, List.dropWhile_cons, other]
  rfl

theorem Labelled.assignment?_append (h : Labelled text) (value : List Char) :
    assignment? ("$this->".toList ++ (text.toList ++ (" = ".toList ++ value))) =
      some (text, String.ofList (value.takeWhile (· != ';'))) := by
  have space : inLabel ' ' = false := by decide
  have target : (text.toList ++ (" = ".toList ++ value)).takeWhile inLabel = text.toList := h.takeWhile_append space _
  have behind : (text.toList ++ (" = ".toList ++ value)).dropWhile inLabel = " = ".toList ++ value :=
    h.dropWhile_append space _
  rw [assignment?, List.dropPrefix?_append_of_beq _ BEq.rfl]
  simp only [Option.bind_eq_bind, Option.bind_some]
  rw [behind, List.dropPrefix?_append_of_beq _ BEq.rfl, target, String.ofList_toList]
  rfl

/-! ## The field of a language tag -/

namespace Template.LanguageTag

variable (filters : NameFilters) (typed : Bool) (name : String)

/-- The lines of the constructor. -/
def constructorLines (field : String) : List String :=
  [s!"$this->{field} = ${field};", s!"$parsed = locale_parse(${field}) ?: [];",
    "$this->language = $parsed['language'] ?? null;", "$this->region = $parsed['region'] ?? null;"]

/-- The constructor stores the text and then what it finds in it. -/
theorem assigned_constructor {field : String} (h : Labelled field) {m : Method} (hm : m.body = constructorLines field) :
    m.assigned = ((Entries.put [] field ("$" ++ field)).put "language" "$parsed['language'] ?? null").put "region"
      "$parsed['region'] ?? null" := by
  have stored : assignment? (s!"$this->{field} = ${field};").toList = some (field, "$" ++ field) := by
    have line : (s!"$this->{field} = ${field};").toList =
        "$this->".toList ++ (field.toList ++ (" = ".toList ++ (("$" ++ field).toList ++ [';']))) := by
      simp [toString]
    have value : (("$" ++ field).toList ++ [';']).takeWhile (· != ';') = ("$" ++ field).toList := by
      have inside : ∀ c ∈ ("$" ++ field).toList, (c != ';') = true := by
        rw [String.toList_append, List.forall_mem_append]
        exact ⟨by simp, fun c hc => congrArg not (h.beq_eq_false hc rfl)⟩
      rw [List.takeWhile_append_of_pos inside]
      exact List.append_nil _
    rw [line, h.assignment?_append, value, String.ofList_toList]
  have parsed : assignment? (s!"$parsed = locale_parse(${field}) ?: [];").toList = none := by
    simp [toString, assignment?, List.dropPrefix?]
  have language : assignment? "$this->language = $parsed['language'] ?? null;".toList =
      some ("language", "$parsed['language'] ?? null") := by decide +kernel
  have region : assignment? "$this->region = $parsed['region'] ?? null;".toList =
      some ("region", "$parsed['region'] ?? null") := by decide +kernel
  rw [Method.assigned, hm, constructorLines]
  simp only [List.filterMap_cons, List.filterMap_nil, stored, parsed, language, region]
  rfl

theorem properties_build : (build filters typed name).properties =
    ((Entries.put [] (filters.propertyName name) { name := filters.propertyName name, typeHint := "string" }).put
      "language" { name := "language", typeHint := "?string" }).put "region" { name := "region", typeHint := "?string" } := by
  unfold build
  simp only
  rw [ClassModel.addMethods_eq]
  rfl

theorem at?_build_constructor :
    ∃ m, (build filters typed name).methods.at? "__construct" = some m ∧
      m.body = constructorLines (filters.propertyName name) := by
  refine ⟨⟨"__construct", [.typed (filters.propertyName name) "string"], none, none,
    constructorLines (filters.propertyName name), false, .forSelf⟩, ?_, rfl⟩
  unfold build
  simp only
  rw [ClassModel.at?_addMethods]
  rfl

/-- What is stored first stays where it is unless one of the parts is stored there later. -/
theorem at?_parts_iff {α : Type} {field : String} {own language region : α} (hl : language ≠ own) (hr : region ≠ own) :
    (((Entries.put [] field own).put "language" language).put "region" region).at? field = some own ↔
      field ∉ ["language", "region"] := by
  rw [Entries.at?_put, Entries.at?_put, Entries.at?_put, if_pos rfl]
  simp only [List.mem_cons, List.not_mem_nil, or_false, not_or]
  split
  · rename_i taken
    exact iff_of_false (fun same => hr (Option.some.inj same)) fun free => free.2 taken
  · rename_i other
    split
    · rename_i taken
      exact iff_of_false (fun same => hl (Option.some.inj same)) fun free => free.1 taken
    · rename_i apart
      exact iff_of_true rfl ⟨apart, other⟩

/-- The field keeps its type and its value unless it is called like one of the parts that are found in the text. -/
theorem field_kept_iff :
    let field := conventionalNames.propertyName name
    let c := build conventionalNames typed name
    (c.properties.at? field = some { name := field, typeHint := "string" } ↔ field ∉ ["language", "region"]) ∧
      ((c.methods.at? "__construct").bind (·.assigned.at? field) = some ("$" ++ field) ↔
        field ∉ ["language", "region"]) := by
  intro field c
  have labelled : Labelled field := labelled_propertyName name
  constructor
  · rw [properties_build]
    exact at?_parts_iff (by simp) (by simp)
  · obtain ⟨m, hm, lines⟩ := at?_build_constructor conventionalNames typed name
    -- no name goes on like the expressions for the parts
    have bracket : ∀ key : String, "$parsed['" ++ key ++ "'] ?? null" ≠ "$" ++ field := by
      intro key same
      have inside : '[' ∈ ("$" ++ field).toList := by rw [← same]; simp
      rw [String.toList_append, List.mem_append] at inside
      rcases inside with front | inside
      · exact absurd front (by decide)
      · exact absurd (labelled '[' inside) (by decide)
    rw [hm, Option.bind_some, assigned_constructor labelled lines]
    exact at?_parts_iff (bracket "language") (bracket "region")

end Template.LanguageTag

/-! ## The field of a list -/

namespace Template.ListOf

variable (filters : NameFilters) (typed : Bool) (name : String) (item : ItemType)

theorem at?_properties_build (other : String) : (build filters typed name item).properties.at? other =
    if other = filters.propertyName name then
      some { name := filters.propertyName name, typeHint := "array",
             docHint := some (filters.className item.sourceName ++ "[]") }
    else if other = positionProperty then some { name := positionProperty, typeHint := "int", initial := some "0" }
    else none := by
  unfold build walkable
  simp only
  rw [ClassModel.addMethod, ClassModel.addMethods_eq, ClassModel.addMethods_eq]
  show ((Entries.put [] _ _).put _ _).at? other = _
  rw [Entries.at?_put, Entries.at?_put]
  rfl

/-- The position keeps a property of its own unless the field of the items is called like it. -/
theorem position_kept_iff :
    let field := conventionalNames.propertyName name
    let c := build conventionalNames typed name item
    c.properties.at? positionProperty = some { name := positionProperty, typeHint := "int", initial := some "0" } ∧
        c.properties.at? field = some { name := field, typeHint := "array",
                                        docHint := some (conventionalNames.className item.sourceName ++ "[]") } ↔
      field ≠ positionProperty := by
  intro field c
  rw [at?_properties_build, at?_properties_build, if_pos rfl, if_pos rfl]
  split
  · rename_i own
    exact iff_of_false (fun h => by simp at h) fun other => other own.symm
  · rename_i other
    exact iff_of_true ⟨rfl, rfl⟩ fun own => other own.symm

/-! ## The variables of the methods of a list -/

/-- The methods of a list kept in the field `items`, each with its variables. -/
def variableTable (items arg : String) : Entries (List String) :=
  [("rewind", ["this"]), ("current", ["this", "this"]), ("key", ["this"]), ("next", ["this"]),
    ("valid", ["this", "this"]), ("count", ["this"])] ++
  [("fromArray", ["items", "item", "item", "items"]), ("fromItems", ["items", "items"]), ("emptyList", []),
    ("__construct", [items, "this", items]),
    ("add", [arg, "copy", "this", "copy", arg, "copy"]),
    ("remove", [arg, "copy", "this", "copy", "copy", "v", arg, "v", arg, "copy"]),
    ("first", ["this"]), ("last", ["this", "this", "this"]),
    ("contains", [arg, "this", "existingItem", "existingItem", arg]),
    ("filter", ["filter", "this", "v", "filter", "filter", "v"]),
    ("items", ["this"]), ("toArray", [arg, arg, "this"])] ++
  [("equals", ["other", "other", "this", "other"])]

section Variables

variable {items itemClass arg : String}

theorem variables_walkable (itemClass arg : String) (hi : Labelled items) : ∃ ms : List Method,
    (∀ method, (walkable typed items itemClass positionProperty).methods.at? method =
      ms.reverse.find? (·.name == method)) ∧
    ms.map (fun m => (m.name, m.variables)) = (variableTable items arg).take 6 := by
  refine ⟨_, fun method => (ClassModel.at?_addMethods _).trans (Option.or_none ..), ?_⟩
  simp [Method.variables, variablesIn, variableTable, positionProperty, toString, hi, inLabel, startsLabel,
    Char.isAlpha, Char.isUpper, Char.isLower, Char.isDigit]

theorem variables_methods (hi : Labelled items) (hc : Labelled itemClass) (ha : Labelled arg) :
    (methods items itemClass arg .string ++ [equals]).map (fun m => (m.name, m.variables)) =
      (variableTable items arg).drop 6 := by
  simp [methods, equals, equalsBy, Method.variables, Method.namedConstructor, Param.typed, Param.many,
    Conversion.string, variablesIn, variableTable, toString, hi, hc, ha, inLabel, startsLabel, Char.isAlpha,
    Char.isUpper, Char.isLower, Char.isDigit]

theorem distinct_variableTable (items arg : String) : (variableTable items arg).Distinct := by
  show List.Nodup ["rewind", "current", "key", "next", "valid", "count", "fromArray", "fromItems", "emptyList",
    "__construct", "add", "remove", "first", "last", "contains", "filter", "items", "toArray", "equals"]
  decide

end Variables

/-- The methods of the template come in the place of those for the walk. -/
theorem at?_build (method : String) : (build filters typed name item).methods.at? method =
    ((methods (filters.propertyName name) (filters.className item.sourceName) (filters.propertyName item.sourceName)
      item.conversion ++ [equals]).reverse.find? (·.name == method)).or
      ((walkable typed (filters.propertyName name) (filters.className item.sourceName) positionProperty).methods.at?
        method) := by
  have assembled : build filters typed name item =
      (walkable typed (filters.propertyName name) (filters.className item.sourceName) positionProperty).addMethods
        (methods (filters.propertyName name) (filters.className item.sourceName)
          (filters.propertyName item.sourceName) item.conversion ++ [equals]) := by
    rw [ClassModel.addMethods, List.foldl_append, build]
    rfl
  rw [assembled, ClassModel.at?_addMethods]

theorem variablesOf_build (source method : String) :
    (build conventionalNames typed name ⟨source, .string⟩).variablesOf method =
      ((variableTable (conventionalNames.propertyName name) (conventionalNames.propertyName source)).at? method).getD
        [] := by
  have labelled := labelled_propertyName source
  obtain ⟨ms, walk, front⟩ := variables_walkable typed (conventionalNames.className source)
    (conventionalNames.propertyName source) (labelled_propertyName name)
  have behind := variables_methods (labelled_propertyName name) (labelled_className source) labelled
  rw [ClassModel.variablesOf, at?_build, walk, ← List.find?_append, ← List.reverse_append,
    ← Entries.at?_ofPairs_map (·.name) Method.variables, List.map_append, front, behind, List.take_append_drop,
    Entries.ofPairs_of_distinct (distinct_variableTable _ _)]

/-! ## Variables that are there whatever the items are -/

/-- A method of a list has a variable, which may be named after the item, whatever the items are. -/
def Always (method : String) (v : ItemType → String) : Prop :=
  ∀ item, v item ∈ (build conventionalNames typed name item).variablesOf method

/-- The methods with an argument that is named after the item. -/
def itemMethods : List String := ["add", "remove", "contains", "toArray"]

/-- The variables that these methods have besides. -/
def itemMethodVariables : List String := ["copy", "v", "existingItem", "this"]

variable {typed name} {method v : String}

theorem Always.exists_row {v : ItemType → String} (h : Always typed name method v) (source : String) :
    ∃ row ∈ variableTable (conventionalNames.propertyName name) (conventionalNames.propertyName source),
      row.1 = method ∧ v ⟨source, .string⟩ ∈ row.2 := by
  have here := h ⟨source, .string⟩
  rw [variablesOf_build] at here
  cases found : (variableTable (conventionalNames.propertyName name) (conventionalNames.propertyName source)).at?
      method with
  | none =>
    rw [found] at here
    cases here
  | some vs =>
    rw [found] at here
    exact ⟨(method, vs), Entries.mem_of_at? found, rfl, here⟩

/-- An argument that is called like nothing else is in these methods only. -/
theorem mem_itemMethods_of_row {items arg : String} (apart : arg ≠ items)
    (other : arg ∉ ["this", "items", "item", "filter", "v", "other"]) :
    ∀ row ∈ variableTable items arg, arg ∈ row.2 → row.1 ∈ itemMethods := by
  simp only [List.mem_cons, List.not_mem_nil, or_false, not_or] at other
  simp [variableTable, itemMethods, apart, other]

theorem mem_of_row {items arg : String} :
    ∀ row ∈ variableTable items arg, row.1 ∈ itemMethods → ∀ v ∈ row.2, v = arg ∨ v ∈ itemMethodVariables := by
  simp [variableTable, itemMethods, itemMethodVariables]

theorem mem_itemMethods (h : Always typed name method fun item => conventionalNames.propertyName item.sourceName) :
    method ∈ itemMethods := by
  have plain : ∃ source, conventionalNames.propertyName source ≠ conventionalNames.propertyName name ∧
      conventionalNames.propertyName source ∉ ["this", "items", "item", "filter", "v", "other"] := by
    have x : conventionalNames.propertyName "x" = "x" := by decide +kernel
    have y : conventionalNames.propertyName "y" = "y" := by decide +kernel
    by_cases taken : conventionalNames.propertyName name = "x"
    · exact ⟨"y", by rw [y, taken]; decide, by rw [y]; decide⟩
    · exact ⟨"x", by rw [x]; exact Ne.symm taken, by rw [x]; decide⟩
  obtain ⟨source, apart, other⟩ := plain
  obtain ⟨row, hr, rfl, named⟩ := h.exists_row source
  exact mem_itemMethods_of_row apart other row hr named

theorem mem_itemMethodVariables (hm : method ∈ itemMethods) (h : Always typed name method fun _ => v) :
    v ∈ itemMethodVariables := by
  have among : ∀ source, v = conventionalNames.propertyName source ∨ v ∈ itemMethodVariables := by
    intro source
    obtain ⟨row, hr, rfl, hv⟩ := h.exists_row source
    exact mem_of_row row hr hm v hv
  rcases among "x" with x | hv
  · rcases among "y" with y | hv
    · exact absurd (x.symm.trans y) (by decide +kernel)
    · exact hv
  · exact hv

/-- These methods are the same however the items are made. -/
theorem always_of_row {v : ItemType → String} (hm : method ∈ ["add", "remove", "contains"])
    (row : ∀ item, v item ∈ ((variableTable (conventionalNames.propertyName name)
      (conventionalNames.propertyName item.sourceName)).at? method).getD []) : Always typed name method v := by
  intro item
  have string : (build conventionalNames typed name item).variablesOf method =
      (build conventionalNames typed name ⟨item.sourceName, .string⟩).variablesOf method := by
    rw [ClassModel.variablesOf, ClassModel.variablesOf, at?_build, at?_build]
    simp only [List.mem_cons, List.not_mem_nil, or_false] at hm
    rcases hm with rfl | rfl | rfl <;> simp [methods, Method.namedConstructor, equals, equalsBy]
  rw [string, variablesOf_build]
  exact row item

variable (typed name) in
/-- Each of these variables stands beside the argument in some method. -/
theorem exists_method (hv : v ∈ itemMethodVariables) : ∃ method,
    Always typed name method (fun item => conventionalNames.propertyName item.sourceName) ∧
      Always typed name method fun _ => v := by
  have beside : ∃ method ∈ ["add", "remove", "contains"], ∀ items arg,
      arg ∈ ((variableTable items arg).at? method).getD [] ∧ v ∈ ((variableTable items arg).at? method).getD [] := by
    simp only [itemMethodVariables, List.mem_cons, List.not_mem_nil, or_false] at hv
    rcases hv with rfl | rfl | rfl | rfl
    · exact ⟨"add", by decide, by simp [variableTable]⟩
    · exact ⟨"remove", by decide, by simp [variableTable]⟩
    · exact ⟨"contains", by decide, by simp [variableTable]⟩
    · exact ⟨"add", by decide, by simp [variableTable]⟩
  obtain ⟨method, hm, row⟩ := beside
  exact ⟨method, always_of_row hm fun _ => (row _ _).1, always_of_row hm fun _ => (row _ _).2⟩

/-- The argument is none of the other variables of its methods unless it is called like one of them. -/
theorem argument_apart_iff (typed : Bool) (name : String) (item : ItemType) :
    let arg := conventionalNames.propertyName item.sourceName
    (∀ method v, Always typed name method (fun item => conventionalNames.propertyName item.sourceName) →
      Always typed name method (fun _ => v) → arg ≠ v) ↔ arg ∉ ["copy", "v", "existingItem", "this"] := by
  intro arg
  constructor
  · intro apart taken
    obtain ⟨method, named, own⟩ := exists_method typed name taken
    exact apart method arg named own rfl
  · rintro free method v named own rfl
    exact free (mem_itemMethodVariables (mem_itemMethods named) own)

end Template.ListOf

open Template

end SchemaClasses
