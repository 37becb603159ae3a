/-
What becomes of the values of an enum. Its choices are read through the constants that they name, and the
constant of a value is that of the last value of its name; its named constructors give way to every method
that is there before them, and they are replaced by every method that comes behind them.
-/
import SchemaClasses.Proofs.Class.ValueObject
import SchemaClasses.Proofs.Text.SnakeCase

namespace SchemaClasses

/-! ## Reading a list of names -/

section ReadAll

variable {α β : Type} {read : α → Option β} {l : List α}

theorem mapM_eq_some {found : α → β} (all : ∀ a ∈ l, read a = some (found a)) : l.mapM read = some (l.map found) := by
  induction l with
  | nil => rfl
  | cons first rest ih =>
    obtain ⟨front, all⟩ := List.forall_mem_cons.1 all
    rw [List.mapM_cons, front, ih all]
    rfl

theorem mapM_eq_none {a : α} (ha : a ∈ l) (none : read a = none) : l.mapM read = .none := by
  induction l with
  | nil => cases ha
  | cons first rest ih =>
    rw [List.mapM_cons]
    rcases List.mem_cons.1 ha with rfl | ha
    · rw [none]
      rfl
    · rw [ih ha]
      cases read first <;> rfl

end ReadAll

/-! ## The choices of a class -/

namespace ClassModel

/-- The names in the public list of choices. -/
def choiceNames? (c : ClassModel) : Option (List String) :=
  match c.constants.at? "CHOICES" with
  | some ⟨_, .selfList names, .forAll⟩ => some names
  | _ => none

/-- The text of a private constant. -/
def privateText? (c : ClassModel) (name : String) : Option String :=
  match c.constants.at? name with
  | some ⟨_, .text value, .forSelf⟩ => some value
  | _ => none

/-- The texts that the public list of choices stands for, if every name in it is a private text. -/
def accepted? (c : ClassModel) : Option (List String) :=
  c.choiceNames?.bind fun names => names.mapM c.privateText?

end ClassModel

namespace Template.Enum

variable (filters : NameFilters) (typed : Bool) (name : String) (values : List String)

/-! ## Constants -/

theorem at?_constants_build (other : String) : (build filters typed name values).1.constants.at? other =
    if other = "CHOICES" then some (choices filters values)
    else (values.reverse.find? (filters.constName · == other)).map
      fun value => ⟨filters.constName value, .text value, .forSelf⟩ := by
  unfold build
  simp only
  rw [ClassModel.addMethods_eq, addChoices_eq]
  show (Entries.put (List.foldl ClassModel.addConstant _ _).constants "CHOICES" _).at? other = _
  rw [Entries.at?_put, ClassModel.constants_foldl_addConstant, constants, List.map_map]
  congr 1
  exact Entries.at?_ofPairs_map filters.constName
    (fun value => (⟨filters.constName value, .text value, .forSelf⟩ : Constant)) values

theorem choiceNames?_build :
    (build filters typed name values).1.choiceNames? = some (values.map filters.constName) := by
  rw [ClassModel.choiceNames?, at?_constants_build, if_pos rfl]
  rfl

/-- The value that the constant of a value has: the last one whose constant is named the same. -/
def lastNamed (value : String) : String :=
  (values.reverse.find? (filters.constName · == filters.constName value)).getD value

variable {filters typed name values} {value method : String}

theorem find?_reverse_of_mem (hv : value ∈ values) :
    values.reverse.find? (filters.constName · == filters.constName value) = some (lastNamed filters values value) := by
  have found : (values.reverse.find? (filters.constName · == filters.constName value)).isSome := by
    rw [List.find?_isSome]
    exact ⟨value, List.mem_reverse.2 hv, beq_self_eq_true _⟩
  obtain ⟨last, hl⟩ := Option.isSome_iff_exists.1 found
  rw [lastNamed, hl]
  rfl

theorem lastNamed_mem (hv : value ∈ values) : lastNamed filters values value ∈ values :=
  List.mem_reverse.1 (List.mem_of_find?_eq_some (find?_reverse_of_mem hv))

theorem constName_lastNamed (hv : value ∈ values) :
    filters.constName (lastNamed filters values value) = filters.constName value :=
  beq_iff_eq.1 (List.find?_some (find?_reverse_of_mem hv) :)

theorem privateText?_build (hv : value ∈ values) :
    (build filters typed name values).1.privateText? (filters.constName value) =
      if filters.constName value = "CHOICES" then none else some (lastNamed filters values value) := by
  rw [ClassModel.privateText?, at?_constants_build]
  by_cases h : filters.constName value = "CHOICES"
  · rw [if_pos h, if_pos h]
    rfl
  · rw [if_neg h, if_neg h, find?_reverse_of_mem hv]
    rfl

/-- What is read back from the choices. -/
theorem accepted?_build : (build filters typed name values).1.accepted? =
    if "CHOICES" ∈ values.map filters.constName then none
    else some (values.map (lastNamed filters values)) := by
  rw [ClassModel.accepted?, choiceNames?_build]
  show (values.map filters.constName).mapM _ = _
  split
  · rename_i fixed
    obtain ⟨value, hv, named⟩ := List.mem_map.1 fixed
    refine mapM_eq_none fixed ?_
    rw [← named, privateText?_build hv, if_pos named]
  · rename_i free
    rw [List.mapM_map]
    refine mapM_eq_some fun value hv => ?_
    show ClassModel.privateText? _ (filters.constName value) = _
    have unfixed : filters.constName value ≠ "CHOICES" := fun named => free (named ▸ List.mem_map_of_mem hv)
    rw [privateText?_build hv, if_neg unfixed]

/-- The choices of an enum are the names of the constants of its values, and reading the constants gives the
values back just if no two values share a constant and none takes the place of the choices. -/
theorem accepted?_build_eq_values (filters : NameFilters) (typed : Bool) (name : String) (values : List String) :
    (build filters typed name values).1.constants.at? "CHOICES" =
        some ⟨"CHOICES", .selfList (values.map filters.constName), .forAll⟩ ∧
      ((build filters typed name values).1.accepted? = some values ↔
        (∀ value ∈ values, ∀ other ∈ values, filters.constName value = filters.constName other → value = other) ∧
          ∀ value ∈ values, filters.constName value ≠ "CHOICES") := by
  refine ⟨at?_constants_build .., ?_⟩
  rw [accepted?_build]
  constructor
  · intro read
    split at read
    · cases read
    rename_i free
    have own : ∀ value ∈ values, lastNamed filters values value = value := by
      have same : values.map (lastNamed filters values) = values.map id := by
        rw [List.map_id]
        exact Option.some.inj read
      exact List.map_inj_left.1 same
    refine ⟨fun value hv other ho shared => ?_, fun value hv named => free (named ▸ List.mem_map_of_mem hv)⟩
    have last : lastNamed filters values value = lastNamed filters values other :=
      Option.some.inj (by rw [← find?_reverse_of_mem hv, ← find?_reverse_of_mem ho, shared])
    rw [← own value hv, last, own other ho]
  · rintro ⟨apart, free⟩
    have own : ∀ value ∈ values, lastNamed filters values value = value := fun value hv =>
      apart _ (lastNamed_mem hv) _ hv (constName_lastNamed hv)
    have unfixed : "CHOICES" ∉ values.map filters.constName := by
      intro fixed
      obtain ⟨value, hv, named⟩ := List.mem_map.1 fixed
      exact free value hv named
    rw [if_neg unfixed, List.map_congr_left own, List.map_id']

/-! ## Named constructors -/

/-- The values whose named constructors would have a name, in order. -/
def namesakes (filters : NameFilters) (method : String) (values : List String) : List String :=
  values.filter (filters.constValue · == method)

theorem namesakes_cons (value : String) (rest : List String) : namesakes filters method (value :: rest) =
    if filters.constValue value = method then value :: namesakes filters method rest
    else namesakes filters method rest := by
  simp [namesakes, List.filter_cons]

section AddChoices

variable {c : ClassModel} {rest : List String}

theorem addChoices_cons_taken (taken : c.hasMethod (filters.constValue value) = true) :
    addChoices filters (value :: rest) c = ((addChoices filters rest c).1,
      .enumValueSkipped value (filters.constValue value) :: (addChoices filters rest c).2) :=
  if_pos taken

theorem addChoices_cons_free (free : c.hasMethod (filters.constValue value) = false) :
    addChoices filters (value :: rest) c = addChoices filters rest (c.addMethod (choiceConstructor filters value)) :=
  if_neg (Bool.eq_false_iff.1 free)

end AddChoices

/-- The first value of a name gets the named constructor, unless the name is taken. -/
theorem at?_addChoices : ∀ (values : List String) (c : ClassModel),
    (addChoices filters values c).1.methods.at? method =
      (c.methods.at? method).or ((namesakes filters method values).head?.map (choiceConstructor filters))
  | [], c => (Option.or_none ..).symm
  | value :: rest, c => by
    rw [namesakes_cons]
    cases taken : c.hasMethod (filters.constValue value) with
    | true =>
      rw [addChoices_cons_taken taken, at?_addChoices rest c]
      split
      -- the name is taken in `c` already, so that no value gets it
      · rename_i own
        obtain ⟨earlier, he⟩ := Option.isSome_iff_exists.1 (own ▸ taken : c.hasMethod method = true)
        rw [he]
        rfl
      · rfl
    | false =>
      rw [addChoices_cons_free taken, at?_addChoices rest, ClassModel.at?_addMethod]
      split
      · rename_i own
        have own : filters.constValue value = method := own.symm
        have none : c.methods.at? method = none := Option.not_isSome_iff_eq_none.1 (Bool.eq_false_iff.1 (own ▸ taken))
        rw [if_pos own, none]
        rfl
      · rename_i other
        have other : filters.constValue value ≠ method := fun own => other own.symm
        rw [if_neg other]

/-- A value is skipped if the name of its constructor is taken, by a method or by an earlier value. -/
theorem mem_addChoices_skipped : ∀ (values : List String) (c : ClassModel),
    .enumValueSkipped value method ∈ (addChoices filters values c).2 ↔ value ∈ namesakes filters method values ∧
      (c.hasMethod method = true ∨ value ∈ (namesakes filters method values).tail)
  | [], c => by simp [addChoices, namesakes]
  | first :: rest, c => by
    rw [namesakes_cons]
    cases taken : c.hasMethod (filters.constValue first) with
    | true =>
      rw [addChoices_cons_taken taken, List.mem_cons, mem_addChoices_skipped rest c]
      split
      · rename_i own
        subst own
        simp [taken]
      · rename_i other
        simp [Ne.symm other]
    | false =>
      rw [addChoices_cons_free taken, mem_addChoices_skipped rest, hasMethod_addMethod]
      split
      · rename_i own
        subst own
        simpa [taken, choiceConstructor, Method.namedConstructor] using Or.inr
      · rename_i other
        simp [Ne.symm other, choiceConstructor, Method.namedConstructor]

theorem exists_skipped_of_mem {e : Event} : ∀ {values : List String} {c : ClassModel},
    e ∈ (addChoices filters values c).2 → ∃ value method, e = .enumValueSkipped value method
  | [], _, h => by cases h
  | value :: rest, c, h => by
    cases taken : c.hasMethod (filters.constValue value) with
    | true =>
      rw [addChoices_cons_taken taken] at h
      rcases List.mem_cons.1 h with rfl | h
      · exact ⟨_, _, rfl⟩
      · exact exists_skipped_of_mem h
    | false =>
      rw [addChoices_cons_free taken] at h
      exact exists_skipped_of_mem h

/-! ## The methods of the template -/

/-- The methods that an enum has whatever its values are. -/
def templateMethods (filters : NameFilters) (name : String) : List Method :=
  let field := filters.propertyName name
  fromNative "fromString" "string" field :: closingMethods filters name field

/-- The names of the methods that come behind the named constructors. -/
def closingNames : List String := ["__construct", "toString", "equals", "isOneOf", "__toString"]

theorem names_closingMethods (filters : NameFilters) (name field : String) :
    (closingMethods filters name field).map (·.name) = closingNames := rfl

theorem find?_closingMethods {m : Method} {field : String} (hm : m ∈ closingMethods filters name field) :
    (closingMethods filters name field).reverse.find? (·.name == m.name) = some m := by
  simp only [closingMethods, List.mem_cons, List.not_mem_nil, or_false] at hm
  rcases hm with rfl | rfl | rfl | rfl | rfl <;> rfl

theorem equalsField_mem_closingMethods (filters : NameFilters) (name field : String) :
    equalsField field ∈ closingMethods filters name field :=
  List.mem_cons_of_mem _ (List.mem_cons_of_mem _ List.mem_cons_self)

theorem find?_closingMethods_eq_none {field : String} (other : method ∉ closingNames) :
    (closingMethods filters name field).reverse.find? (·.name == method) = none := by
  rw [List.find?_eq_none]
  intro m hm named
  rw [← names_closingMethods filters name field] at other
  exact other (List.mem_map.2 ⟨m, List.mem_reverse.1 hm, beq_iff_eq.1 named⟩)

/-- What the class has before its values get named constructors. -/
theorem at?_addMethod_fromNative {ks : List Constant} {k : Constant} {p : Property} {m : Method} :
    (((((ks.foldl ClassModel.addConstant (.valueObject (.enum name) typed)).addConstant k).addProperty p).addMethod
      m).methods.at? method) = if method = m.name then some m else none := by
  rw [ClassModel.at?_addMethod]
  show (if _ then _ else (List.foldl ClassModel.addConstant _ _).methods.at? method) = _
  rw [ClassModel.foldl_addConstant_eq]
  rfl

/-- The methods behind the named constructors come before all others, and `fromString` comes before a named
constructor, which is that of the first value of its name. -/
theorem at?_methods_build : (build filters typed name values).1.methods.at? method =
    ((closingMethods filters name (filters.propertyName name)).reverse.find? (·.name == method)).or
      (if method = "fromString" then some (fromNative "fromString" "string" (filters.propertyName name))
      else (namesakes filters method values).head?.map (choiceConstructor filters)) := by
  unfold build
  simp only
  rw [ClassModel.at?_addMethods, at?_addChoices, at?_addMethod_fromNative]
  congr 1
  show Option.or (if method = "fromString" then _ else _) _ = _
  split <;> rfl

theorem at?_build_closing {m : Method} (hm : m ∈ closingMethods filters name (filters.propertyName name)) :
    (build filters typed name values).1.methods.at? m.name = some m := by
  rw [at?_methods_build, find?_closingMethods hm]
  rfl

theorem at?_build (other : method ∉ closingNames) : (build filters typed name values).1.methods.at? method =
    if method = "fromString" then some (fromNative "fromString" "string" (filters.propertyName name))
    else (namesakes filters method values).head?.map (choiceConstructor filters) := by
  rw [at?_methods_build, find?_closingMethods_eq_none other, Option.none_or]

theorem at?_build_template {m : Method} (hm : m ∈ templateMethods filters name) :
    (build filters typed name values).1.methods.at? m.name = some m := by
  rcases List.mem_cons.1 hm with rfl | hm
  · have other : "fromString" ∉ closingNames := by decide
    exact (at?_build other).trans (if_pos rfl)
  · exact at?_build_closing hm

theorem mem_build_skipped : .enumValueSkipped value method ∈ (build filters typed name values).2 ↔
    value ∈ namesakes filters method values ∧
      (method = "fromString" ∨ value ∈ (namesakes filters method values).tail) := by
  unfold build
  simp only
  rw [mem_addChoices_skipped, ClassModel.hasMethod, Entries.hasName, at?_addMethod_fromNative]
  show _ ∧ (Option.isSome (if method = "fromString" then _ else _) = true ∨ _) ↔ _
  split <;> simp [*]

/-! ## Values without a named constructor -/

/-- The class has the named constructor of a value. -/
def HasConstructor (filters : NameFilters) (c : ClassModel) (value : String) : Prop :=
  ∃ m, c.methods.at? (filters.constValue value) = some m ∧ m.isStatic = true ∧
    m.body = [s!"return new self(self::{filters.constName value});"]

/-- Of the methods that come behind the named constructors only `equals` is named in small letters. -/
theorem constValue_mem_closingNames (h : conventionalNames.constValue value ∈ closingNames) :
    conventionalNames.constValue value = "equals" := by
  have capitalS := isLost_S.not_mem_constValue value
  have capitalO := isLost_O.not_mem_constValue value
  have front := head?_constValue_ne value
  simp only [closingNames, List.mem_cons, List.not_mem_nil, or_false] at h
  rcases h with h | h | h | h | h
  · exact absurd rfl (h ▸ front)
  · exact absurd (by decide) (h ▸ capitalS)
  · exact h
  · exact absurd (by decide) (h ▸ capitalO)
  · exact absurd rfl (h ▸ front)

/-- A value that is not skipped has its named constructor, unless a method of the template stands in its place. -/
theorem constructor_or_skipped (hv : value ∈ values) (other : filters.constValue value ∉ closingNames) :
    HasConstructor filters (build filters typed name values).1 value ∨
      .enumValueSkipped value (filters.constValue value) ∈ (build filters typed name values).2 := by
  have own : value ∈ namesakes filters (filters.constValue value) values :=
    List.mem_filter.2 ⟨hv, beq_self_eq_true _⟩
  rw [mem_build_skipped, HasConstructor, at?_build other]
  by_cases fixed : filters.constValue value = "fromString"
  · exact .inr ⟨own, .inl fixed⟩
  by_cases again : value ∈ (namesakes filters (filters.constValue value) values).tail
  · exact .inr ⟨own, .inr again⟩
  -- the only occurrence is the first value of its name
  obtain ⟨first, rest, hn⟩ := List.exists_cons_of_ne_nil (List.ne_nil_of_mem own)
  rw [hn] at own again ⊢
  obtain rfl : value = first := (List.mem_cons.1 own).resolve_right again
  exact .inl ⟨choiceConstructor filters value, if_neg fixed, rfl, rfl⟩

/-- Every value of an enum has its named constructor or is reported as skipped, but for the first value that is
named `equals`; and the methods of the template are there as they are. -/
theorem build_constructors (typed : Bool) (name : String) (values : List String) :
    (∀ value ∈ values,
      (HasConstructor conventionalNames (build conventionalNames typed name values).1 value ∨
          .enumValueSkipped value (conventionalNames.constValue value) ∈
            (build conventionalNames typed name values).2) ↔
        ¬ (conventionalNames.constValue value = "equals" ∧
          value ∉ (namesakes conventionalNames "equals" values).tail)) ∧
      ∀ m ∈ templateMethods conventionalNames name,
        (build conventionalNames typed name values).1.methods.at? m.name = some m := by
  refine ⟨fun value hv => ⟨?_, fun kept => ?_⟩, fun m hm => at?_build_template hm⟩
  · rintro (⟨m, hm, made, -⟩ | skipped) ⟨named, once⟩
    -- the method of that name is the template's, which is not static
    · have there : (build conventionalNames typed name values).1.methods.at? "equals" =
          some (equalsField (conventionalNames.propertyName name)) :=
        at?_build_closing (equalsField_mem_closingMethods conventionalNames name _)
      rw [named, there] at hm
      cases hm
      cases made
    · rw [named, mem_build_skipped] at skipped
      exact skipped.2.elim (fun fixed => absurd fixed (by decide)) once
  · by_cases closing : conventionalNames.constValue value ∈ closingNames
    · have named := constValue_mem_closingNames closing
      have again : value ∈ (namesakes conventionalNames "equals" values).tail :=
        by_contra fun once => kept ⟨named, once⟩
      rw [named, mem_build_skipped]
      exact .inr ⟨List.mem_of_mem_tail again, .inr again⟩
    · exact constructor_or_skipped hv closing

end Template.Enum

end SchemaClasses
