/-
What it does to its file when a class is replaced by one of the same shape. Shapes are compared without regard to order,
while a file shows imports and members in their order: the text stays if and only if every part of the file that has an
order of its own stays.
-/
import SchemaClasses.Proofs.Class.Reordered
import SchemaClasses.Proofs.Source.CustomLines

namespace SchemaClasses

open Member

namespace Source

variable {c c' : ClassModel} {xs ys : List String}

/-! ## Texts of the same lengths -/

/-- Texts of known lengths can be told from what they make together. -/
theorem join_inj : ∀ {xs ys : List String}, xs.map String.length = ys.map String.length →
    (String.join xs = String.join ys ↔ xs = ys)
  | [], [], _ => by simp
  | x :: xs, y :: ys, lengths => by
    obtain ⟨first, others⟩ := List.cons_eq_cons.1 lengths
    refine ⟨fun h => ?_, fun h => h ▸ rfl⟩
    rw [String.join_cons, String.join_cons, ← String.toList_inj, String.toList_append, String.toList_append] at h
    obtain ⟨front, rest⟩ := List.append_inj h (by rwa [String.length_toList, String.length_toList])
    rw [String.toList_inj] at front rest
    rw [front, (join_inj others).1 rest]

theorem length_endedLines_cons (line : String) (xs : List String) :
    (endedLines (line :: xs)).length = line.length + 1 + (endedLines xs).length := by
  rw [endedLines_cons, String.length_append, String.length_append]
  rfl

theorem length_endedLines_of_perm (h : xs.Perm ys) : (endedLines xs).length = (endedLines ys).length := by
  induction h with
  | nil => rfl
  | cons line _ ih => rw [length_endedLines_cons, length_endedLines_cons, ih]
  | swap line other xs =>
    rw [length_endedLines_cons, length_endedLines_cons, length_endedLines_cons, length_endedLines_cons]
    omega
  | trans _ _ ih ih' => exact ih.trans ih'

/-! ## Parts of a file -/

def importLines (c : ClassModel) : List String := (usedImports c).map fun fqcn => "use " ++ fqcn ++ ";"

/-- The parts of a file that have an order of their own: imports, constants, properties and methods. -/
def orderedParts (c : ClassModel) : List (List String) :=
  [importLines c, c.constants.values.flatMap constantLines, c.properties.values.flatMap (propertyLines c.typed),
    c.methods.values.flatMap (methodLines c.typed)]

/-- What these parts look like. -/
def orderedTexts (c : ClassModel) : List String := (orderedParts c).map endedLines

/-- What stands before the imports. -/
def opening (c : ClassModel) : List String :=
  ["<?php", ""] ++
    (if c.isStrict then ["declare (strict_types=1);"] else []) ++
    (if c.space = "" then [] else ["namespace " ++ c.space ++ ";"]) ++
    (if c.isStrict || c.space != "" then [""] else [])

/-- The texts that make a file. -/
def fileTexts (c : ClassModel) (members : List Member) : List String :=
  [endedLines (opening c), endedLines (importLines c), endedLines [classHead c, "\x7b"],
    endedLines (c.constants.values.flatMap constantLines),
    endedLines (c.properties.values.flatMap (propertyLines c.typed)),
    endedLines (c.methods.values.flatMap (methodLines c.typed)),
    endedLines (customLines (keptMembers c members) ++ ["\x7d"])]

theorem renderClass_eq_join (c : ClassModel) (members : List Member) :
    renderClass c members = String.join (fileTexts c members) := by
  have parts : fileLines c members = opening c ++ (importLines c ++ ([classHead c, "\x7b"] ++
      (c.constants.values.flatMap constantLines ++ (c.properties.values.flatMap (propertyLines c.typed) ++
        (c.methods.values.flatMap (methodLines c.typed) ++ (customLines (keptMembers c members) ++ ["\x7d"])))))) := by
    simp only [fileLines, memberLines, preamble, opening, importLines, List.append_assoc]
  rw [renderClass, parts]
  simp only [endedLines_append, fileTexts, String.join_cons, String.join_nil, String.append_empty]

/-! ## Classes of the same shape -/

theorem keptMembers_of_reordered (h : c.Reordered c') (tidy : c.Tidy) (constants : c.constants.Distinct)
    (members : List Member) : keptMembers c' members = keptMembers c members := by
  unfold keptMembers declares
  refine List.filter_congr fun m _ => ?_
  have properties : c.hasProperty m.name = c'.hasProperty m.name :=
    congrArg Option.isSome (Entries.at?_perm tidy.properties h.properties)
  have constants : c.hasConstant m.name = c'.hasConstant m.name :=
    congrArg Option.isSome (Entries.at?_perm constants h.constants)
  rw [h.hasMethod_eq tidy, properties, constants]

theorem perm_usedImports (h : c.Reordered c') : (usedImports c).Perm (usedImports c') := by
  unfold usedImports
  rw [h.space]
  exact h.imports.filter _

/-- The file of a class keeps its text in another order if and only if all parts that have an order of their own keep
theirs, whatever was written into it by hand. -/
theorem renderClass_eq_iff (h : c.Reordered c') (tidy : c.Tidy) (constants : c.constants.Distinct)
    (members : List Member) : renderClass c' members = renderClass c members ↔ orderedTexts c' = orderedTexts c := by
  have opening_eq : opening c' = opening c := by
    unfold opening
    rw [h.isStrict, h.space]
  have head_eq : classHead c' = classHead c := by
    unfold classHead
    rw [h.isFinal, h.name, h.parent, h.interfaces]
  have typed := h.typed
  -- in any order each part takes the same room, so it stands in the same place of the file
  have lengths : (fileTexts c' members).map String.length = (fileTexts c members).map String.length := by
    unfold fileTexts
    rw [opening_eq, head_eq, keptMembers_of_reordered h tidy constants, typed]
    have imports := length_endedLines_of_perm ((perm_usedImports h).map fun fqcn => "use " ++ fqcn ++ ";")
    have constants := length_endedLines_of_perm ((h.constants.map Prod.snd).flatMap_right constantLines)
    have properties := length_endedLines_of_perm ((h.properties.map Prod.snd).flatMap_right (propertyLines c'.typed))
    have methods := length_endedLines_of_perm ((h.methods.map Prod.snd).flatMap_right (methodLines c'.typed))
    simp only [List.map_cons, List.map_nil, List.cons.injEq, and_true, true_and]
    exact ⟨imports.symm, constants.symm, properties.symm, methods.symm⟩
  rw [renderClass_eq_join, renderClass_eq_join, join_inj lengths]
  unfold fileTexts orderedTexts orderedParts
  rw [opening_eq, head_eq, keptMembers_of_reordered h tidy constants]
  simp only [List.map_cons, List.map_nil, List.cons.injEq, and_true, true_and]

/-! ## Members told apart -/

/-- Lines whose text declares a name before any other. -/
def Tells (xs : List String) (name : String) : Prop := (lines (endedLines xs)).findSome? declaredName? = some name

instance {name : String} : Decidable (Tells xs name) := inferInstanceAs (Decidable (_ = _))

/-- Each import is one line, and each member tells the name under which it stands. -/
structure Legible (c : ClassModel) : Prop where
  imports : ∀ fqcn ∈ usedImports c, '\n' ∉ fqcn.toList
  constants : ∀ entry ∈ c.constants, Tells (constantLines entry.2) entry.1
  properties : ∀ entry ∈ c.properties, Tells (propertyLines c.typed entry.2) entry.1
  methods : ∀ entry ∈ c.methods, Tells (methodLines c.typed entry.2) entry.1

/-- Two classes that list what their files show in one order. -/
structure SameOrder (c c' : ClassModel) : Prop where
  imports : usedImports c = usedImports c'
  constants : c.constants = c'.constants
  properties : c.properties = c'.properties
  methods : c.methods = c'.methods

theorem Tells.head_eq {name name' : String} {xs' ys' : List String} (h : Tells xs name) (h' : Tells xs' name')
    (same : endedLines (xs ++ ys) = endedLines (xs' ++ ys')) : name = name' := by
  have read := congrArg (fun text => (lines text).findSome? declaredName?) same
  simp only [lines_endedLines_append, List.findSome?_append] at read
  rw [h, h', Option.some_or, Option.some_or] at read
  exact Option.some.inj read

/-- Members that tell their names stand in the order in which their texts do. -/
theorem eq_of_text {α : Type} {write : α → List String} : ∀ {entries entries' : Entries α}, entries.Perm entries' →
    entries.Distinct → (∀ entry ∈ entries, Tells (write entry.2) entry.1) →
    endedLines (entries.values.flatMap write) = endedLines (entries'.values.flatMap write) → entries = entries'
  | [], _, perm, _, _, _ => (List.nil_perm.1 perm).symm
  | _ :: _, [], perm, _, _, _ => absurd perm.symm (by simp)
  | (name, value) :: rest, (name', value') :: rest', perm, distinct, tells, same => by
    have there : (name', value') ∈ (name, value) :: rest := perm.mem_iff.2 List.mem_cons_self
    -- the first names are read from one text
    have first : name = name' := (tells _ List.mem_cons_self).head_eq (tells _ there) same
    subst first
    have second : value' = value := by
      have found := Entries.at?_of_mem distinct there
      rw [Entries.at?_of_mem distinct List.mem_cons_self] at found
      exact (Option.some.inj found).symm
    subst second
    have others : endedLines ((Entries.values rest).flatMap write) =
        endedLines ((Entries.values rest').flatMap write) := by
      have texts : endedLines (write value' ++ (Entries.values rest).flatMap write) =
          endedLines (write value' ++ (Entries.values rest').flatMap write) := same
      rwa [endedLines_append, endedLines_append, String.append_right_inj] at texts
    have further := fun entry he => tells entry (List.mem_cons_of_mem _ he)
    rw [eq_of_text perm.cons_inv (List.nodup_cons.1 distinct).2 further others]

theorem usedImports_eq_of_text (apart : ∀ fqcn ∈ usedImports c, '\n' ∉ fqcn.toList)
    (perm : (usedImports c).Perm (usedImports c')) (same : endedLines (importLines c) = endedLines (importLines c')) :
    usedImports c = usedImports c' := by
  have one : ∀ fqcns : List String, (∀ fqcn ∈ fqcns, '\n' ∉ fqcn.toList) →
      ∀ line ∈ fqcns.map fun fqcn => "use " ++ fqcn ++ ";", '\n' ∉ line.toList := by
    intro fqcns apart line hl
    obtain ⟨fqcn, hf, rfl⟩ := List.mem_map.1 hl
    simpa using apart fqcn hf
  have lines_eq := (endedLines_inj (one _ apart) (one _ fun fqcn hf => apart fqcn (perm.mem_iff.2 hf))).1 same
  exact List.map_injective_iff.2 (fun a b h => by simpa using h) lines_eq

theorem SameOrder.orderedTexts_eq (h : SameOrder c c') (typed : c.typed = c'.typed) :
    orderedTexts c' = orderedTexts c := by
  unfold orderedTexts orderedParts importLines
  rw [h.imports, h.constants, h.properties, h.methods, typed]

/-- Where members tell their names, their order can be told from the file. -/
theorem sameOrder_of_orderedTexts (h : c.Reordered c') (tidy : c.Tidy) (constants : c.constants.Distinct)
    (legible : Legible c) (same : orderedTexts c' = orderedTexts c) : SameOrder c c' := by
  unfold orderedTexts orderedParts at same
  simp only [List.map_cons, List.map_nil, List.cons.injEq, and_true] at same
  rw [← h.typed] at same
  obtain ⟨imports, constantTexts, properties, methods⟩ := same
  exact ⟨usedImports_eq_of_text legible.imports (perm_usedImports h) imports.symm,
    eq_of_text h.constants constants legible.constants constantTexts.symm,
    eq_of_text h.properties tidy.properties legible.properties properties.symm,
    eq_of_text h.methods tidy.methods legible.methods methods.symm⟩

end Source

/-! ## Silent replacements -/

open Source

namespace Collection

variable {c : Collection} {m old : ClassModel}

/-- A class that is added in silence under a name that is taken replaces one that differs from it in order at most, and
leaves all other classes. The files stay as they are, whatever was written into them by hand, if and only if the written
imports, the constants, the properties and the methods of the two look the same. They do so in the same order, and where
all members tell their names, in no other order. -/
theorem renderClass_add_silent (silent : c.addEvents m = []) (there : c.get? m.fqcn = some old) (tidy : old.Tidy)
    (constants : old.constants.Distinct) :
    (c.add m).names = c.names ∧ (c.add m).get? m.fqcn = some m ∧ old.Reordered m ∧
      (∀ members, (∀ fqcn, ((c.add m).get? fqcn).map (renderClass · members) =
          (c.get? fqcn).map (renderClass · members)) ↔ orderedTexts m = orderedTexts old) ∧
      (SameOrder old m → orderedTexts m = orderedTexts old) ∧
      (Legible old → orderedTexts m = orderedTexts old → SameOrder old m) := by
  have reordered : old.Reordered m := ClassModel.reordered_of_distinct tidy constants (sameShape_of_silent silent there)
  refine ⟨?_, get?_add_self, reordered, fun members => ?_, fun same => same.orderedTexts_eq reordered.typed,
    sameOrder_of_orderedTexts reordered tidy constants⟩
  · rw [names_add, if_pos (contains_iff_mem_names.1 (contains_of_get? there))]
  · rw [← renderClass_eq_iff reordered tidy constants members]
    constructor
    · intro same
      have here := same m.fqcn
      rw [get?_add_self, there] at here
      exact Option.some.inj here
    · intro same fqcn
      rw [get?_add]
      split
      · rename_i here
        rw [here, there]
        exact congrArg some same
      · rfl

/-- An entity with two texts. -/
def pairOf (first second : String) : ClassModel :=
  ((ClassModel.entity "R" "App").addProperty { name := first, typeHint := "Text" }).addProperty
    { name := second, typeHint := "Text" }

/-- An entity is replaced in silence by one with its properties in another order, and so its file is another one,
whatever was written into it. -/
theorem renderClass_add_silent_pairOf : (({} : Collection).add (pairOf "a" "b")).addEvents (pairOf "b" "a") = [] ∧
    ∀ members, ∃ fqcn, (((({} : Collection).add (pairOf "a" "b")).add (pairOf "b" "a")).get? fqcn).map
        (renderClass · members) ≠
      ((({} : Collection).add (pairOf "a" "b")).get? fqcn).map (renderClass · members) := by
  have silent : (({} : Collection).add (pairOf "a" "b")).addEvents (pairOf "b" "a") = [] := by decide +kernel
  have legible : Legible (pairOf "a" "b") :=
    ⟨by decide +kernel, by decide +kernel, by decide +kernel, by decide +kernel⟩
  have orderly : (pairOf "a" "b").Orderly := (ClassModel.orderly_entity.addProperty _).addProperty _
  obtain ⟨-, -, -, files, -, order⟩ := renderClass_add_silent silent get?_add_self orderly.toTidy orderly.constants
  refine ⟨silent, fun members => ?_⟩
  by_contra same
  simp only [not_exists, not_not] at same
  have exchanged := (order legible ((files members).1 same)).properties
  revert exchanged
  decide +kernel

end Collection

end SchemaClasses
