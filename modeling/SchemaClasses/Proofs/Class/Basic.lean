/-
Laws of classes: no name and no import comes twice, and classes of the same shape have the same
members and imports in some order.
-/
import SchemaClasses.Class.Basic
import SchemaClasses.Proofs.Entries

namespace SchemaClasses.ClassModel

variable {c c' : ClassModel} {fqcn name : String}

/-! ## Tidy classes -/

/-- No import, property or method comes twice. -/
structure Tidy (c : ClassModel) : Prop where
  imports : c.imports.Nodup
  properties : c.properties.Distinct
  methods : c.methods.Distinct

theorem Tidy.requireImport (h : c.Tidy) : (c.requireImport fqcn).Tidy := by
  unfold ClassModel.requireImport
  simp only
  split
  · exact h
  · rename_i hn
    refine ⟨List.nodup_append.2 ⟨h.imports, List.nodup_singleton _, ?_⟩, h.properties, h.methods⟩
    rintro a ha b hb rfl
    exact hn (List.mem_singleton.1 hb ▸ ha)

theorem Tidy.addImport (h : c.Tidy) : (c.addImport fqcn).Tidy := by
  unfold ClassModel.addImport
  split
  · exact h
  · exact h.requireImport

theorem Tidy.addProperty (h : c.Tidy) (p : Property) : (c.addProperty p).Tidy :=
  ⟨h.imports, h.properties.put, h.methods⟩

theorem Tidy.addMethod (h : c.Tidy) (m : Method) : (c.addMethod m).Tidy :=
  ⟨h.imports, h.properties, h.methods.put⟩

theorem Tidy.addConstant (h : c.Tidy) (k : Constant) : (c.addConstant k).Tidy :=
  ⟨h.imports, h.properties, h.methods⟩

theorem tidy_entity {space : String} : (entity name space).Tidy :=
  ⟨List.nodup_nil, Entries.distinct_nil, Entries.distinct_nil⟩

/-! ## What stays the same -/

theorem requireImport_eq : c.requireImport fqcn = { c with imports := (c.requireImport fqcn).imports } := by
  unfold ClassModel.requireImport
  simp only
  split <;> rfl

theorem addImport_eq : c.addImport fqcn = { c with imports := (c.addImport fqcn).imports } := by
  unfold ClassModel.addImport
  split
  · rfl
  · exact requireImport_eq

section AddImport

variable (c : ClassModel) (fqcn : String)

@[simp] theorem name_addImport : (c.addImport fqcn).name = c.name := by rw [addImport_eq]

@[simp] theorem kind_addImport : (c.addImport fqcn).kind = c.kind := by rw [addImport_eq]

@[simp] theorem space_addImport : (c.addImport fqcn).space = c.space := by rw [addImport_eq]

@[simp] theorem fqcn_addImport : (c.addImport fqcn).fqcn = c.fqcn := by
  rw [addImport_eq]
  rfl

@[simp] theorem properties_addImport : (c.addImport fqcn).properties = c.properties := by rw [addImport_eq]

@[simp] theorem methods_addImport : (c.addImport fqcn).methods = c.methods := by rw [addImport_eq]

end AddImport

theorem addMethods_eq : ∀ (ms : List Method) (c : ClassModel),
    c.addMethods ms = { c with methods := (c.addMethods ms).methods }
  | [], _ => rfl
  | m :: rest, c => by
    show (c.addMethod m).addMethods rest = _
    rw [addMethods_eq rest]
    rfl

theorem foldl_addConstant_eq : ∀ (ks : List Constant) (c : ClassModel),
    ks.foldl addConstant c = { c with constants := (ks.foldl addConstant c).constants }
  | [], _ => rfl
  | k :: rest, c => by
    rw [List.foldl_cons, foldl_addConstant_eq rest]
    rfl

/-! ## Members put one by one -/

theorem methods_addMethods : ∀ (ms : List Method) (c : ClassModel), (c.addMethods ms).methods =
    (ms.map fun m => (m.name, m)).foldl (fun entries pair => entries.put pair.1 pair.2) c.methods
  | [], _ => rfl
  | m :: rest, c => methods_addMethods rest (c.addMethod m)

theorem constants_foldl_addConstant : ∀ (ks : List Constant) (c : ClassModel), (ks.foldl addConstant c).constants =
    (ks.map fun k => (k.name, k)).foldl (fun entries pair => entries.put pair.1 pair.2) c.constants
  | [], _ => rfl
  | k :: rest, c => constants_foldl_addConstant rest (c.addConstant k)

/-! ## Imports -/

theorem mem_requireImport {other : String} : other ∈ (c.requireImport fqcn).imports ↔
    other ∈ c.imports ∨ other = withoutLeadingBackslashes fqcn := by
  unfold ClassModel.requireImport
  simp only
  split
  · rename_i hm
    constructor
    · exact .inl
    · rintro (h | rfl)
      · exact h
      · exact hm
  · rw [List.mem_append, List.mem_singleton]

/-- The first import of a class is its only one. -/
theorem imports_requireImport (h : c.imports = []) : (c.requireImport fqcn).imports = [withoutLeadingBackslashes fqcn] := by
  unfold ClassModel.requireImport
  simp only [h, List.not_mem_nil, if_false]
  rfl

theorem addImport_of_eq (h : namespaceOf fqcn = c.space) : c.addImport fqcn = c := if_pos h

theorem addImport_of_ne (h : namespaceOf fqcn ≠ c.space) : c.addImport fqcn = c.requireImport fqcn := if_neg h

theorem mem_addImport {other : String} (bare : withoutLeadingBackslashes fqcn = fqcn) :
    other ∈ (c.addImport fqcn).imports ↔ other ∈ c.imports ∨ other = fqcn ∧ namespaceOf fqcn ≠ c.space := by
  by_cases own : namespaceOf fqcn = c.space
  · simp [addImport_of_eq own, own]
  · rw [addImport_of_ne own, mem_requireImport, bare]
    simp [own]

/-! ## The same shape -/

/-- Two classes with the same members and imports in some order. -/
structure Alike (c c' : ClassModel) : Prop where
  name : c.name = c'.name
  space : c.space = c'.space
  kind : c.kind = c'.kind
  imports : c.imports.Perm c'.imports
  properties : c.properties.Perm c'.properties
  methods : c.methods.Perm c'.methods

theorem perm_of_sameImports {a b : List String} (hd : a.Nodup) (h : sameImports a b = true) : a.Perm b := by
  unfold sameImports at h
  rw [Bool.and_eq_true, beq_iff_eq, List.all_eq_true] at h
  have sub : a ⊆ b := fun x hx => List.contains_iff_mem.1 (h.2 x hx)
  exact (hd.subperm sub).perm_of_length_le (Nat.le_of_eq h.1.symm)

theorem alike_of_sameShape (ht : c.Tidy) (h : c.sameShape c' = true) : Alike c c' := by
  unfold sameShape at h
  simp only [Bool.and_eq_true, beq_iff_eq] at h
  obtain ⟨⟨⟨⟨⟨⟨⟨⟨⟨⟨⟨hn, hs⟩, hk⟩, -⟩, -⟩, -⟩, -⟩, -⟩, hi⟩, -⟩, hp⟩, hm⟩ := h
  exact ⟨hn, hs, hk, perm_of_sameImports ht.imports hi, Entries.perm_of_sameEntries ht.properties hp,
    Entries.perm_of_sameEntries ht.methods hm⟩

theorem Alike.method_eq (h : Alike c c') (ht : c.Tidy) (name : String) :
    c.methods.at? name = c'.methods.at? name :=
  Entries.at?_perm ht.methods h.methods

theorem Alike.hasMethod_eq (h : Alike c c') (ht : c.Tidy) (name : String) :
    c.hasMethod name = c'.hasMethod name := by
  unfold hasMethod Entries.hasName
  rw [h.method_eq ht]

end SchemaClasses.ClassModel
