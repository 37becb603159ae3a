/-
Classes found again by their short names. A qualified name falls into what it was made of, so that a class
imports what lies in another namespace than its own, and that only, and finds it again either way.
-/
import SchemaClasses.Class.RawArray
import SchemaClasses.Proofs.Class.Basic
import SchemaClasses.Proofs.Class.Name
import SchemaClasses.Source.Render

namespace SchemaClasses

open Text

variable {m : ClassModel} {space name : String}

/-! ## Imports -/

/-- What lies in another namespace is imported, once and behind what was imported before. -/
theorem addImport_qualify (h : IsShort name) : m.addImport (qualify space name) =
    if trimBackslashes space = m.space then m
    else { m with imports := if qualify space name ∈ m.imports then m.imports
                             else m.imports ++ [qualify space name] } := by
  by_cases own : trimBackslashes space = m.space
  · rw [if_pos own]
    exact ClassModel.addImport_of_eq ((namespaceOf_qualify h).trans own)
  · rw [if_neg own, ClassModel.addImport_of_ne fun he => own ((namespaceOf_qualify h).symm.trans he)]
    unfold ClassModel.requireImport
    simp only [withoutLeadingBackslashes_qualify h]
    split <;> rfl

/-- Whatever a class imported before, what is added stands among its written imports if and only if it lies in another
namespace. -/
theorem mem_usedImports_addImport (h : IsShort name) :
    qualify space name ∈ Source.usedImports (m.addImport (qualify space name)) ↔ trimBackslashes space ≠ m.space := by
  unfold Source.usedImports
  rw [List.mem_filter, bne_iff_ne, ClassModel.mem_addImport (withoutLeadingBackslashes_qualify h),
    ClassModel.space_addImport, namespaceOf_qualify h]
  constructor
  · exact fun ⟨_, hn⟩ => hn
  · exact fun hn => ⟨.inr ⟨rfl, hn⟩, hn⟩

/-! ## Short names -/

/-- A short name stands for the class that was called by it, unless an earlier import has that name. -/
theorem importedOrLocal_addImport (h : IsShort name) : importedOrLocal (m.addImport (qualify space name)) name =
    (m.imports.find? fun fqcn => shortName fqcn == name).getD (qualify space name) := by
  unfold importedOrLocal
  rw [addImport_qualify h]
  by_cases own : trimBackslashes space = m.space
  · rw [if_pos own, ← own, qualify_trimBackslashes]
  · have called : (shortName (qualify space name) == name) = true := beq_iff_eq.2 (shortName_qualify h)
    rw [if_neg own]
    simp only
    split
    · -- the class is among the imports of that name, so that the own namespace does not count
      rename_i imported
      have taken : (m.imports.find? fun fqcn => shortName fqcn == name).isSome :=
        List.find?_isSome.2 ⟨qualify space name, imported, called⟩
      obtain ⟨found, hf⟩ := Option.isSome_iff_exists.1 taken
      rw [hf]
      rfl
    · rw [List.find?_append, List.find?_singleton, if_pos called]
      cases m.imports.find? fun fqcn => shortName fqcn == name with
      | none => rfl
      | some found => rfl

/-- Qualified names are taken apart and put together again without loss, and because of that imports and look-ups
agree, whatever backslashes stand around a namespace: a class imports another one if and only if that lies in another
namespace, and finds it again if no other import has its short name. -/
theorem qualified_names_agree :
    (∀ space name, IsShort name → splitFqcn (qualify space name) = (trimBackslashes space, name)) ∧
    (∀ fqcn, IsGapless fqcn → qualify (splitFqcn fqcn).1 (splitFqcn fqcn).2 = fqcn) ∧
    ∀ (m : ClassModel) (space name : String), IsShort name →
      (m.addImport (qualify space name) =
        if trimBackslashes space = m.space then m
        else { m with imports := if qualify space name ∈ m.imports then m.imports
                                 else m.imports ++ [qualify space name] }) ∧
      (qualify space name ∈ Source.usedImports (m.addImport (qualify space name)) ↔
        trimBackslashes space ≠ m.space) ∧
      ((∀ other ∈ m.imports, shortName other = name → other = qualify space name) →
        importedOrLocal (m.addImport (qualify space name)) name = qualify space name) := by
  refine ⟨fun _ _ => splitFqcn_qualify, fun _ => qualify_splitFqcn, fun m space name h =>
    ⟨addImport_qualify h, mem_usedImports_addImport h, fun only => ?_⟩⟩
  rw [importedOrLocal_addImport h]
  cases hf : m.imports.find? fun fqcn => shortName fqcn == name with
  | none => rfl
  | some other =>
    have named := List.find?_some hf
    rw [beq_iff_eq] at named
    exact only other (List.mem_of_find?_eq_some hf) named

/-- An order that knows a class of its own namespace and two others by imports. -/
def importingOrder : ClassModel :=
  { ClassModel.entity "Order" "Acme" with imports := ["Acme\\Status", "DateTimeImmutable", "Acme\\Geo\\City"] }

/-- A town is imported, and the status is found again through the import that was there. -/
theorem qualified_names_agree_town :
    splitFqcn (qualify "\\Acme\\Geo\\" "Town") = ("Acme\\Geo", "Town") ∧
    qualify (splitFqcn "Acme\\Geo\\City").1 (splitFqcn "Acme\\Geo\\City").2 = "Acme\\Geo\\City" ∧
    (importingOrder.addImport (qualify "\\Acme\\Geo\\" "Town")).imports =
      ["Acme\\Status", "DateTimeImmutable", "Acme\\Geo\\City", "Acme\\Geo\\Town"] ∧
    qualify "\\Acme\\Geo\\" "Town" ∈
      Source.usedImports (importingOrder.addImport (qualify "\\Acme\\Geo\\" "Town")) ∧
    importedOrLocal (importingOrder.addImport (qualify "\\Acme\\Geo\\" "Town")) "Town" = "Acme\\Geo\\Town" ∧
    importedOrLocal (importingOrder.addImport (qualify "Acme" "Status")) "Status" = "Acme\\Status" := by
  obtain ⟨split, joined, imported⟩ := qualified_names_agree
  obtain ⟨added, written, found⟩ := imported importingOrder "\\Acme\\Geo\\" "Town" (by decide)
  obtain ⟨-, -, known⟩ := imported importingOrder "Acme" "Status" (by decide)
  refine ⟨(split _ _ (by decide)).trans (by decide +kernel), joined _ (by decide), ?_, written.2 (by decide +kernel),
    (found (by decide +kernel)).trans (by decide +kernel), (known (by decide +kernel)).trans (by decide +kernel)⟩
  rw [added]
  decide +kernel

end SchemaClasses
