/-
Classes that are put together by adding to another one, as the templates of value objects put theirs
together from a class without members.
-/
import SchemaClasses.Class.RawArray
import SchemaClasses.Proofs.Class.Basic
import SchemaClasses.ValueObject

namespace SchemaClasses

open Template

/-! ## Adding to a class -/

/-- A class that comes from another one by adding imports and members. -/
inductive Assembled (start : ClassModel) : ClassModel → Prop
  | start : Assembled start start
  | requireImport {c : ClassModel} (fqcn : String) : Assembled start c → Assembled start (c.requireImport fqcn)
  | addProperty {c : ClassModel} (p : Property) : Assembled start c → Assembled start (c.addProperty p)
  | addMethod {c : ClassModel} (m : Method) : Assembled start c → Assembled start (c.addMethod m)
  | addConstant {c : ClassModel} (k : Constant) : Assembled start c → Assembled start (c.addConstant k)

namespace Assembled

variable {start c : ClassModel}

theorem addImport (h : Assembled start c) (fqcn : String) : Assembled start (c.addImport fqcn) := by
  unfold ClassModel.addImport
  split
  · exact h
  · exact h.requireImport fqcn

theorem addMethods : ∀ (ms : List Method) {c : ClassModel}, Assembled start c → Assembled start (c.addMethods ms)
  | [], _, h => h
  | m :: rest, _, h => addMethods rest (h.addMethod m)

theorem addConstants : ∀ (ks : List Constant) {c : ClassModel}, Assembled start c →
    Assembled start (ks.foldl ClassModel.addConstant c)
  | [], _, h => h
  | k :: rest, _, h => addConstants rest (h.addConstant k)

theorem addChoices (filters : NameFilters) : ∀ (values : List String) {c : ClassModel}, Assembled start c →
    Assembled start (Enum.addChoices filters values c).1
  | [], _, h => h
  | value :: rest, c, h => by
    unfold Enum.addChoices
    simp only
    split
    · exact addChoices filters rest h
    · exact addChoices filters rest (h.addMethod _)

theorem tidy (h : Assembled start c) (hs : start.Tidy) : c.Tidy := by
  induction h with
  | start => exact hs
  | requireImport _ _ ih => exact ih.requireImport
  | addProperty p _ ih => exact ih.addProperty p
  | addMethod m _ ih => exact ih.addMethod m
  | addConstant k _ ih => exact ih.addConstant k

/-- Nothing takes a method away. -/
theorem hasMethod {name : String} (h : Assembled start c) (hs : start.hasMethod name = true) :
    c.hasMethod name = true := by
  induction h with
  | start => exact hs
  | requireImport _ _ ih =>
    rw [ClassModel.requireImport_eq]
    exact ih
  | addProperty _ _ ih => exact ih
  | addMethod _ _ ih => rw [hasMethod_addMethod, ih, Bool.or_true]
  | addConstant _ _ ih => exact ih

theorem kind_eq (h : Assembled start c) : c.kind = start.kind := by
  induction h with
  | start => rfl
  | requireImport _ _ ih =>
    rw [ClassModel.requireImport_eq]
    exact ih
  | addProperty _ _ ih => exact ih
  | addMethod _ _ ih => exact ih
  | addConstant _ _ ih => exact ih

end Assembled

/-! ## Templates -/

section Templates

variable (filters : NameFilters) (typed : Bool) (name : String)

/-- The named constructors of values are all that they add. -/
theorem addChoices_eq : ∀ (values : List String) (c : ClassModel),
    (Enum.addChoices filters values c).1 = { c with methods := (Enum.addChoices filters values c).1.methods }
  | [], _ => rfl
  | value :: rest, c => by
    unfold Enum.addChoices
    simp only
    split
    · exact addChoices_eq rest c
    · rw [addChoices_eq rest]
      rfl

theorem assembled_scalar (scalar : Scalar) :
    Assembled (.valueObject scalar.kind typed) (scalar.build filters typed name) :=
  .addMethods _ (.addProperty _ .start)

theorem assembled_dateTime (format : String) :
    Assembled (.valueObject .dateTime typed) (DateTime.build filters typed format name) :=
  .addMethods _ (.addProperty _ (.addConstant _ (.requireImport _ (.requireImport _ (.requireImport _ .start)))))

theorem assembled_uuid : Assembled (.valueObject .uuid typed) (Uuid.build filters typed name) :=
  .addMethods _ (.addProperty _ (.requireImport _ (.requireImport _ .start)))

theorem assembled_languageTag : Assembled (.valueObject .bcp47 typed) (LanguageTag.build filters typed name) :=
  .addMethods _ (.addProperty _ (.addProperty _ (.addProperty _ .start)))

theorem assembled_enum (values : List String) :
    Assembled (.valueObject (.enum name) typed) (Enum.build filters typed name values).1 :=
  .addMethods _ (.addChoices filters values (.addMethod _ (.addProperty _ (.addConstant _ (.addConstants _ .start)))))

theorem assembled_list (item : ItemType) :
    Assembled { ClassModel.valueObject .array typed with interfaces := ["\\Iterator", "\\Countable"] }
      (ListOf.build filters typed name item) :=
  .addMethod _ (.addMethods _ (.addMethods _ (.addProperty _ (.addProperty _ .start))))

end Templates

end SchemaClasses
