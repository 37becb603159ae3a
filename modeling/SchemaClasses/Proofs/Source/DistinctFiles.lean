/-
Where no two classes share a file. Under plain names the path of a class shows the names by which its namespace goes on
below the root namespace, and its own name, whatever the source root is; so different classes lie at different paths, and
rendering writes each of them to a file of its own.
-/
import SchemaClasses.Proofs.Source.Layout

namespace SchemaClasses

open Text

/-! ## Plain names -/

/-- A name without slashes, backslashes and dots. -/
structure IsPlain (name : String) : Prop where
  named : name ≠ ""
  slashless : '/' ∉ name.toList
  short : IsShort name
  dotless : '.' ∉ name.toList

theorem IsPlain.isName {name : String} (h : IsPlain name) : Path.IsName name :=
  ⟨h.slashless, h.named, fun he => h.dotless (by simp [he]), fun he => h.dotless (by simp [he])⟩

namespace SourceLayout

variable {layout : SourceLayout} {names names' : List String} {m m' : ClassModel}

/-- A class with a plain name whose namespace is the root namespace with plain names behind it, or, where there is no
root namespace, such names alone. -/
structure LiesUnder (layout : SourceLayout) (names : List String) (m : ClassModel) : Prop where
  space : trimBackslashes m.space =
    "\\".intercalate (if layout.rootNamespace = "" then names else layout.rootNamespace :: names)
  plain : ∀ name ∈ names, IsPlain name
  name : IsPlain m.name

theorem relative_liesUnder (h : LiesUnder layout names m) :
    layout.relative m.space = ("\\".intercalate names).toList := by
  have space := h.space
  by_cases hr : layout.rootNamespace = ""
  · rw [if_pos hr] at space
    rw [relative_of_empty hr, space]
  · rw [if_neg hr] at space
    cases names with
    | nil => exact relative_root (space.trans (String.intercalate_singleton ..))
    | cons first rest =>
      rw [String.intercalate_cons_cons] at space
      exact relative_below hr space

theorem directories_intercalate : ∀ {names : List String}, (∀ name ∈ names, IsPlain name) →
    directories ("\\".intercalate names) = names
  | [], _ => rfl
  | [name], plain => by
    have name := plain name List.mem_cons_self
    rw [String.intercalate_singleton, directories_of_isShort name.short name.named]
  | name :: next :: rest, plain => by
    obtain ⟨first, others⟩ := List.forall_mem_cons.1 plain
    rw [String.intercalate_cons_cons, directories_append, directories_of_isShort first.short first.named,
      directories_intercalate others, List.singleton_append]

theorem pathOf_liesUnder (h : LiesUnder layout names m) :
    layout.pathOf m = Path.joinAll layout.sourceRoot (names ++ [m.name ++ ".php"]) := by
  rw [pathOf_of_relative (relative_liesUnder h), directories_intercalate h.plain]

theorem normal_pathOf (h : LiesUnder layout names m) : Path.normal (layout.pathOf m) =
    ⟨(Path.normal layout.sourceRoot).absolute, (Path.normal layout.sourceRoot).parts ++ (names ++ [m.name ++ ".php"])⟩ := by
  rw [pathOf_liesUnder h, Path.normal_joinAll]
  rw [List.forall_mem_append, List.forall_mem_singleton]
  exact ⟨fun name hm => (h.plain name hm).isName, isName_fileName h.name.slashless⟩

/-- Classes of one namespace lie under the same names. -/
theorem LiesUnder.names_eq (h : LiesUnder layout names m) (h' : LiesUnder layout names' m')
    (same : trimBackslashes m.space = trimBackslashes m'.space) : names = names' := by
  have relative_eq : layout.relative m.space = layout.relative m'.space := by
    unfold relative
    rw [same]
  rw [relative_liesUnder h, relative_liesUnder h', String.toList_inj] at relative_eq
  rw [← directories_intercalate h.plain, relative_eq, directories_intercalate h'.plain]

/-- Two classes have one path just when they have one name. -/
theorem same_pathOf_iff (h : LiesUnder layout names m) (h' : LiesUnder layout names' m') :
    Path.same (layout.pathOf m) (layout.pathOf m') = true ↔ m.fqcn = m'.fqcn := by
  unfold Path.same
  rw [beq_iff_eq, normal_pathOf h, normal_pathOf h', Path.Normal.mk.injEq, and_iff_right rfl,
    List.append_cancel_left_eq]
  constructor
  · intro same
    obtain ⟨rfl, file⟩ := List.append_inj' same rfl
    have name : m.name = m'.name := (String.append_left_inj _).1 (List.singleton_inj.1 file)
    rw [ClassModel.fqcn, ClassModel.fqcn, ← qualify_trimBackslashes, h.space, ← h'.space, qualify_trimBackslashes, name]
  · intro same
    -- a qualified name falls into its namespace and its short name again
    have split := congrArg splitFqcn same
    rw [ClassModel.fqcn, ClassModel.fqcn, splitFqcn_qualify h.name.short, splitFqcn_qualify h'.name.short,
      Prod.mk.injEq] at split
    rw [h.names_eq h' split.1, split.2]

end SourceLayout

/-! ## Files -/

namespace Source

open SourceLayout

variable {layout : SourceLayout} {existing : ClassModel → String → Except GenerateError (List Member)}
  {files before : Files} {path text : String} {m : ClassModel} {c : Collection}

/-- A text under a path that there is no text under yet comes behind the others. -/
theorem putFile_of_fresh : ∀ {files : Files}, (∀ file ∈ files, Path.same file.1 path = false) →
    putFile files path text = files ++ [(path, text)]
  | [], _ => rfl
  | (p, t) :: rest, fresh => by
    obtain ⟨first, others⟩ := List.forall_mem_cons.1 fresh
    rw [putFile, if_neg (by simpa using first), putFile_of_fresh others, List.cons_append]

/-- A file lies at the path of a class and holds its text, with members that were written by hand. -/
def IsFileOf (layout : SourceLayout) (existing : ClassModel → String → Except GenerateError (List Member))
    (m : ClassModel) (file : String × String) : Prop :=
  file.1 = layout.pathOf m ∧ ∃ members, existing m file.1 = .ok members ∧ file.2 = renderClass m members

/-- Classes whose paths are different from each other, and from those of the files that there are, add a file each. -/
theorem renderFrom_of_distinct : ∀ {models : List ClassModel} {before : Files},
    renderFrom layout existing models before = .ok files →
    models.Pairwise (fun m m' => Path.same (layout.pathOf m) (layout.pathOf m') = false) →
    (∀ m ∈ models, ∀ file ∈ before, Path.same file.1 (layout.pathOf m) = false) →
    ∃ added, files = before ++ added ∧ List.Forall₂ (IsFileOf layout existing) models added
  | [], before, h, _, _ => ⟨[], by rw [← Except.ok.inj h, List.append_nil], .nil⟩
  | m :: rest, before, h, distinct, fresh => by
    obtain ⟨apart, distinct⟩ := List.pairwise_cons.1 distinct
    obtain ⟨first, others⟩ := List.forall_mem_cons.1 fresh
    unfold renderFrom at h
    obtain ⟨members, hm, h⟩ := except_bind_eq_ok.1 h
    rw [putFile_of_fresh first] at h
    obtain ⟨added, rfl, each⟩ := renderFrom_of_distinct h distinct fun later hl file hf => by
      rcases List.mem_append.1 hf with hf | hf
      · exact others later hl file hf
      · rw [List.mem_singleton.1 hf]
        exact apart later hl
    exact ⟨_ :: added, List.append_cons .. |>.symm, .cons ⟨rfl, members, hm, rfl⟩ each⟩

end Source

/-! ## Results -/

namespace SourceLayout

/-- The path of a class is the source root with the names by which its namespace goes on below the root namespace and the
file of its own name. Two classes have the same path just when they have the same fully-qualified name; so where no two
classes have, each is rendered to a file of its own, in their order. -/
theorem pathOf_distinct (layout : SourceLayout) :
    (∀ names m, LiesUnder layout names m →
      layout.pathOf m = Path.joinAll layout.sourceRoot (names ++ [m.name ++ ".php"]) ∧
      Path.normal (layout.pathOf m) = ⟨(Path.normal layout.sourceRoot).absolute,
        (Path.normal layout.sourceRoot).parts ++ (names ++ [m.name ++ ".php"])⟩) ∧
    (∀ names names' m m', LiesUnder layout names m → LiesUnder layout names' m' →
      (Path.same (layout.pathOf m) (layout.pathOf m') = true ↔ m.fqcn = m'.fqcn)) ∧
    ∀ existing c files, (∀ m ∈ c.toList, ∃ names, LiesUnder layout names m) → (c.toList.map (·.fqcn)).Nodup →
      Source.render layout existing c = .ok files →
      List.Forall₂ (Source.IsFileOf layout existing) c.toList files := by
  refine ⟨fun names m h => ⟨pathOf_liesUnder h, normal_pathOf h⟩, fun _ _ _ _ => same_pathOf_iff,
    fun existing c files all nodup rendered => ?_⟩
  have distinct : c.toList.Pairwise fun m m' => Path.same (layout.pathOf m) (layout.pathOf m') = false := by
    refine (List.pairwise_map.1 nodup).imp_of_mem fun hm hm' different => ?_
    obtain ⟨names, h⟩ := all _ hm
    obtain ⟨names', h'⟩ := all _ hm'
    rw [Bool.eq_false_iff, ne_eq, same_pathOf_iff h h']
    exact different
  obtain ⟨added, rfl, each⟩ := Source.renderFrom_of_distinct rendered distinct fun _ _ _ hf => nomatch hf
  exact each

section Orders

/-! Two classes of one short name, the one in the root namespace and the other one below it. -/

def acmeLayout : SourceLayout := ⟨"./src/", "Acme"⟩

def acmeOrder : ClassModel := .entity "Order" "\\Acme"

def geoOrder : ClassModel := .entity "Order" "Acme\\Geo"

theorem isPlain_order : IsPlain "Order" := ⟨by decide, by decide, by decide, by decide⟩

theorem isPlain_geo : IsPlain "Geo" := ⟨by decide, by decide, by decide, by decide⟩

theorem acmeOrder_liesUnder : LiesUnder acmeLayout [] acmeOrder :=
  ⟨by decide +kernel, nofun, isPlain_order⟩

theorem geoOrder_liesUnder : LiesUnder acmeLayout ["Geo"] geoOrder :=
  ⟨by decide +kernel, List.forall_mem_singleton.2 isPlain_geo, isPlain_order⟩

def orders : Collection := (Collection.add {} acmeOrder).add geoOrder

/-- Each of the two has a file of its own. -/
theorem pathOf_distinct_orders : acmeLayout.pathOf acmeOrder = "./src/Order.php" ∧
    acmeLayout.pathOf geoOrder = "./src/Geo/Order.php" ∧
    Path.same (acmeLayout.pathOf acmeOrder) (acmeLayout.pathOf geoOrder) = false ∧
    ∃ files, Source.render acmeLayout (fun _ _ => .ok []) orders = .ok files ∧
      List.Forall₂ (Source.IsFileOf acmeLayout fun _ _ => .ok []) [acmeOrder, geoOrder] files := by
  obtain ⟨paths, same, rendered⟩ := pathOf_distinct acmeLayout
  have acme := (paths _ _ acmeOrder_liesUnder).1
  have geo := (paths _ _ geoOrder_liesUnder).1
  have different : acmeOrder.fqcn ≠ geoOrder.fqcn := by decide +kernel
  refine ⟨acme.trans (by decide +kernel), geo.trans (by decide +kernel), ?_, _, rfl, ?_⟩
  · rw [Bool.eq_false_iff, ne_eq, same _ _ _ _ acmeOrder_liesUnder geoOrder_liesUnder]
    exact different
  · have classes : orders.toList = [acmeOrder, geoOrder] := rfl
    refine rendered _ orders _ ?_ ?_ rfl
    · rw [classes, List.forall_mem_cons, List.forall_mem_singleton]
      exact ⟨⟨_, acmeOrder_liesUnder⟩, _, geoOrder_liesUnder⟩
    · simpa [classes] using different

end Orders

end SourceLayout

end SchemaClasses
