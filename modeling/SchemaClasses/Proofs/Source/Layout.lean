/-
Where the files of classes lie: under the source root, in a directory for each segment by which the namespace of a class
goes on below the ambient one. These segments are all that the path takes from a namespace.
-/
import SchemaClasses.Proofs.Class.Name
import SchemaClasses.Proofs.Run
import SchemaClasses.Proofs.Source.Path
import SchemaClasses.Source.Render

namespace SchemaClasses

open Text

/-! ## Directories -/

/-- The directories that the segments of a namespace stand for. -/
def directories (space : String) : List String :=
  ((segments '\\' space.toList).filter (!·.isEmpty)).map String.ofList

variable {space sub name ambient : String} {cs : List Char}

theorem ne_empty_of_mem_directories (h : name ∈ directories space) : name ≠ "" := by
  obtain ⟨segment, hs, rfl⟩ := List.mem_map.1 h
  rintro he
  rw [← String.toList_inj, String.toList_ofList] at he
  have filled := (List.mem_filter.1 hs).2
  rw [he] at filled
  cases filled

theorem directories_append (before after : String) :
    directories (before ++ "\\" ++ after) = directories before ++ directories after := by
  have chars : (before ++ "\\" ++ after).toList = before.toList ++ '\\' :: after.toList := by
    rw [String.append_assoc, String.toList_append, toList_backslash_append]
  unfold directories
  rw [chars, segments_append, List.filter_append, List.map_append]

theorem directories_of_isShort (h : IsShort name) (hn : name ≠ "") : directories name = [name] := by
  have filled : name.toList.isEmpty = false := List.isEmpty_eq_false_iff.2 fun he => hn (eq_empty_of_toList he)
  unfold directories
  rw [segments_of_not_mem h, List.filter_cons_of_pos (by simp [filled]), List.filter_nil, List.map_singleton,
    String.ofList_toList]

theorem directories_append_backslash (space : String) : directories (space ++ "\\") = directories space := by
  have parted := directories_append space ""
  rw [String.append_empty] at parted
  rw [parted, show directories "" = [] from rfl, List.append_nil]

theorem directories_backslash_append (space : String) : directories ("\\" ++ space) = directories space := by
  have parted := directories_append "" space
  rw [String.empty_append] at parted
  rw [parted, show directories "" = [] from rfl, List.nil_append]

theorem directories_trimStart : ∀ cs : List Char,
    directories (String.ofList (trimStart (· == '\\') cs)) = directories (String.ofList cs)
  | [] => rfl
  | c :: rest => by
    unfold trimStart
    rw [List.dropWhile_cons]
    split
    · rename_i backslash
      rw [beq_iff_eq] at backslash
      have parted : String.ofList (c :: rest) = "\\" ++ String.ofList rest := by
        rw [backslash, ← String.toList_inj, toList_backslash_append, String.toList_ofList, String.toList_ofList]
      rw [parted, directories_backslash_append]
      exact directories_trimStart rest
    · rfl

theorem directories_trimEnd (cs : List Char) :
    directories (String.ofList (trimEnd (· == '\\') cs)) = directories (String.ofList cs) := by
  induction cs using List.reverseRecOn with
  | nil => rfl
  | append_singleton front c ih =>
    by_cases backslash : c = '\\'
    · have parted : String.ofList (front ++ [c]) = String.ofList front ++ "\\" := by
        rw [backslash, String.ofList_append]
      rw [trimEnd_append, if_pos (trimEnd_eq_nil.2 (by simp [backslash])), ih, parted, directories_append_backslash]
    · have kept : trimEnd (· == '\\') [c] = [c] := by simp [trimEnd, backslash]
      rw [trimEnd_append, kept, if_neg (List.cons_ne_nil _ _)]

/-- Backslashes around a namespace make no directories. -/
theorem directories_trimBackslashes (space : String) : directories (trimBackslashes space) = directories space := by
  rw [trimBackslashes, trimBoth, directories_trimEnd, directories_trimStart, String.ofList_toList]

/-! ## Namespaces below the ambient one -/

/-- The namespace that segments lead to from the ambient one. -/
def spaceBelow (ambient sub : String) : String := if sub = "" then trimBackslashes ambient else qualify ambient sub

theorem isTrimmed_spaceBelow (trim : IsTrimmed sub) : IsTrimmed (spaceBelow ambient sub) := by
  unfold spaceBelow
  split
  · exact isTrimmed_trimBackslashes _
  · rename_i hs
    exact isTrimmed_qualify trim hs

/-- A definition goes on below the ambient namespace by its own segments. -/
theorem extractNamespace_eq (ambient : String) (d : TypeDef) :
    extractNamespace ambient d = spaceBelow ambient (trimBackslashes (d.traits.segments.getD "")) := by
  unfold extractNamespace TypeDef.customNamespace? spaceBelow
  cases d.traits.segments with
  | none => exact (if_pos rfl).symm
  | some text =>
    rw [Option.filter_some, Option.getD_some]
    by_cases empty : trimBackslashes text = ""
    · simp [empty]
    · simp [empty, trimBackslashes_joined (isTrimmed_trimBackslashes text) empty]

/-- A short name in a namespace below the ambient one lies below it as well. -/
theorem qualify_spaceBelow (trim : IsTrimmed sub) (hn : name ≠ "") :
    qualify (spaceBelow ambient sub) name = spaceBelow ambient (qualify sub name) := by
  by_cases hs : sub = ""
  · rw [hs, show qualify "" name = name from rfl, spaceBelow, if_pos rfl, spaceBelow, if_neg hn, qualify_trimBackslashes]
  · have joined : sub ++ "\\" ++ name ≠ "" := fun he =>
      hs (String.append_eq_empty_iff.1 (String.append_eq_empty_iff.1 he).1).1
    have below := @isTrimmed_spaceBelow sub ambient trim
    rw [spaceBelow, if_neg hs] at below ⊢
    rw [qualify_of_ne below (qualify_ne_empty hs), qualify_of_ne trim hs, spaceBelow, if_neg joined, qualify_append]

theorem directories_qualify (hn : IsShort name) (some : name ≠ "") (space : String) :
    directories (qualify space name) = directories space ++ [name] := by
  rw [← directories_trimBackslashes space]
  unfold qualify
  simp only
  split
  · rename_i empty
    rw [empty, directories_of_isShort hn some]
    rfl
  · rw [directories_append, directories_of_isShort hn some]

/-! ## Paths of classes -/

theorem isName_fileName {name : String} (slashless : '/' ∉ name.toList) : Path.IsName (name ++ ".php") := by
  have longer : ∀ short : String, short.length < 4 → name ++ ".php" ≠ short := by
    intro short shorter he
    have length := congrArg String.length he
    rw [String.length_append, show ".php".length = 4 by decide] at length
    omega
  refine ⟨?_, longer "" (by decide), longer "." (by decide), longer ".." (by decide)⟩
  rw [String.toList_append, List.mem_append, not_or]
  exact ⟨slashless, by decide⟩

namespace SourceLayout

theorem dropFront?_append : ∀ front cs : List Char, dropFront? front (front ++ cs) = some cs
  | [], _ => rfl
  | _ :: front, cs => (if_pos rfl).trans (dropFront?_append front cs)

variable {layout : SourceLayout} {below : String} {m : ClassModel}

theorem relative_of_empty (h : layout.rootNamespace = "") : layout.relative space = (trimBackslashes space).toList :=
  if_pos (by rw [h]; rfl)

theorem relative_root (h : trimBackslashes space = layout.rootNamespace) : layout.relative space = [] := by
  unfold relative
  simp only
  rw [h, if_pos rfl]
  split
  · assumption
  · rfl

/-- The root namespace is taken away from what goes on behind it. -/
theorem relative_below (filled : layout.rootNamespace ≠ "")
    (h : trimBackslashes space = layout.rootNamespace ++ "\\" ++ below) : layout.relative space = below.toList := by
  have chars : (trimBackslashes space).toList = (layout.rootNamespace.toList ++ ['\\']) ++ below.toList := by
    rw [h, String.toList_append, String.toList_append]
    rfl
  have longer : (trimBackslashes space).toList ≠ layout.rootNamespace.toList := by
    intro same
    have length := congrArg List.length same
    rw [chars] at length
    simp at length
  unfold relative
  simp only
  rw [if_neg fun he => filled (eq_empty_of_toList he), if_neg longer, chars, dropFront?_append, Option.getD_some]

/-- The layout of the ambient namespace takes it away again. -/
theorem relative_spaceBelow (trim : IsTrimmed sub) (root : String) :
    (ofNamespace root ambient).relative (spaceBelow ambient sub) = sub.toList := by
  have space_eq : trimBackslashes (spaceBelow ambient sub) = spaceBelow ambient sub := isTrimmed_spaceBelow trim
  by_cases hs : sub = ""
  · rw [hs] at space_eq ⊢
    exact relative_root (space_eq.trans (if_pos rfl))
  · rw [spaceBelow, if_neg hs] at space_eq ⊢
    by_cases empty : trimBackslashes ambient = ""
    · rw [relative_of_empty empty, space_eq, qualify, empty]
      rfl
    -- the namespace goes on behind the ambient one
    · refine relative_below empty (space_eq.trans ?_)
      rw [← qualify_trimBackslashes]
      exact qualify_of_ne (isTrimmed_trimBackslashes ambient) empty sub

/-- What a namespace has below the root namespace decides the directories of a class. -/
theorem pathOf_of_relative (h : layout.relative m.space = below.toList) :
    layout.pathOf m = Path.joinAll layout.sourceRoot (directories below ++ [m.name ++ ".php"]) := by
  unfold pathOf
  simp only
  rw [h, Path.joinAll_append]
  rfl

theorem pathOf_eq (trim : IsTrimmed sub) (root : String) (h : m.space = spaceBelow ambient sub) :
    (ofNamespace root ambient).pathOf m = Path.joinAll root (directories sub ++ [m.name ++ ".php"]) :=
  pathOf_of_relative (by rw [h, relative_spaceBelow trim])

end SourceLayout

/-! ## Files -/

namespace Source

variable {files : Files} {path text : String}

theorem mem_putFile {other new : String} : ∀ {files : Files}, (path, text) ∈ putFile files other new →
    path = other ∨ ∃ before, (path, before) ∈ files
  | [], h => .inl (congrArg Prod.fst (List.mem_singleton.1 h))
  | (p, t) :: rest, h => by
    unfold putFile at h
    split at h
    · rcases List.mem_cons.1 h with he | h
      · exact .inr ⟨t, List.mem_cons.2 (.inl (by rw [(Prod.mk.inj he).1]))⟩
      · exact .inr ⟨text, List.mem_cons_of_mem _ h⟩
    · rcases List.mem_cons.1 h with he | h
      · exact .inr ⟨t, List.mem_cons.2 (.inl (by rw [(Prod.mk.inj he).1]))⟩
      · exact (mem_putFile h).imp_right fun ⟨before, hb⟩ => ⟨before, List.mem_cons_of_mem _ hb⟩

theorem exists_class_of_mem_renderFrom {layout : SourceLayout}
    {existing : ClassModel → String → Except GenerateError (List Member)} : ∀ {models : List ClassModel} {before : Files},
    renderFrom layout existing models before = .ok files → (path, text) ∈ files →
      (∃ m ∈ models, path = layout.pathOf m) ∨ ∃ earlier, (path, earlier) ∈ before
  | [], before, h, hf => .inr ⟨text, Except.ok.inj h ▸ hf⟩
  | m :: models, before, h, hf => by
    unfold renderFrom at h
    obtain ⟨members, -, h⟩ := except_bind_eq_ok.1 h
    rcases exists_class_of_mem_renderFrom h hf with ⟨m', hm, he⟩ | ⟨_, there⟩
    · exact .inl ⟨m', List.mem_cons_of_mem _ hm, he⟩
    · exact (mem_putFile there).imp_left fun he => ⟨m, List.mem_cons_self, he⟩

/-- Every file lies at the path of a class. -/
theorem exists_class_of_mem_render {layout : SourceLayout} {c : Collection}
    {existing : ClassModel → String → Except GenerateError (List Member)} (h : render layout existing c = .ok files)
    (hf : (path, text) ∈ files) : ∃ m ∈ c.toList, path = layout.pathOf m :=
  (exists_class_of_mem_renderFrom h hf).resolve_right fun ⟨_, h⟩ => List.not_mem_nil h

end Source

end SchemaClasses
