/-
Where the files of a result lie. The namespace of a class goes on below the ambient one by the namespace keyword of a
node of the document, and by nothing else; so the file lies beneath the source root just when that keyword leads
nowhere else. The keyword is free text: with a slash in front, or with two dots, it leads out.
-/
import SchemaClasses.Proofs.Class.Deeds
import SchemaClasses.Proofs.Class.EnumException
import SchemaClasses.Proofs.Generator.Nullable
import SchemaClasses.Proofs.Source.Layout

namespace SchemaClasses

open Schema Build

/-! ## Namespaces of classes -/

/-- A name made by the filters, in the namespace of a definition that stands for a node of a document. -/
structure Placed (v : ValueObjects) (ambient : String) (document : Json) (name space : String) : Prop where
  named : ∃ raw, name = v.filters.className raw
  spaced : ∃ json d, Stands document json d ∧ space = extractNamespace ambient d

section Classes

variable {v : ValueObjects} {ambient name space className : String} {document : Json} {d : TypeDef} {deed : Deed}
  {m : ClassModel} {c : Collection}

/-- Every class that a deed adds is placed, if the entity that is filled is. -/
theorem Does.placed (h : Does v ambient name space className d deed) (placed : Placed v ambient document name space)
    (stands : ∃ json, Stands document json d) (adds : deed.added? = some m) :
    Placed v ambient document m.name m.space := by
  induction h with
  | @entity name space className traits properties =>
    obtain rfl := Option.some.inj adds
    unfold entityOf
    rw [foldl_withSchemaProperty_eq]
    exact placed
  | property he leads _ ih =>
    obtain ⟨_, object⟩ := stands
    obtain ⟨_, _, _, -, -, -, -, each⟩ := object.object
    obtain ⟨_, -, -, property, -⟩ := exists_left_of_forall₂ each he
    obtain ⟨json, walked⟩ := property.walked
    exact ih ⟨⟨_, rfl⟩, json, _, walked, rfl⟩ (walked.standsFor leads) adds
  | item hi _ ih =>
    obtain ⟨_, array⟩ := stands
    obtain ⟨_, item⟩ := array.array (hi.only ▸ List.mem_cons_self)
    obtain ⟨json, target⟩ := item.standsFor hi.standsFor
    exact ih ⟨⟨_, rfl⟩, json, _, target, rfl⟩ ⟨json, target⟩ adds
  | pair => cases adds
  | list hi hb =>
    obtain rfl := Option.some.inj adds
    obtain ⟨named, spaced, -⟩ := build_array hi hb
    obtain ⟨json, array⟩ := stands
    rw [ClassModel.addImport_eq]
    exact ⟨⟨_, named⟩, json, _, array, spaced⟩
  | value hd hb =>
    obtain rfl := Option.some.inj adds
    obtain ⟨named, spaced, -⟩ := build_scalar hd hb
    obtain ⟨json, value⟩ := stands
    exact ⟨⟨_, named⟩, json, _, value, spaced⟩

def AllPlaced (v : ValueObjects) (ambient : String) (document : Json) (c : Collection) : Prop :=
  ∀ fqcn m, c.get? fqcn = some m → Placed v ambient document m.name m.space

theorem AllPlaced.mapClasses {f : ClassModel → ClassModel} (h : AllPlaced v ambient document c) (addition : Addition f) :
    AllPlaced v ambient document (c.mapClasses f) := by
  intro fqcn found hf
  obtain ⟨m, hm, rfl⟩ := Collection.of_get?_mapClasses hf
  rw [addition.same]
  exact h fqcn m hm

end Classes

/-! ## Paths of classes -/

/-- The directories that the namespace keyword of a node stands for. -/
def namespaceDirectories (node : Node) : List String := directories ((segments? node).getD "")

/-- The names of a path that ends with a file in some directories, or, if it is that of an exception, in one below. -/
def IsFileIn (above names : List String) : Prop := ∃ file, Path.IsName file ∧
  (names = above ++ [file] ∨ names = above ++ ["Exception", file])

section Paths

variable {v : ValueObjects} {ambient name space : String} {document : Json} {m enum : ClassModel}
  {above names : List String}

theorem IsFileIn.exists_below (h : IsFileIn above names) : ∃ below, (∀ name ∈ below, Path.IsName name) ∧
    names = above ++ below := by
  have directory : Path.IsName "Exception" := ⟨by decide, by decide, by decide⟩
  obtain ⟨file, name, rfl | rfl⟩ := h
  · exact ⟨_, by simpa using name, rfl⟩
  · exact ⟨_, by simpa using ⟨directory, name⟩, rfl⟩

/-- The namespace of a class goes on below the ambient one by the keyword of a node. -/
theorem Placed.exists_node (h : Placed v ambient document name space) : ∃ node, Reachable document (.object node) ∧
    space = spaceBelow ambient (Text.trimBackslashes ((segments? node).getD "")) := by
  obtain ⟨-, json, d, stands, spaced⟩ := h
  obtain ⟨node, rfl, keyword⟩ := stands.exists_segments
  exact ⟨node, stands.1, by rw [spaced, extractNamespace_eq, keyword]⟩

/-- The file of a class lies in the directories of a node. -/
theorem Placed.exists_names (h : Placed v ambient document m.name m.space) (root : String) : ∃ node,
    Reachable document (.object node) ∧ (SourceLayout.ofNamespace root ambient).pathOf m =
      Path.joinAll root (namespaceDirectories node ++ [m.name ++ ".php"]) := by
  obtain ⟨node, reached, space⟩ := h.exists_node
  refine ⟨node, reached, ?_⟩
  rw [SourceLayout.pathOf_eq (isTrimmed_trimBackslashes _) root space, directories_trimBackslashes]
  rfl

/-- The file of the exception of an enum lies in one more directory. -/
theorem Placed.exists_exceptionNames (h : Placed v ambient document enum.name enum.space) (short : IsShort enum.name)
    {filters : NameFilters} {source : String} (made : EnumException.IsException filters source enum.fqcn m)
    (root : String) : ∃ node, Reachable document (.object node) ∧ (SourceLayout.ofNamespace root ambient).pathOf m =
      Path.joinAll root (namespaceDirectories node ++ ["Exception", m.name ++ ".php"]) := by
  obtain ⟨node, reached, space⟩ := h.exists_node
  have trimmed := isTrimmed_trimBackslashes ((segments? node).getD "")
  have below : m.space = spaceBelow ambient (qualify (Text.trimBackslashes ((segments? node).getD "")) "Exception") := by
    rw [made.space, ClassModel.fqcn, namespaceOf_qualify short, EnumException.space, qualify_trimBackslashes, space,
      qualify_spaceBelow trimmed (by decide)]
  refine ⟨node, reached, ?_⟩
  rw [SourceLayout.pathOf_eq (isTrimmed_qualify (isTrimmed_of_isShort (by decide)) (by decide)) root below,
    directories_qualify (by decide) (by decide), directories_trimBackslashes, List.append_assoc]
  rfl

end Paths

/-! ## Results -/

namespace Generator

variable {g : Generator} {document : Json} {rootName : String} {c : Collection} {m : ClassModel}

theorem layout_eq (g : Generator) : g.layout = .ofNamespace g.settings.sourceRoot g.ambient := by
  unfold layout ambient SourceLayout.ofNamespace
  rw [Text.trimBackslashes_trimBackslashes]

theorem allPlaced_build {set : TypeSet} {state : BuildState} (hp : (Schema.parse document rootName).1 = .ok set)
    (hb : g.build set rootName = (.ok (), state)) :
    AllPlaced g.valueObjects g.ambient document state.collection := by
  have stands := stands_of_parse hp
  obtain ⟨deeds, performed, all⟩ := (performsSet_all g.valueObjects g.ambient set _ _ _).performed hb
  intro fqcn m hm
  obtain ⟨origin, same, there | ⟨deed, hd, adds, -⟩⟩ := performed.stems hm
  · cases there
  · obtain ⟨d, leads, does⟩ := (all deed).1 hd
    have placed := does.placed ⟨⟨_, rfl⟩, _, _, stands, rfl⟩ (stands.standsFor leads) adds
    rw [same]
    exact placed

/-- The file of a class lies in the directories of a node, or in one more below them. -/
def HasPath (g : Generator) (document : Json) (m : ClassModel) : Prop := ∃ node names,
  Reachable document (.object node) ∧ IsFileIn (namespaceDirectories node) names ∧
    g.layout.pathOf m = Path.joinAll g.settings.sourceRoot names

section Slashless

variable (slashless : ∀ raw, '/' ∉ (g.filters.className raw).toList)
include slashless

theorem hasPath_of_placed (placed : Placed g.valueObjects g.ambient document m.name m.space) : g.HasPath document m := by
  obtain ⟨raw, named⟩ := placed.named
  obtain ⟨node, reached, he⟩ := placed.exists_names g.settings.sourceRoot
  refine ⟨node, _, reached, ⟨_, isName_fileName ?_, .inl rfl⟩, by rw [layout_eq, he]⟩
  rw [named]
  exact slashless raw

theorem hasPath_of_mem_exceptions (short : ∀ raw, IsShort (g.filters.className raw)) (keyed : c.Keyed)
    (placed : AllPlaced g.valueObjects g.ambient document c) (hm : m ∈ g.exceptions c) : g.HasPath document m := by
  obtain ⟨enum, there, made⟩ := mem_exceptions.1 hm
  have there := placed _ _ (keyed.mem_toList_iff.1 there)
  obtain ⟨raw, named⟩ := there.named
  have name : IsShort enum.name := named ▸ short raw
  unfold EnumException.ofClass at made
  split at made
  · rename_i source _
    obtain rfl := Except.ok.inj made
    have exception : EnumException.IsException g.filters source enum.fqcn
        (EnumException.build g.filters g.settings.typed source enum.fqcn) :=
      EnumException.isException_build g.filters g.settings.typed source name
    obtain ⟨node, reached, he⟩ := there.exists_exceptionNames name exception g.settings.sourceRoot
    refine ⟨node, _, reached, ⟨_, isName_fileName ?_, .inr rfl⟩, by rw [layout_eq, he]⟩
    rw [exception.name, EnumException.className, String.toList_append, List.mem_append, not_or]
    exact ⟨by decide, slashless source⟩
  · cases made

theorem hasPath_of_mem (short : ∀ raw, IsShort (g.filters.className raw)) (h : (g.generate document rootName).1 = .ok c)
    (hm : m ∈ c.toList) : g.HasPath document m := by
  obtain ⟨set, state, hp, hb, rfl, -⟩ := generate_ok h
  have keyed := (build_steps hb).keyed Collection.keyed_empty
  have hf := (keyed_finish keyed).mem_toList_iff.1 hm
  obtain ⟨before, ⟨keyed, placed⟩, last⟩ := @exists_finish g _
    (fun c => c.Keyed ∧ AllPlaced g.valueObjects g.ambient document c) ⟨keyed, allPlaced_build hp hb⟩
    fun f c addition hs => ⟨hs.1.mapClasses fun m => by rw [addition.same]; rfl, hs.2.mapClasses addition⟩
  rw [last] at hf
  split at hf
  · rcases Collection.of_get?_addAll _ hf with ⟨added, -⟩ | ⟨-, hf⟩
    · exact hasPath_of_mem_exceptions slashless short keyed placed added
    · exact hasPath_of_placed slashless (placed _ _ hf)
  · exact hasPath_of_placed slashless (placed _ _ hf)

end Slashless

/-- Every file of a result lies at the source root and the directories that the namespace keyword of a node of the
document stands for. It lies beneath the source root just when these directories are tame: none of them begins with a
slash, has two dots among its parts, or puts a single dot in front of the whole path. Where one begins with a slash the
path is one from the root of all files, and the source root has no part in it. -/
theorem generate_paths (conventional : g.filters = conventionalNames) (h : (g.generate document rootName).1 = .ok c)
    {existing : ClassModel → String → Except GenerateError (List Member)} {files : Source.Files}
    (rendered : g.render existing c = .ok files) {path text : String} (hf : (path, text) ∈ files) :
    ∃ node names, Reachable document (.object node) ∧ IsFileIn (namespaceDirectories node) names ∧
      path = Path.joinAll g.settings.sourceRoot names ∧
      ((Path.IsAbsolute g.settings.sourceRoot → ∀ name ∈ namespaceDirectories node, ¬ Path.IsAbsolute name) →
        (Path.Beneath g.settings.sourceRoot path ↔ Path.Tame g.settings.sourceRoot (namespaceDirectories node))) ∧
      ((∃ name ∈ namespaceDirectories node, Path.IsAbsolute name) →
        Path.IsAbsolute path ∧ ∀ root, Path.joinAll root names = path) := by
  have slashless : ∀ raw, '/' ∉ (g.filters.className raw).toList := by
    rw [conventional]
    exact isMark_slash.not_mem_className
  have plain : PlainNames g.filters := by
    rw [conventional]
    exact plainNames_conventional
  obtain ⟨m, hm, rfl⟩ := Source.exists_class_of_mem_render rendered hf
  obtain ⟨node, names, reached, inside, he⟩ := hasPath_of_mem slashless plain.short h hm
  obtain ⟨below, single, rfl⟩ := inside.exists_below
  refine ⟨node, _, reached, inside, he, fun apart => ?_, fun ⟨name, hn, absolute⟩ => ?_⟩
  · rw [he, ← Path.tame_append_iff single]
    refine Path.beneath_joinAll_iff (fun name hn => ?_) fun hr name hn => ?_
    · exact (List.mem_append.1 hn).elim ne_empty_of_mem_directories fun hn => (single name hn).named
    · exact (List.mem_append.1 hn).elim (apart hr name) fun hn => (single name hn).not_isAbsolute
  · rw [he]
    have hn := List.mem_append_left below hn
    exact ⟨Path.isAbsolute_joinAll.2 (.inr ⟨name, hn, absolute⟩), fun root => Path.joinAll_of_isAbsolute hn absolute _ _⟩

section Escaping

/-! A namespace keyword with a slash in front. -/

def escapingNode : Node := [("properties", .object []), ("ns", .string "/etc")]

def escaping : Json := .object escapingNode

def escapingRoot : TypeDef := .object { name := "r", required := true, segments := some "/etc" } []

def escapingEntity : ClassModel := .entity (conventionalNames.className "r") (extractNamespace (ambient {}) escapingRoot)

theorem parse_escaping : Schema.parse escaping "r" = (.ok ⟨escapingRoot, []⟩, []) := by
  unfold escaping escapingNode escapingRoot
  cbv

theorem build_escaping : build {} ⟨escapingRoot, []⟩ "r" = (.ok (), BuildState.addEntity {} escapingEntity) :=
  buildSet_of_properties (buildProperties_nil escapingEntity)

def escapingClasses : Collection := (finish {} (BuildState.addEntity {} escapingEntity).collection).1

theorem generate_escaping : (generate {} escaping "r").1 = .ok escapingClasses :=
  congrArg Prod.fst (generate_of_build parse_escaping build_escaping)

/-- Nothing but the document itself is reached. -/
theorem reachable_escaping {json : Json} (h : Reachable escaping json) : json = escaping := by
  induction h with
  | top => rfl
  | @property node properties entry _ _ hl he ih =>
    cases ih
    cases hl
    cases he
  | @item node item _ _ hl ih | @element node items item _ _ hl _ ih | @target node pointer part _ hl _ ih =>
    cases ih
    cases hl

theorem paths_escaping : (render {} (fun _ _ => .ok []) escapingClasses).toOption.map (·.map Prod.fst) =
    some ["/etc/R.php"] := by
  decide +kernel

/-- The class lies outside the source root, under a path from the root of all files. -/
theorem generate_paths_escaping : ∃ c files text, (generate {} escaping "r").1 = .ok c ∧
    render {} (fun _ _ => .ok []) c = .ok files ∧ ("/etc/R.php", text) ∈ files ∧
    ¬ Path.Beneath "src" "/etc/R.php" := by
  obtain ⟨files, found, paths⟩ := Option.map_eq_some_iff.1 paths_escaping
  have rendered := eq_ok_of_toOption found
  obtain ⟨⟨path, text⟩, hf, rfl⟩ := List.mem_map.1 (paths ▸ List.mem_singleton_self "/etc/R.php")
  obtain ⟨node, names, reached, -, -, beneath, -⟩ :=
    @generate_paths {} escaping "r" escapingClasses rfl generate_escaping _ files rendered _ text hf
  cases reachable_escaping reached
  have absolute : "/etc" ∈ namespaceDirectories escapingNode := by decide +kernel
  refine ⟨escapingClasses, files, text, generate_escaping, rendered, hf, fun inside => ?_⟩
  have tame := (beneath fun rooted => absurd rooted (by decide)).1 inside
  exact tame.relative "/etc" absolute rfl

end Escaping

end Generator

end SchemaClasses
