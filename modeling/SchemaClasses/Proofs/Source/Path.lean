/-
Paths put together name by name. A name goes on below what comes before it, unless it begins with a slash, which takes
the place of all that, or has two dots among its parts, which lead out of it again; so a path lies beneath the one it
began with just when no name does either.
-/
import SchemaClasses.Source.Path
import SchemaClasses.Proofs.Text.Segments
import Mathlib.Data.List.Basic
import Mathlib.Tactic.Push

namespace SchemaClasses.Path

open Text

/-! ## Parts -/

/-- The parts of a path between slashes. -/
def parts (path : String) : List String := (segments '/' path.toList).map String.ofList

/-- The parts that lead on: neither nothing nor a single dot. -/
def steps (path : String) : List String := (parts path).filter fun part => part != "" && part != "."

/-- A path from the root of all files. -/
def IsAbsolute (path : String) : Prop := path.toList.head? = some '/'

instance (path : String) : Decidable (IsAbsolute path) := inferInstanceAs (Decidable (path.toList.head? = some '/'))

variable {path next root name : String} {names more : List String}

theorem normal_eq (path : String) : normal path =
    ⟨decide (IsAbsolute path), (if (parts path).head? = some "." then ["."] else []) ++ steps path⟩ := rfl

theorem parts_append (before after : String) : parts (before ++ "/" ++ after) = parts before ++ parts after := by
  have chars : (before ++ "/" ++ after).toList = before.toList ++ '/' :: after.toList := by
    rw [String.toList_append, String.toList_append, List.append_assoc]
    rfl
  unfold parts
  rw [chars, segments_append, List.map_append]

theorem parts_append_slash (before : String) : parts (before ++ "/") = parts before ++ [""] := by
  have parts_eq := parts_append before ""
  rwa [String.append_empty] at parts_eq

theorem parts_of_not_mem (h : '/' ∉ name.toList) : parts name = [name] := by
  unfold parts
  rw [segments_of_not_mem h, List.map_singleton, String.ofList_toList]

theorem parts_ne_nil (path : String) : parts path ≠ [] := by
  unfold parts
  rw [ne_eq, List.map_eq_nil_iff]
  exact segments_ne_nil _ _

theorem dots_mem_steps : ".." ∈ steps path ↔ ".." ∈ parts path := by
  unfold steps
  rw [List.mem_filter, and_iff_left (by decide)]

/-- The parts of a path go on with those of what is appended to it. -/
theorem head?_parts_append (before after : String) : (parts (before ++ "/" ++ after)).head? = (parts before).head? := by
  rw [parts_append, List.head?_append_of_ne_nil _ (parts_ne_nil before)]

/-! ## Joined paths -/

theorem join_of_isAbsolute (h : IsAbsolute next) : join path next = next := if_pos h

theorem join_empty (next : String) : join "" next = next := by
  unfold join
  split
  · rfl
  · rw [if_pos (.inl rfl), String.empty_append]

/-- There is one slash between a path and what it goes on with. -/
theorem exists_join (hp : path ≠ "") (relative : ¬ IsAbsolute next) : ∃ before, join path next = before ++ "/" ++ next ∧
    (path = before ∨ path = before ++ "/") := by
  unfold IsAbsolute at relative
  unfold join
  rw [if_neg relative]
  split
  · rename_i ends
    have slash := List.getLast?_eq_some_iff.1 (ends.resolve_left hp)
    obtain ⟨front, hf⟩ := slash
    have parted : path = String.ofList front ++ "/" := by
      rw [← String.toList_inj, String.toList_append, String.toList_ofList, hf]
      rfl
    exact ⟨_, by rw [← parted], .inr parted⟩
  · exact ⟨path, rfl, .inl rfl⟩

theorem join_ne_empty (hp : path ≠ "") : join path next ≠ "" := by
  by_cases absolute : IsAbsolute next
  · rw [join_of_isAbsolute absolute]
    rintro rfl
    cases absolute
  · obtain ⟨before, he, -⟩ := exists_join hp absolute
    rw [he]
    exact fun empty => absurd (String.append_eq_empty_iff.1 (String.append_eq_empty_iff.1 empty).1).2 (by decide)

theorem isAbsolute_join : IsAbsolute (join path next) ↔ IsAbsolute path ∨ IsAbsolute next := by
  by_cases absolute : IsAbsolute next
  · simp [join_of_isAbsolute absolute, absolute]
  by_cases hp : path = ""
  · rw [hp, join_empty]
    exact (or_iff_right fun h => by cases h).symm
  · obtain ⟨before, he, same⟩ := exists_join hp absolute
    rw [he, or_iff_left absolute]
    have longer : ∀ after, path ≠ "" → (IsAbsolute (path ++ after) ↔ IsAbsolute path) := by
      intro after hp
      unfold IsAbsolute
      rw [String.toList_append, List.head?_append_of_ne_nil]
      rwa [ne_eq, String.toList_eq_nil_iff]
    rcases same with rfl | rfl
    · rw [String.append_assoc, longer _ hp]
    · rw [longer _ hp]

/-- The normal form of a path goes on with the steps of what is appended to it. -/
theorem parts_normal_join (hp : path ≠ "") (relative : ¬ IsAbsolute next) :
    (normal (join path next)).parts = (normal path).parts ++ steps next := by
  obtain ⟨before, he, same⟩ := exists_join hp relative
  have head : (parts path).head? = (parts before).head? := by
    rcases same with rfl | rfl
    · rfl
    · rw [parts_append_slash, List.head?_append_of_ne_nil _ (parts_ne_nil before)]
  have steps_eq : steps path = steps before := by
    rcases same with rfl | rfl
    · rfl
    · unfold steps
      rw [parts_append_slash, List.filter_append]
      exact List.append_nil _
  rw [normal_eq, normal_eq, he]
  simp only
  rw [head?_parts_append, head, steps_eq, List.append_assoc]
  unfold steps
  rw [parts_append, List.filter_append]

/-! ## Several names -/

theorem joinAll_cons : joinAll path (name :: names) = joinAll (join path name) names := rfl

theorem joinAll_append : joinAll path (names ++ more) = joinAll (joinAll path names) more := List.foldl_append

theorem isAbsolute_joinAll : ∀ {names : List String} {path : String},
    IsAbsolute (joinAll path names) ↔ IsAbsolute path ∨ ∃ name ∈ names, IsAbsolute name
  | [], path => by simp [joinAll]
  | name :: names, path => by
    rw [joinAll_cons, isAbsolute_joinAll, isAbsolute_join]
    simp [or_assoc]

/-- Behind a name that begins with a slash nothing is left of what came before. -/
theorem joinAll_of_isAbsolute (hm : name ∈ names) (absolute : IsAbsolute name) (path other : String) :
    joinAll path names = joinAll other names := by
  obtain ⟨before, after, rfl⟩ := List.append_of_mem hm
  rw [joinAll_append, joinAll_append, joinAll_cons, joinAll_cons, join_of_isAbsolute absolute,
    join_of_isAbsolute absolute]

theorem parts_normal_joinAll : ∀ {names : List String} {path : String}, path ≠ "" →
    (∀ name ∈ names, ¬ IsAbsolute name) → (normal (joinAll path names)).parts = (normal path).parts ++ names.flatMap steps
  | [], path, _, _ => (List.append_nil _).symm
  | name :: names, path, hp, relative => by
    obtain ⟨first, others⟩ := List.forall_mem_cons.1 relative
    rw [joinAll_cons, parts_normal_joinAll (join_ne_empty hp) others, parts_normal_join hp first, List.flatMap_cons,
      List.append_assoc]

theorem absolute_normal_joinAll (relative : ∀ name ∈ names, ¬ IsAbsolute name) :
    (normal (joinAll root names)).absolute = (normal root).absolute := by
  rw [normal_eq, normal_eq]
  simp only
  rw [decide_eq_decide, isAbsolute_joinAll]
  exact or_iff_left fun ⟨name, hm, h⟩ => relative name hm h

/-- A single dot in front of everything, which is a part where nothing else is. -/
def leading (root : String) (names : List String) : List String :=
  if root = "" ∧ (names.head?.bind fun first => (parts first).head?) = some "." then ["."] else []

theorem parts_normal_joinAll_of_named (named : ∀ name ∈ names, name ≠ "") (relative : ∀ name ∈ names, ¬ IsAbsolute name) :
    (normal (joinAll root names)).parts = (normal root).parts ++ (leading root names ++ names.flatMap steps) := by
  by_cases hr : root = ""
  · subst hr
    cases names with
    | nil => rfl
    | cons first names =>
      rw [joinAll_cons, join_empty, parts_normal_joinAll (named first List.mem_cons_self)
        (List.forall_mem_cons.1 relative).2, normal_eq first, List.flatMap_cons]
      have empty : (normal "").parts = [] := by decide
      simp [leading, empty]
  · have none : leading root names = [] := if_neg fun h => hr h.1
    rw [parts_normal_joinAll hr relative, none, List.nil_append]

/-! ## Lying beneath a path -/

/-- A path leads on from another one by ordinary parts only. -/
def Beneath (root path : String) : Prop := ∃ below : List String, (∀ part ∈ below, part ≠ "." ∧ part ≠ "..") ∧
  normal path = ⟨(normal root).absolute, (normal root).parts ++ below⟩

/-- None of the names begins with a slash or has two dots among its parts; and a single dot does not come first of
all. -/
structure Tame (root : String) (names : List String) : Prop where
  relative : ∀ name ∈ names, ¬ IsAbsolute name
  inside : ∀ name ∈ names, ".." ∉ parts name
  front : root = "" → ∀ first ∈ names.head?, (parts first).head? ≠ some "."

theorem beneath_of_relative (named : ∀ name ∈ names, name ≠ "") (relative : ∀ name ∈ names, ¬ IsAbsolute name) :
    Beneath root (joinAll root names) ↔ ∀ part ∈ leading root names ++ names.flatMap steps, part ≠ "." ∧ part ≠ ".." := by
  have parts_eq := @parts_normal_joinAll_of_named root names named relative
  have absolute := @absolute_normal_joinAll root names relative
  constructor
  · rintro ⟨below, ordinary, he⟩
    rw [he] at parts_eq
    exact List.append_cancel_left parts_eq ▸ ordinary
  · intro ordinary
    refine ⟨_, ordinary, ?_⟩
    rw [← parts_eq, ← absolute]

/-- A path lies beneath the one it began with just when its names are tame; save where that one begins with a slash
too, so that a name with a slash in front may happen to lead there again. -/
theorem beneath_joinAll_iff (named : ∀ name ∈ names, name ≠ "")
    (apart : IsAbsolute root → ∀ name ∈ names, ¬ IsAbsolute name) :
    Beneath root (joinAll root names) ↔ Tame root names := by
  by_cases relative : ∀ name ∈ names, ¬ IsAbsolute name
  · rw [beneath_of_relative named relative]
    constructor
    · intro ordinary
      refine ⟨relative, fun name hm dots => ?_, fun hr first hf dot => ?_⟩
      · have there := List.mem_flatMap.2 ⟨name, hm, dots_mem_steps.2 dots⟩
        exact (ordinary _ (List.mem_append_right _ there)).2 rfl
      · have there : "." ∈ leading root names := by
          rw [Option.mem_def] at hf
          simp [leading, hr, hf, dot]
        exact (ordinary _ (List.mem_append_left _ there)).1 rfl
    · rintro ⟨-, inside, front⟩ part hp
      rcases List.mem_append.1 hp with hp | hp
      · unfold leading at hp
        split at hp
        · rename_i first
          obtain ⟨name, hn, dot⟩ := Option.bind_eq_some_iff.1 first.2
          exact absurd dot (front first.1 name hn)
        · cases hp
      · obtain ⟨name, hm, hs⟩ := List.mem_flatMap.1 hp
        refine ⟨?_, ?_⟩
        · rintro rfl
          simp [steps] at hs
        · rintro rfl
          exact inside name hm (dots_mem_steps.1 hs)
  -- a name with a slash in front makes the whole path begin with a slash, which the root does not
  · push Not at relative
    obtain ⟨name, hm, absolute⟩ := relative
    have outside : ¬ IsAbsolute root := fun hr => apart hr name hm absolute
    constructor
    · rintro ⟨below, -, he⟩
      have same : decide (IsAbsolute (joinAll root names)) = decide (IsAbsolute root) := congrArg Normal.absolute he
      rw [decide_eq_decide] at same
      exact absurd (same.1 (isAbsolute_joinAll.2 (.inr ⟨name, hm, absolute⟩))) outside
    · exact fun tame => absurd absolute (tame.relative name hm)

/-! ## Single names -/

/-- A name of one part that leads to a file or a directory of that name. -/
structure IsName (name : String) : Prop where
  single : '/' ∉ name.toList
  named : name ≠ ""
  ordinary : name ≠ "." ∧ name ≠ ".."

theorem IsName.not_isAbsolute (h : IsName name) : ¬ IsAbsolute name :=
  fun absolute => h.single (List.mem_of_mem_head? absolute)

theorem steps_of_isName (h : IsName name) : steps name = [name] := by
  unfold steps
  rw [parts_of_not_mem h.single, List.filter_cons_of_pos (by simp [h.named, h.ordinary.1]), List.filter_nil]

/-- Single names go on from any path, one part for each. -/
theorem normal_joinAll (single : ∀ name ∈ names, IsName name) :
    normal (joinAll root names) = ⟨(normal root).absolute, (normal root).parts ++ names⟩ := by
  have relative : ∀ name ∈ names, ¬ IsAbsolute name := fun name hm => (single name hm).not_isAbsolute
  have none : leading root names = [] := by
    refine if_neg fun ⟨_, dot⟩ => ?_
    obtain ⟨first, hf, dot⟩ := Option.bind_eq_some_iff.1 dot
    have first := single first (List.mem_of_mem_head? hf)
    rw [parts_of_not_mem first.single] at dot
    exact first.ordinary.1 (Option.some.inj dot)
  have all : names.flatMap steps = names := by
    rw [List.flatMap_congr fun name hm => steps_of_isName (single name hm), List.flatMap_singleton']
  have parts_eq := @parts_normal_joinAll_of_named root names (fun name hm => (single name hm).named) relative
  rw [none, List.nil_append, all] at parts_eq
  rw [← @absolute_normal_joinAll root names relative, ← parts_eq]

/-- Single names leave the names before them as tame as they are. -/
theorem tame_append_iff (single : ∀ name ∈ more, IsName name) : Tame root (names ++ more) ↔ Tame root names := by
  constructor
  · rintro ⟨relative, inside, front⟩
    refine ⟨fun name hm => relative name (List.mem_append_left _ hm), fun name hm => inside name (List.mem_append_left _ hm),
      fun hr first hf => front hr first ?_⟩
    rw [Option.mem_def] at hf ⊢
    exact List.head?_append.trans (by rw [hf]; rfl)
  · rintro ⟨relative, inside, front⟩
    refine ⟨fun name hm => ?_, fun name hm => ?_, fun hr first hf => ?_⟩
    · exact (List.mem_append.1 hm).elim (relative name) fun hm => (single name hm).not_isAbsolute
    · rcases List.mem_append.1 hm with hm | hm
      · exact inside name hm
      · rw [parts_of_not_mem (single name hm).single, List.mem_singleton]
        exact fun dots => (single name hm).ordinary.2 dots.symm
    · cases names with
      | cons first names => exact front hr _ hf
      | nil =>
        have name := single first (List.mem_of_mem_head? hf)
        rw [parts_of_not_mem name.single]
        exact fun dot => name.ordinary.1 (Option.some.inj dot)

end SchemaClasses.Path
