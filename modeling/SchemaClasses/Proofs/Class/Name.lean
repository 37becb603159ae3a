/-
Qualified names taken apart and put together again. A short name without backslashes keeps apart from its namespace,
and a name without empty segments falls into a namespace and a short name that give it back.
-/
import SchemaClasses.Class.Graph
import SchemaClasses.Proofs.Text.Trim

namespace SchemaClasses

open Text

/-- A short name, as the naming filters make them: without backslashes. -/
def IsShort (name : String) : Prop := '\\' ∉ name.toList

instance (name : String) : Decidable (IsShort name) := inferInstanceAs (Decidable ('\\' ∉ name.toList))

/-- A fully-qualified name without empty segments. -/
def IsGapless (fqcn : String) : Prop := [] ∉ segments '\\' fqcn.toList

instance (fqcn : String) : Decidable (IsGapless fqcn) :=
  inferInstanceAs (Decidable ([] ∉ segments '\\' fqcn.toList))

/-- A namespace as it stands in a class: without backslashes at its ends. -/
def IsTrimmed (space : String) : Prop := trimBackslashes space = space

variable {space name : String}

theorem isTrimmed_trimBackslashes (s : String) : IsTrimmed (trimBackslashes s) := trimBackslashes_trimBackslashes s

theorem isTrimmed_empty : IsTrimmed "" := by
  unfold IsTrimmed
  rfl

theorem isTrimmed_of_isGapless (h : IsGapless space) : IsTrimmed space := by
  rw [IsTrimmed, trimBackslashes, trimBoth_of_segments h, String.ofList_toList]

theorem isTrimmed_extractNamespace (ambient : String) (definition : TypeDef) :
    IsTrimmed (extractNamespace ambient definition) := by
  unfold extractNamespace
  split <;> exact isTrimmed_trimBackslashes _

/-- The traits of a definition are all that decides its namespace. -/
theorem extractNamespace_of_traits {d d' : TypeDef} (h : d.traits = d'.traits) (ambient : String) :
    extractNamespace ambient d = extractNamespace ambient d' := by
  unfold extractNamespace TypeDef.customNamespace?
  rw [h]

theorem propertyTypeHint_of_traits {d d' : TypeDef} (h : d.traits = d'.traits) (className : String) :
    propertyTypeHint className d = propertyTypeHint className d' := by
  unfold propertyTypeHint TypeDef.isRequired TypeDef.isNullable
  rw [h]

theorem head?_trimBackslashes {s : String} {c : Char} (h : (trimBackslashes s).toList.head? = some c) :
    (c == '\\') = false := by
  rw [toList_trimBackslashes] at h
  exact @head?_trimBoth (· == '\\') _ c h

theorem eq_empty_of_toList {s : String} (h : s.toList = []) : s = "" := by
  rw [← String.toList_inj, h]
  rfl

/-- Nothing is dropped from the front of a qualified name. -/
theorem trimStart_qualify (h : IsShort name) :
    trimStart (· == '\\') (qualify space name).toList = (qualify space name).toList := by
  apply trimStart_eq_self
  intro c hc
  unfold qualify at hc
  simp only at hc
  split at hc
  · rw [beq_eq_false_iff_ne]
    rintro rfl
    exact h (List.mem_of_mem_head? hc)
  · rename_i hs
    -- the name begins as the namespace does, and that was trimmed
    apply @head?_trimBackslashes space
    cases hl : (trimBackslashes space).toList with
    | nil => exact absurd (eq_empty_of_toList hl) hs
    | cons first rest =>
      rw [String.toList_append, String.toList_append, hl] at hc
      exact hc

theorem splitFqcn_qualify (h : IsShort name) : splitFqcn (qualify space name) = (trimBackslashes space, name) := by
  unfold splitFqcn
  simp only
  rw [trimStart_qualify h]
  unfold qualify
  simp only
  split
  · rename_i hs
    rw [hs, afterLast_of_not_mem h, beforeLast_of_not_mem h, String.ofList_toList]
  · have hc : (trimBackslashes space ++ "\\" ++ name).toList =
        (trimBackslashes space).toList ++ '\\' :: name.toList := by
      rw [String.toList_append, String.toList_append, List.append_assoc]
      rfl
    rw [hc, afterLast_append h, beforeLast_append h, String.ofList_toList, String.ofList_toList]

theorem shortName_qualify (h : IsShort name) : shortName (qualify space name) = name := by
  rw [shortName, splitFqcn_qualify h]

theorem namespaceOf_qualify (h : IsShort name) : namespaceOf (qualify space name) = trimBackslashes space := by
  rw [namespaceOf, splitFqcn_qualify h]

theorem withoutLeadingBackslashes_qualify (h : IsShort name) :
    withoutLeadingBackslashes (qualify space name) = qualify space name := by
  rw [withoutLeadingBackslashes, trimStart_qualify h, String.ofList_toList]

theorem qualify_trimBackslashes (space name : String) : qualify (trimBackslashes space) name = qualify space name := by
  unfold qualify
  rw [trimBackslashes_trimBackslashes]

/-! ## Names as namespaces -/

theorem toList_backslash_append (s : String) : ("\\" ++ s).toList = '\\' :: s.toList := by
  rw [String.toList_append]
  rfl

theorem qualify_of_ne (trim : IsTrimmed space) (hs : space ≠ "") (name : String) :
    qualify space name = space ++ "\\" ++ name := by
  unfold qualify
  rw [trim]
  exact if_neg hs

/-- A name without empty segments is that of a short name in a namespace. -/
theorem IsGapless.exists_qualify {fqcn : String} (h : IsGapless fqcn) :
    ∃ space name, IsShort name ∧ qualify space name = fqcn := by
  by_cases hm : '\\' ∈ fqcn.toList
  · obtain ⟨before, after, hc, hn⟩ := exists_last_separator hm
    have inner : IsGapless (String.ofList before) := by
      unfold IsGapless at h ⊢
      rw [hc, segments_append, List.mem_append, not_or] at h
      rw [String.toList_ofList]
      exact h.1
    have filled : String.ofList before ≠ "" := by
      intro he
      rw [he] at inner
      exact inner (List.mem_singleton_self _)
    refine ⟨String.ofList before, String.ofList after, ?_, ?_⟩
    · rwa [IsShort, String.toList_ofList]
    · rw [qualify_of_ne (isTrimmed_of_isGapless inner) filled, String.append_assoc, ← String.toList_inj,
        String.toList_append, toList_backslash_append, String.toList_ofList, String.toList_ofList, hc]
  · exact ⟨"", fqcn, hm, rfl⟩

/-- A name without empty segments is put together again from what it falls into. -/
theorem qualify_splitFqcn {fqcn : String} (h : IsGapless fqcn) :
    qualify (splitFqcn fqcn).1 (splitFqcn fqcn).2 = fqcn := by
  obtain ⟨space, name, hn, rfl⟩ := h.exists_qualify
  rw [splitFqcn_qualify hn, qualify_trimBackslashes]

theorem qualify_append (space name more : String) :
    qualify space name ++ "\\" ++ more = qualify space (name ++ "\\" ++ more) := by
  unfold qualify
  simp only
  split
  · rfl
  · simp only [String.append_assoc]

theorem qualify_ne_empty (hn : name ≠ "") : qualify space name ≠ "" := by
  unfold qualify
  simp only
  split
  · exact hn
  · exact fun he => hn (String.append_eq_empty_iff.1 he).2

/-- A backslash stays between a namespace and a name, and goes where there is no namespace. -/
theorem trimBackslashes_joined (trim : IsTrimmed name) (hn : name ≠ "") :
    trimBackslashes (trimBackslashes space ++ "\\" ++ name) = qualify space name := by
  have chars : trimBoth (· == '\\') name.toList = name.toList := by rw [← toList_trimBackslashes, trim]
  unfold qualify
  rw [← String.toList_inj, toList_trimBackslashes]
  simp only
  split
  · rename_i empty
    rw [empty, String.empty_append, toList_backslash_append]
    exact chars
  · rename_i filled
    have front : trimBoth (· == '\\') (trimBackslashes space).toList = (trimBackslashes space).toList := by
      rw [← toList_trimBackslashes, trimBackslashes_trimBackslashes]
    rw [String.toList_append, String.toList_append]
    exact trimBoth_between front chars
      ⟨fun he => filled (eq_empty_of_toList he), fun he => hn (eq_empty_of_toList he)⟩ _

/-- A qualified name can serve as a namespace itself, if the name in it can. -/
theorem isTrimmed_qualify (trim : IsTrimmed name) (hn : name ≠ "") : IsTrimmed (qualify space name) := by
  rw [← trimBackslashes_joined trim hn]
  exact isTrimmed_trimBackslashes _

theorem isTrimmed_of_isShort (h : IsShort name) : IsTrimmed name := by
  by_cases hn : name = ""
  · rw [hn]
    exact isTrimmed_empty
  · refine isTrimmed_of_isGapless fun empty => ?_
    rw [segments_of_not_mem h, List.mem_singleton] at empty
    exact hn (eq_empty_of_toList empty.symm)

/-! ## Names with one part in common -/

theorem length_qualify (trim : IsTrimmed space) (name : String) : (qualify space name).length =
    (if space = "" then 0 else space.length + 1) + name.length := by
  unfold qualify
  rw [trim]
  simp only
  split
  · omega
  · rw [String.length_append, String.length_append]
    rfl

/-- A name in a namespace decides the namespace. -/
theorem qualify_space_inj {space' : String} (hs : IsTrimmed space) (hs' : IsTrimmed space')
    (he : qualify space name = qualify space' name) : space = space' := by
  have length := congrArg String.length he
  rw [length_qualify hs, length_qualify hs'] at length
  unfold qualify at he
  rw [hs, hs'] at he
  simp only at he
  split at he <;> split at he
  · rename_i h h'
    rw [h, h']
  · rename_i h h'
    rw [if_pos h, if_neg h'] at length
    omega
  · rename_i h h'
    rw [if_neg h, if_pos h'] at length
    omega
  · exact (String.append_left_inj _).1 ((String.append_left_inj _).1 he)

/-- A name in a namespace decides the short name. -/
theorem qualify_name_inj {name' : String} (he : qualify space name = qualify space name') :
    name = name' := by
  unfold qualify at he
  simp only at he
  split at he
  · exact he
  · exact (String.append_right_inj _).1 he

end SchemaClasses
