/-
Lines written by hand are carried over. The members of a file hold the lines between its markers, each of them once,
whatever stands in them. Their order is kept as long as comments that wait for the next member are not overtaken: a
line that declares nothing and is no comment goes to the member before it, past the comments in between.
-/
import SchemaClasses.Proofs.Source.CustomMembers
import Mathlib.Data.List.Perm.Basic

namespace SchemaClasses

open Text

/-! ## Texts and their lines -/

namespace Text

theorem separator_not_mem_segments {separator : Char} : ∀ {cs part : List Char}, part ∈ segments separator cs →
    separator ∉ part
  | [], part, h => by
    rw [segments, List.mem_singleton] at h
    rw [h]
    exact List.not_mem_nil
  | c :: rest, part, h => by
    by_cases he : c = separator
    · rw [segments, if_pos he] at h
      rcases List.mem_cons.1 h with rfl | h
      · exact List.not_mem_nil
      · exact separator_not_mem_segments h
    · obtain ⟨first, others, hs⟩ := List.exists_cons_of_ne_nil (segments_ne_nil separator rest)
      have all : ∀ part ∈ first :: others, separator ∉ part := fun _ hp => separator_not_mem_segments (hs ▸ hp)
      rw [segments_cons_of_ne he hs] at h
      rcases List.mem_cons.1 h with rfl | h
      · exact fun hm => all first List.mem_cons_self ((List.mem_cons.1 hm).resolve_left fun hc => he hc.symm)
      · exact all part (List.mem_cons_of_mem _ h)

end Text

namespace Member

variable {line : String} {xs ys : List String}

theorem mem_of_mem_linesOfParts {cs : List Char} {c : Char} (hc : c ∈ cs) : ∀ {parts}, cs ∈ linesOfParts parts →
    ∃ part ∈ parts, c ∈ part
  | [last], h => by
    rw [linesOfParts] at h
    split at h
    · cases h
    · exact ⟨last, List.mem_cons_self, List.mem_singleton.1 h ▸ hc⟩
  | part :: next :: rest, h => by
    rcases List.mem_cons.1 h with rfl | h
    · refine ⟨part, List.mem_cons_self, ?_⟩
      unfold dropReturn at hc
      split at hc
      · exact List.dropLast_subset _ hc
      · exact hc
    · obtain ⟨found, hf, hm⟩ := mem_of_mem_linesOfParts hc h
      exact ⟨found, List.mem_cons_of_mem _ hf, hm⟩

theorem lineFeed_not_mem_lines {source : String} (h : line ∈ lines source) : '\n' ∉ line.toList := by
  obtain ⟨cs, hcs, rfl⟩ := List.mem_map.1 h
  intro hn
  rw [String.toList_ofList] at hn
  obtain ⟨part, hp, hm⟩ := mem_of_mem_linesOfParts hn hcs
  exact separator_not_mem_segments hp hm

theorem segments_endedLines : ∀ {xs : List String}, (∀ line ∈ xs, '\n' ∉ line.toList) →
    segments '\n' (endedLines xs).toList = xs.map String.toList ++ [[]]
  | [], _ => rfl
  | line :: xs, all => by
    obtain ⟨first, others⟩ := List.forall_mem_cons.1 all
    have cut : (endedLines (line :: xs)).toList = line.toList ++ '\n' :: (endedLines xs).toList := by
      simp [endedLines_cons]
    rw [cut, segments_append, segments_of_not_mem first, segments_endedLines others]
    rfl

/-- Lines can be told from the text that they make. -/
theorem endedLines_inj (hx : ∀ line ∈ xs, '\n' ∉ line.toList) (hy : ∀ line ∈ ys, '\n' ∉ line.toList) :
    endedLines xs = endedLines ys ↔ xs = ys := by
  refine ⟨fun h => ?_, fun h => h ▸ rfl⟩
  have same := segments_endedLines hy
  rw [← h, segments_endedLines hx] at same
  exact List.map_injective_iff.2 (fun _ _ he => String.toList_injective he) (List.append_cancel_right same)

/-! ## What one line does -/

/-- What reading a line does. -/
inductive Reads (line : String) : Reading → Reading → Prop
  | opens {r : Reading} : trimBlank line = customStart → Reads line r { r with inside := true }
  | ends {blocks : List Block} {inside : Bool} : trimBlank line = customEnd →
      Reads line ⟨blocks, [], inside⟩ ⟨blocks, [], false⟩
  /-- Comments that wait at the end of a region go to the last member. -/
  | settles {before : List Block} {last : Block} {waiting : List String} {inside : Bool} :
      trimBlank line = customEnd → waiting ≠ [] →
      Reads line ⟨before ++ [last], waiting, inside⟩ ⟨before ++ [⟨last.name, last.lines ++ waiting⟩], [], false⟩
  /-- Lines that wait at the end of a region make a member without a name if there is none. -/
  | gathers {waiting : List String} {inside : Bool} : trimBlank line = customEnd → waiting ≠ [] →
      Reads line ⟨[], waiting, inside⟩ ⟨[⟨"", waiting⟩], [], false⟩
  | passes {blocks : List Block} {waiting : List String} : ¬ IsMarker line →
      Reads line ⟨blocks, waiting, false⟩ ⟨blocks, waiting, false⟩
  | declares {blocks : List Block} {waiting : List String} {name : String} : ¬ IsMarker line →
      declaredName? line = some name →
      Reads line ⟨blocks, waiting, true⟩ ⟨blocks ++ [⟨name, waiting ++ [line]⟩], [], true⟩
  /-- A comment waits for the next member unless braces are open. -/
  | waits {blocks : List Block} {waiting : List String} : ¬ IsMarker line → declaredName? line = none →
      isComment (trimBlank line) = true → blocks.getLast?.any (·.isOpen) = false →
      Reads line ⟨blocks, waiting, true⟩ ⟨blocks, waiting ++ [line], true⟩
  /-- Any line waits as long as there is no member. -/
  | leads {waiting : List String} : ¬ IsMarker line → declaredName? line = none →
      Reads line ⟨[], waiting, true⟩ ⟨[], waiting ++ [line], true⟩
  | follows {before : List Block} {last : Block} {waiting : List String} : ¬ IsMarker line →
      declaredName? line = none → (isComment (trimBlank line) = true → last.isOpen = true) →
      Reads line ⟨before ++ [last], waiting, true⟩ ⟨before ++ [⟨last.name, last.lines ++ [line]⟩], waiting, true⟩

namespace Reading

variable {blocks : List Block} {waiting : List String}

theorem extendLast_concat (before : List Block) (last : Block) (xs : List String) :
    extendLast (before ++ [last]) xs = some (before ++ [⟨last.name, last.lines ++ xs⟩]) := by
  simp [extendLast]

theorem reads_close {r : Reading} (h : trimBlank line = customEnd) : Reads line r r.close := by
  obtain ⟨blocks, waiting, inside⟩ := r
  unfold close
  cases waiting with
  | nil => exact .ends h
  | cons first others =>
    have filled : first :: others ≠ [] := List.cons_ne_nil _ _
    rcases List.eq_nil_or_concat blocks with rfl | ⟨before, last, rfl⟩
    · exact .gathers h filled
    · rw [List.concat_eq_append, extendLast_concat]
      exact .settles h filled

theorem reads_take (h : ¬ IsMarker line) : Reads line ⟨blocks, waiting, true⟩ (take ⟨blocks, waiting, true⟩ line) := by
  unfold take
  split
  · exact .declares h ‹_›
  · rename_i none
    split
    · rename_i comment
      rw [Bool.and_eq_true, Bool.not_eq_true'] at comment
      exact .waits h none comment.1 comment.2
    · rename_i other
      rcases List.eq_nil_or_concat blocks with rfl | ⟨before, last, rfl⟩
      · exact .leads h none
      · rw [List.concat_eq_append] at other ⊢
        simp only [extendLast_concat]
        refine .follows h none fun comment => ?_
        simpa [comment] using other

theorem reads_step (r : Reading) (line : String) : Reads line r (r.step line) := by
  by_cases start : trimBlank line = customStart
  · rw [step, if_pos start]
    exact .opens start
  · by_cases ending : trimBlank line = customEnd
    · rw [step, if_neg start, if_pos ending]
      exact reads_close ending
    · have unmarked : ¬ IsMarker line := not_or.2 ⟨start, ending⟩
      obtain ⟨blocks, waiting, inside⟩ := r
      rw [step_of_not_marker _ unmarked]
      cases inside with
      | false => exact .passes unmarked
      | true => exact reads_take unmarked

end Reading

/-! ## Between the markers -/

/-- The lines between the markers; `inside` says whether the first line stands there. -/
def regionLines (inside : Bool) : List String → List String
  | [] => []
  | line :: rest =>
    if trimBlank line = customStart then regionLines true rest
    else if trimBlank line = customEnd then regionLines false rest
    else if inside then line :: regionLines inside rest
    else regionLines inside rest

/-- Whether every marker that begins a region has one behind it that ends a region. -/
def Closed : List String → Prop
  | [] => True
  | line :: rest => (trimBlank line = customStart → ∃ later ∈ rest, trimBlank later = customEnd) ∧ Closed rest

instance decidableClosed : (xs : List String) → Decidable (Closed xs)
  | [] => .isTrue trivial
  | _ :: rest => @instDecidableAnd _ _ _ (decidableClosed rest)

namespace Reading

variable {r r' : Reading}

/-- The lines that were read between markers, as the reader holds them. -/
def held (r : Reading) : List String := r.blocks.flatMap Block.lines ++ r.waiting

/-- Whether a line goes to the last member while comments wait behind that. -/
def Overtakes (r : Reading) (line : String) : Prop :=
  r.inside = true ∧ r.blocks ≠ [] ∧ r.waiting ≠ [] ∧ ¬ IsMarker line ∧ declaredName? line = none ∧
    isComment (trimBlank line) = false

instance (r : Reading) (line : String) : Decidable (r.Overtakes line) := inferInstanceAs (Decidable (_ ∧ _))

theorem regionLines_of_marker (h : IsMarker line) (inside : Bool) : regionLines inside [line] = [] := by
  unfold regionLines
  rcases h with start | ending
  · rw [if_pos start]
    rfl
  · rw [if_pos ending]
    split <;> rfl

theorem regionLines_of_not_marker (h : ¬ IsMarker line) (inside : Bool) :
    regionLines inside [line] = if inside then [line] else [] := by
  obtain ⟨start, ending⟩ := not_or.1 h
  rw [regionLines, if_neg start, if_neg ending]
  rfl

/-- What a line adds to the lines between the markers, and where the lines behind it stand. -/
theorem regionLines_cons (h : Reads line r r') (xs : List String) :
    regionLines r.inside (line :: xs) = regionLines r.inside [line] ++ regionLines r'.inside xs := by
  have other : customEnd ≠ customStart := by decide
  cases h with
  | opens start => simp [regionLines, start]
  | ends ending | settles ending | gathers ending => simp [regionLines, ending, other]
  | passes unmarked | declares unmarked | waits unmarked | leads unmarked | follows unmarked =>
    obtain ⟨start, ending⟩ := not_or.1 unmarked
    simp [regionLines, start, ending]

/-! ## No line is lost -/

theorem perm_held (h : Reads line r r') : r'.held.Perm (r.held ++ regionLines r.inside [line]) := by
  cases h with
  | opens start => simp [held, regionLines_of_marker (.inl start)]
  | ends ending | settles ending | gathers ending => simp [held, regionLines_of_marker (.inr ending)]
  | passes unmarked | declares unmarked | waits unmarked | leads unmarked =>
    simp [held, regionLines_of_not_marker unmarked]
  | @follows before last waiting unmarked =>
    simp only [held, regionLines_of_not_marker unmarked, List.flatMap_append, List.flatMap_singleton,
      List.append_assoc, if_true]
    exact (List.perm_append_comm.append_left last.lines).append_left _

theorem perm_held_foldl : ∀ (xs : List String) (r : Reading),
    (xs.foldl step r).held.Perm (r.held ++ regionLines r.inside xs)
  | [], r => by rw [regionLines, List.append_nil]; rfl
  | line :: xs, r => by
    have first := perm_held (reads_step r line)
    rw [List.foldl_cons, regionLines_cons (reads_step r line), ← List.append_assoc]
    exact (perm_held_foldl xs _).trans (first.append_right _)

/-- What every line keeps is kept by a run. -/
theorem foldl_induction {P : Reading → Prop} (keep : ∀ {line r r'}, Reads line r r' → P r → P r') :
    ∀ (xs : List String) {r : Reading}, P r → P (xs.foldl step r)
  | [], _, h => h
  | line :: xs, r, h => by
    rw [List.foldl_cons]
    exact foldl_induction keep xs (keep (reads_step r line) h)

/-- Nothing waits outside the markers. -/
theorem waiting_of_outside (xs : List String) (outside : (xs.foldl step {}).inside = false) :
    (xs.foldl step {}).waiting = [] := by
  refine foldl_induction (P := fun r => r.inside = false → r.waiting = []) (fun h before => ?_) xs (fun _ => rfl) outside
  cases h with
  | opens | declares | waits | leads | follows => exact nofun
  | ends | settles | gathers => exact fun _ => rfl
  | passes => exact fun _ => before rfl

/-- A text whose regions are closed ends outside of them. -/
theorem inside_foldl : ∀ {xs : List String} {r : Reading}, Closed xs →
    (r.inside = true → ∃ later ∈ xs, trimBlank later = customEnd) → (xs.foldl step r).inside = false
  | [], r, _, h => by
    by_contra inside
    obtain ⟨_, hl, _⟩ := h (Bool.not_eq_false _ ▸ inside)
    cases hl
  | line :: xs, r, ⟨first, others⟩, h => by
    have behind : (r.step line).inside = true → ∃ later ∈ xs, trimBlank later = customEnd := by
      have reads := reads_step r line
      generalize r.step line = r' at reads ⊢
      cases reads with
      | opens start => exact fun _ => first start
      | ends | settles | gathers | passes => exact nofun
      | declares unmarked | waits unmarked | leads unmarked | follows unmarked =>
        intro _
        obtain ⟨later, hl, ending⟩ := h rfl
        rcases List.mem_cons.1 hl with rfl | hl
        · exact absurd (.inr ending) unmarked
        · exact ⟨later, hl, ending⟩
    rw [List.foldl_cons]
    exact inside_foldl others behind

/-! ## What keeps the order -/

/-- What comments wait for: behind a member all that waits are comments, and as long as nothing overtakes them its
braces are closed. -/
structure Orderly (r : Reading) : Prop where
  comments : r.blocks ≠ [] → ∀ line ∈ r.waiting, isComment (trimBlank line) = true
  closed : r.blocks ≠ [] → r.waiting ≠ [] → r.blocks.getLast?.any (·.isOpen) = false

/-- A line that goes to the last member and overtakes nothing finds nothing that waits. -/
theorem Orderly.waiting_eq_nil {before : List Block} {last : Block} {waiting : List String}
    (orderly : Orderly ⟨before ++ [last], waiting, true⟩) (unmarked : ¬ IsMarker line) (none : declaredName? line = none)
    (inBody : isComment (trimBlank line) = true → last.isOpen = true)
    (passed : ¬ Overtakes ⟨before ++ [last], waiting, true⟩ line) : waiting = [] := by
  by_contra filled
  have closed := orderly.closed (List.append_ne_nil_of_right_ne_nil _ (List.cons_ne_nil _ _)) filled
  rw [List.getLast?_concat] at closed
  refine passed ⟨rfl, List.append_ne_nil_of_right_ne_nil _ (List.cons_ne_nil _ _), filled, unmarked, none, ?_⟩
  refine Bool.eq_false_iff.2 fun comment => ?_
  rw [Option.any_some, inBody comment] at closed
  cases closed

theorem Orderly.reads (orderly : r.Orderly) (h : Reads line r r') (passed : ¬ r.Overtakes line) : r'.Orderly := by
  cases h with
  | opens | passes => exact ⟨orderly.comments, orderly.closed⟩
  | ends | settles | gathers | declares => exact ⟨fun _ => nofun, fun _ => nofun⟩
  | waits _ _ comment closed =>
    refine ⟨fun filled other ho => ?_, fun _ _ => closed⟩
    rcases List.mem_append.1 ho with ho | ho
    · exact orderly.comments filled other ho
    · rw [List.mem_singleton.1 ho, comment]
  | leads => exact ⟨fun none => absurd rfl none, fun none => absurd rfl none⟩
  | follows unmarked none inBody =>
    obtain rfl := orderly.waiting_eq_nil unmarked none inBody passed
    exact ⟨fun _ => nofun, fun _ none => absurd rfl none⟩

/-- A line that overtakes nothing is held behind all lines before it. -/
theorem Orderly.held_eq (orderly : r.Orderly) (h : Reads line r r') (passed : ¬ r.Overtakes line) :
    r'.held = r.held ++ regionLines r.inside [line] := by
  cases h with
  | opens start => simp [held, regionLines_of_marker (.inl start)]
  | ends ending | settles ending | gathers ending => simp [held, regionLines_of_marker (.inr ending)]
  | passes unmarked | declares unmarked | waits unmarked | leads unmarked =>
    simp [held, regionLines_of_not_marker unmarked]
  | follows unmarked none inBody =>
    obtain rfl := orderly.waiting_eq_nil unmarked none inBody passed
    simp [held, regionLines_of_not_marker unmarked]

/-- A line goes behind what is there: into members of its own or to the last one. -/
theorem blocks_reads (h : Reads line r r') : (∃ others, r'.blocks = r.blocks ++ others) ∨
    ∃ before last more, r.blocks = before ++ [last] ∧ r'.blocks = before ++ [⟨last.name, last.lines ++ more⟩] := by
  cases h with
  | opens | ends | passes | waits | leads => exact .inl ⟨[], (List.append_nil _).symm⟩
  | gathers | declares => exact .inl ⟨_, rfl⟩
  | settles | follows => exact .inr ⟨_, _, _, rfl, rfl⟩

/-- The last member stays where it is and only gains lines. -/
theorem exists_blocks_foldl {before : List Block} {b : Block} (xs : List String) (h : r.blocks = before ++ [b]) :
    ∃ more others, (xs.foldl step r).blocks = before ++ ⟨b.name, b.lines ++ more⟩ :: others := by
  refine foldl_induction (P := fun r' => ∃ more others, r'.blocks = before ++ ⟨b.name, b.lines ++ more⟩ :: others)
    (fun reads ⟨more, others, there⟩ => ?_) xs ⟨[], [], by rw [h, List.append_nil]⟩
  rcases blocks_reads reads with ⟨new, after⟩ | ⟨front, last, added, whole, after⟩
  · exact ⟨more, others ++ new, by rw [after, there, List.append_assoc, List.cons_append]⟩
  · rw [there] at whole
    rcases List.eq_nil_or_concat others with rfl | ⟨others, other, rfl⟩
    · obtain ⟨rfl, last_eq⟩ := List.append_inj' whole rfl
      obtain rfl := (List.cons.inj last_eq).1
      exact ⟨more ++ added, [], by rw [after, List.append_assoc]⟩
    · rw [List.concat_eq_append, ← List.cons_append, ← List.append_assoc] at whole
      obtain ⟨rfl, -⟩ := List.append_inj' whole rfl
      exact ⟨more, others ++ [⟨last.name, last.lines ++ added⟩], by rw [after]; simp⟩

/-- A member with another one behind it stays as it is. -/
theorem exists_blocks_foldl_of_cons {before others : List Block} {b next : Block} (xs : List String)
    (h : r.blocks = before ++ b :: next :: others) : ∃ others, (xs.foldl step r).blocks = before ++ b :: others := by
  obtain ⟨front, last, split⟩ := (List.eq_nil_or_concat (next :: others)).resolve_left (List.cons_ne_nil _ _)
  have whole : r.blocks = (before ++ b :: front) ++ [last] := by
    rw [h, split, List.concat_eq_append, List.append_assoc, List.cons_append]
  obtain ⟨_, _, after⟩ := exists_blocks_foldl xs whole
  exact ⟨_, by rw [after, List.append_assoc, List.cons_append]⟩

theorem flatMap_blocks_foldl (xs : List String) (r : Reading) :
    ∃ more, (xs.foldl step r).blocks.flatMap Block.lines = r.blocks.flatMap Block.lines ++ more := by
  rcases List.eq_nil_or_concat r.blocks with none | ⟨before, last, whole⟩
  · exact ⟨_, by rw [none]; rfl⟩
  · rw [List.concat_eq_append] at whole
    obtain ⟨more, others, after⟩ := exists_blocks_foldl xs whole
    exact ⟨more ++ others.flatMap Block.lines, by rw [after, whole]; simp⟩

/-- A line that overtakes goes to the last member. -/
theorem Overtakes.blocks_eq (o : r.Overtakes line) (h : Reads line r r') :
    r'.blocks.flatMap Block.lines = r.blocks.flatMap Block.lines ++ [line] := by
  obtain ⟨inside, filled, -, unmarked, none, plain⟩ := o
  cases h with
  | opens start => exact absurd (.inl start) unmarked
  | ends ending | settles ending | gathers ending => exact absurd (.inr ending) unmarked
  | passes => cases inside
  | declares _ declares => rw [none] at declares; cases declares
  | waits _ _ comment => rw [plain] at comment; cases comment
  | leads => exact absurd rfl filled
  | follows => simp

/-- Once comments are overtaken they are not in their place any more. -/
theorem Orderly.overtaken (orderly : r.Orderly) (o : r.Overtakes line) (xs rest : List String) :
    (xs.foldl step (r.step line)).blocks.flatMap Block.lines ≠ r.held ++ rest := by
  obtain ⟨first, others, waiting⟩ := List.exists_cons_of_ne_nil o.2.2.1
  have comment := orderly.comments o.2.1 first (waiting ▸ List.mem_cons_self)
  obtain ⟨more, after⟩ := flatMap_blocks_foldl xs (r.step line)
  rw [after, o.blocks_eq (reads_step r line), held, waiting, List.append_assoc, List.append_assoc, ne_eq,
    List.append_cancel_left_eq]
  intro same
  obtain ⟨rfl, -⟩ := List.cons.inj same
  rw [o.2.2.2.2.2] at comment
  cases comment

/-- The lines between the markers are carried over in their order if and only if none overtakes comments. -/
theorem Orderly.blocks_foldl_iff : ∀ {xs : List String} {r : Reading}, r.Orderly → (xs.foldl step r).waiting = [] →
    ((xs.foldl step r).blocks.flatMap Block.lines = r.held ++ regionLines r.inside xs ↔
      ∀ before line after, xs = before ++ line :: after → ¬ (before.foldl step r).Overtakes line)
  | [], r, _, waiting => by
    have waiting : r.waiting = [] := waiting
    simp [held, waiting, regionLines]
  | line :: xs, r, orderly, waiting => by
    rw [List.foldl_cons] at waiting ⊢
    by_cases o : r.Overtakes line
    · refine iff_of_false (orderly.overtaken o xs _) fun none => ?_
      have here := none [] line xs rfl
      rw [List.foldl_nil] at here
      exact here o
    · have reads := reads_step r line
      rw [regionLines_cons reads, ← List.append_assoc, ← orderly.held_eq reads o,
        (orderly.reads reads o).blocks_foldl_iff waiting]
      refine ⟨fun none before other after split => ?_, fun none before other after split => ?_⟩
      · cases before with
        | nil =>
          obtain ⟨rfl, rfl⟩ := List.cons.inj split
          rw [List.foldl_nil]
          exact o
        | cons _ before =>
          obtain ⟨rfl, rest⟩ := List.cons.inj split
          rw [List.foldl_cons]
          exact none before other after rest
      · have there := none (line :: before) other after (congrArg (line :: ·) split)
        rwa [List.foldl_cons] at there

end Reading

/-! ## Members of a file -/

/-- The members in a file as they are read, with their lines. -/
def readBlocks (source : String) : List Block := ((lines source).foldl Reading.step {}).blocks

theorem join_map_source : ∀ blocks : List Block,
    String.join ((blocks.map Block.toMember).map Member.source) = endedLines (blocks.flatMap Block.lines)
  | [] => rfl
  | b :: rest => by
    rw [List.map_cons, List.map_cons, String.join_cons, join_map_source rest, List.flatMap_cons, endedLines_append]
    rfl

theorem regionLines_subset : ∀ {inside : Bool} {xs : List String}, regionLines inside xs ⊆ xs
  | _, [] => List.Subset.refl _
  | inside, line :: rest => by
    rw [regionLines]
    split
    · exact List.subset_cons_of_subset _ regionLines_subset
    · split
      · exact List.subset_cons_of_subset _ regionLines_subset
      · split
        · exact List.cons_subset_cons _ regionLines_subset
        · exact List.subset_cons_of_subset _ regionLines_subset

/-- No line of a member has a line feed in it. -/
theorem lineFeed_not_mem_readBlocks {source : String} : ∀ b ∈ readBlocks source, ∀ line ∈ b.lines, '\n' ∉ line.toList := by
  intro b hb line hl
  have held : line ∈ ((lines source).foldl Reading.step {}).held :=
    List.mem_append_left _ (List.mem_flatMap.2 ⟨b, hb, hl⟩)
  exact lineFeed_not_mem_lines (regionLines_subset ((Reading.perm_held_foldl (lines source) {}).mem_iff.1 held))

/-- Lines written by hand are carried over: in a file whose regions are closed the members hold the lines between the
markers, none lost and none twice, and their order is the same if and only if no line overtakes comments that wait for
the next member. -/
theorem join_ofSource (source : String) (closed : Closed (lines source)) :
    (∃ carried, carried.Perm (regionLines false (lines source)) ∧
      String.join ((ofSource source).map Member.source) = endedLines carried) ∧
    (String.join ((ofSource source).map Member.source) = endedLines (regionLines false (lines source)) ↔
      ∀ before line after, lines source = before ++ line :: after → ¬ (before.foldl Reading.step {}).Overtakes line) := by
  have waiting := Reading.waiting_of_outside _ (Reading.inside_foldl closed nofun)
  have orderly : Reading.Orderly {} := ⟨fun none => absurd rfl none, fun none => absurd rfl none⟩
  have joined : String.join ((ofSource source).map Member.source) = endedLines ((readBlocks source).flatMap Block.lines) :=
    join_map_source _
  have carried : ((readBlocks source).flatMap Block.lines).Perm (regionLines false (lines source)) := by
    have held := Reading.perm_held_foldl (lines source) {}
    rwa [Reading.held, waiting, List.append_nil] at held
  have apart : ∀ line ∈ (readBlocks source).flatMap Block.lines, '\n' ∉ line.toList := fun line hl => by
    obtain ⟨b, hb, hl⟩ := List.mem_flatMap.1 hl
    exact lineFeed_not_mem_readBlocks b hb line hl
  have apart' : ∀ line ∈ regionLines false (lines source), '\n' ∉ line.toList :=
    fun _ hl => lineFeed_not_mem_lines (regionLines_subset hl)
  refine ⟨⟨_, carried, joined⟩, ?_⟩
  rw [joined, endedLines_inj apart apart']
  exact orderly.blocks_foldl_iff waiting

/-- Two properties, and between them a comment in which a line does not begin with an asterisk. -/
def documented : String :=
  "// @custom-start\n    private $a;\n    /**\n      Sum of all lines.\n     */\n    private $b;\n// @custom-end\n"

/-- The text of the comment goes to the first property, and the rest of the comment to the second one. -/
theorem join_ofSource_documented : Closed (lines documented) ∧
    ofSource documented =
      [⟨"a", "    private $a;\n      Sum of all lines.\n"⟩, ⟨"b", "    /**\n     */\n    private $b;\n"⟩] ∧
    (∃ carried, carried.Perm (regionLines false (lines documented)) ∧
      String.join ((ofSource documented).map Member.source) = endedLines carried) ∧
    String.join ((ofSource documented).map Member.source) ≠ endedLines (regionLines false (lines documented)) := by
  have cut : lines documented = ["// @custom-start", "    private $a;", "    /**"] ++
      "      Sum of all lines." :: ["     */", "    private $b;", "// @custom-end"] := by decide +kernel
  have closed : Closed (lines documented) := by decide +kernel
  obtain ⟨carried, inOrder⟩ := join_ofSource documented closed
  exact ⟨closed, by decide +kernel, carried, fun same => inOrder.1 same _ _ _ cut (by decide +kernel)⟩

end Member

end SchemaClasses
