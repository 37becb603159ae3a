/-
Members written by hand survive: what a file is read for is what was written into it. The reader goes through a
file line by line and knows where a member begins only from the line that declares it, so comments must find
their member and braces must be closed before the next one; a member that is written so is read back unchanged.
-/
import SchemaClasses.Source.Render
import SchemaClasses.Proofs.Text.Segments
import SchemaClasses.Proofs.Text.Trim

namespace SchemaClasses

open Text

namespace Member

variable {line : String} {xs ys : List String}

/-! ## Lines -/

theorem endedLines_cons (line : String) (xs : List String) : endedLines (line :: xs) = line ++ "\n" ++ endedLines xs := by
  simp [endedLines, String.join_cons]

theorem endedLines_append : ∀ xs ys, endedLines (xs ++ ys) = endedLines xs ++ endedLines ys
  | [], ys => by simp [endedLines]
  | line :: xs, ys => by
    rw [List.cons_append, endedLines_cons, endedLines_cons, endedLines_append xs ys, String.append_assoc,
      String.append_assoc, String.append_assoc]

/-- Parts with others behind them are lines, each without its carriage return. -/
theorem linesOfParts_append {rest : List (List Char)} (hr : rest ≠ []) : ∀ parts,
    linesOfParts (parts ++ rest) = parts.map dropReturn ++ linesOfParts rest
  | [] => rfl
  | part :: parts => by
    obtain ⟨next, others, h⟩ := List.exists_cons_of_ne_nil (List.append_ne_nil_of_right_ne_nil parts hr)
    rw [List.cons_append, List.map_cons, List.cons_append, ← linesOfParts_append hr parts, h]
    rfl

/-- The lines of a text behind an ended line. -/
theorem lines_append (text rest : String) : lines (text ++ "\n" ++ rest) =
    ((segments '\n' text.toList).map dropReturn).map String.ofList ++ lines rest := by
  have cut : (text ++ "\n" ++ rest).toList = text.toList ++ '\n' :: rest.toList := by simp
  unfold lines
  rw [cut, segments_append, linesOfParts_append (segments_ne_nil _ _), List.map_append]

theorem lines_empty : lines "" = [] := rfl

theorem lines_endedLines_cons (line : String) (xs : List String) :
    lines (endedLines (line :: xs)) = lines (endedLines [line]) ++ lines (endedLines xs) := by
  have none : endedLines [] = "" := rfl
  rw [endedLines_cons, endedLines_cons, lines_append, lines_append, none, lines_empty, List.append_nil]

theorem lines_endedLines_append : ∀ xs ys,
    lines (endedLines (xs ++ ys)) = lines (endedLines xs) ++ lines (endedLines ys)
  | [], _ => rfl
  | line :: xs, ys => by
    rw [List.cons_append, lines_endedLines_cons, lines_endedLines_cons line xs, lines_endedLines_append xs ys,
      List.append_assoc]

/-- A text that is one line: no line feed is in it, and it does not end with a carriage return, which would
count as part of the end of the line. -/
structure IsLine (line : String) : Prop where
  one : '\n' ∉ line.toList
  ending : line.toList.getLast? ≠ some '\r'

instance : Decidable (IsLine line) :=
  decidable_of_iff ('\n' ∉ line.toList ∧ line.toList.getLast? ≠ some '\r') ⟨fun h => ⟨h.1, h.2⟩, fun h => ⟨h.1, h.2⟩⟩

theorem IsLine.lines_eq (h : IsLine line) : lines (endedLines [line]) = [line] := by
  rw [endedLines_cons, lines_append, segments_of_not_mem h.one]
  simp [dropReturn, h.ending, endedLines, lines_empty]

theorem lines_endedLines : ∀ {xs : List String}, (∀ line ∈ xs, IsLine line) → lines (endedLines xs) = xs
  | [], _ => rfl
  | line :: xs, all => by
    obtain ⟨first, others⟩ := List.forall_mem_cons.1 all
    rw [lines_endedLines_cons, first.lines_eq, lines_endedLines others]
    rfl

/-- Lines without the empty ones at the end; one empty line stays if there is nothing else. -/
def withoutEmptyEnd (xs : List String) : List String :=
  if xs.rdropWhile (· == "") = [] then [""] else xs.rdropWhile (· == "")

theorem withoutEmptyEnd_concat_empty (xs : List String) : withoutEmptyEnd (xs ++ [""]) = withoutEmptyEnd xs := by
  have dropped : (xs ++ [""]).rdropWhile (· == "") = xs.rdropWhile (· == "") := List.rdropWhile_concat_pos _ _ _ rfl
  rw [withoutEmptyEnd, withoutEmptyEnd, dropped]

theorem withoutEmptyEnd_concat (xs : List String) (filled : line ≠ "") : withoutEmptyEnd (xs ++ [line]) = xs ++ [line] := by
  have whole : (xs ++ [line]).rdropWhile (· == "") = xs ++ [line] :=
    List.rdropWhile_concat_neg _ _ _ (by simpa using filled)
  rw [withoutEmptyEnd, whole, if_neg (List.append_ne_nil_of_right_ne_nil _ (List.cons_ne_nil _ _))]

/-- Without the line feeds at the end of its text a member is without the empty lines at its end. -/
theorem endedLines_dropLineFeeds (apart : ∀ line ∈ xs, '\n' ∉ line.toList) :
    endedLines [Source.dropLineFeeds (endedLines xs)] = endedLines (withoutEmptyEnd xs) := by
  induction xs using List.reverseRecOn with
  | nil => rfl
  | append_singleton before last ih =>
    obtain ⟨others, one⟩ := List.forall_mem_append.1 apart
    have text : (endedLines (before ++ [last])).toList = ((endedLines before).toList ++ last.toList) ++ ['\n'] := by
      rw [endedLines_append, endedLines_cons]
      simp [endedLines]
    have feed : trimEnd (· == '\n') ['\n'] = [] := rfl
    by_cases empty : last = ""
    · -- the line feed of the empty line is dropped with those before it
      have trimmed : Source.dropLineFeeds (endedLines (before ++ [last])) = Source.dropLineFeeds (endedLines before) := by
        rw [Source.dropLineFeeds, text, trimEnd_append, if_pos feed, empty, String.toList_empty, List.append_nil]
        rfl
      rw [trimmed, ih others, empty, withoutEmptyEnd_concat_empty]
    · have filled : last.toList ≠ [] := fun he => empty (String.toList_eq_nil_iff.1 he)
      have kept : trimEnd (· == '\n') last.toList = last.toList := by
        refine List.rdropWhile_eq_self_iff.2 fun _ he => one last List.mem_cons_self ?_
        rw [← beq_iff_eq.1 he]
        exact List.getLast_mem _
      have trimmed : trimEnd (· == '\n') (endedLines (before ++ [last])).toList =
          (endedLines before).toList ++ last.toList := by
        rw [text, trimEnd_append, if_pos feed, trimEnd_append, kept, if_neg filled]
      rw [withoutEmptyEnd_concat _ empty]
      refine String.toList_injective ?_
      rw [endedLines_cons, Source.dropLineFeeds, trimmed, text]
      simp [endedLines]

/-! ## Comments -/

theorem behindWord?_eq_none {c w : Char} {word cs : List Char} (first : word.head? = some w) (other : w ≠ c) :
    behindWord? word (c :: cs) = none := by
  cases word with
  | nil => cases first
  | cons _ word =>
    obtain rfl := Option.some.inj first
    exact if_neg other.symm

/-- No modifier stands at the front of a text that begins with a character of a comment. -/
theorem behindModifier?_eq_none {c : Char} (hc : c ∈ ['/', '*', '#']) (cs : List Char) :
    behindModifier? (c :: cs) = none := by
  have letters : ∀ word ∈ modifiers, word.toList.head?.map Char.isAlpha = some true := by decide
  have mark : c.isAlpha = false := by
    simp only [List.mem_cons, List.not_mem_nil, or_false] at hc
    rcases hc with rfl | rfl | rfl <;> rfl
  refine List.findSome?_eq_none_iff.2 fun word hw => ?_
  obtain ⟨w, first, letter⟩ := Option.map_eq_some_iff.1 (letters word hw)
  refine behindWord?_eq_none first ?_
  rintro rfl
  rw [mark] at letter
  cases letter

/-- A comment declares nothing. -/
theorem declaredName?_of_isComment (h : isComment (trimBlank line) = true) : declaredName? line = none := by
  obtain ⟨c, cs, hc, rest⟩ : ∃ c cs, c ∈ ['/', '*', '#'] ∧ trimBoth isBlank line.toList = c :: cs := by
    simp only [isComment, beginsWith, trimBlank, String.toList_ofList, List.any_cons, List.any_nil, Bool.or_false,
      Bool.or_eq_true, List.isPrefixOf_iff_prefix] at h
    rcases h with ⟨cs, h⟩ | ⟨cs, h⟩ | ⟨cs, h⟩ | ⟨cs, h⟩ <;>
      exact ⟨_, _, by decide, h.symm⟩
  -- blanks at the end do not matter for the front
  obtain ⟨tail, ht⟩ := @prefix_trimEnd isBlank (trimStart isBlank line.toList)
  have front : line.toList.dropWhile isBlank = c :: (cs ++ tail) := by
    rw [← List.cons_append, ← rest]
    exact ht.symm
  unfold declaredName?
  rw [front, behindModifier?_eq_none hc]

/-! ## Well-written members -/

/-- Whether a line marks the beginning or the end of a region of members written by hand. -/
def IsMarker (line : String) : Prop := trimBlank line = customStart ∨ trimBlank line = customEnd

instance : Decidable (IsMarker line) := inferInstanceAs (Decidable (_ ∨ _))

/-- The lines of a member: comments, the line that declares it, and its body. -/
structure Parts where
  comments : List String
  head : String
  body : List String

def Parts.lines (p : Parts) : List String := p.comments ++ p.head :: p.body

/-- A member whose source are these lines, each ended by a line feed: comments, a line that declares its name,
and a body in which no line declares anything and comments stand only within open braces. -/
structure WrittenAs (m : Member) (p : Parts) : Prop where
  source : m.source = endedLines p.lines
  isLine : ∀ line ∈ p.lines, IsLine line
  unmarked : ∀ line ∈ p.lines, ¬ IsMarker line
  last : p.lines.getLast? ≠ some ""
  comments : ∀ line ∈ p.comments, isComment (trimBlank line) = true
  head : declaredName? p.head = some m.name
  body : ∀ i (hi : i < p.body.length), declaredName? p.body[i] = none ∧
    (isComment (trimBlank p.body[i]) = true →
      (Block.mk m.name (p.comments ++ p.head :: p.body.take i)).isOpen = true)
  closed : (Block.mk m.name p.lines).isOpen = false

instance {m : Member} {p : Parts} : Decidable (m.WrittenAs p) :=
  decidable_of_iff (m.source = endedLines p.lines ∧ (∀ line ∈ p.lines, IsLine line) ∧
      (∀ line ∈ p.lines, ¬ IsMarker line) ∧ p.lines.getLast? ≠ some "" ∧
      (∀ line ∈ p.comments, isComment (trimBlank line) = true) ∧ declaredName? p.head = some m.name ∧
      (∀ i (hi : i < p.body.length), declaredName? p.body[i] = none ∧
        (isComment (trimBlank p.body[i]) = true →
          (Block.mk m.name (p.comments ++ p.head :: p.body.take i)).isOpen = true)) ∧
      (Block.mk m.name p.lines).isOpen = false)
    ⟨fun ⟨source, isLine, unmarked, last, comments, head, body, closed⟩ =>
      ⟨source, isLine, unmarked, last, comments, head, body, closed⟩,
    fun h => ⟨h.source, h.isLine, h.unmarked, h.last, h.comments, h.head, h.body, h.closed⟩⟩

/-- A member that can be told from what stands around it. -/
def WellWritten (m : Member) : Prop := ∃ p, m.WrittenAs p

variable {m : Member} {p : Parts}

/-- Line feeds at the end are taken from a source and one is put back. -/
theorem WrittenAs.endedLines_source (h : m.WrittenAs p) : endedLines [Source.dropLineFeeds m.source] = m.source := by
  obtain ⟨before, last, split⟩ := (List.eq_nil_or_concat p.lines).resolve_left
    (List.append_ne_nil_of_right_ne_nil _ (List.cons_ne_nil _ _))
  rw [List.concat_eq_append] at split
  have filled : last ≠ "" := fun empty => h.last (by rw [split, List.getLast?_concat, empty])
  rw [h.source, endedLines_dropLineFeeds fun line hl => (h.isLine line hl).one, split, withoutEmptyEnd_concat _ filled]

/-- Well-written members beside their lines. -/
theorem exists_parts {ms : List Member} (all : ∀ m ∈ ms, m.WellWritten) :
    ∃ written : List (Member × Parts), written.map Prod.fst = ms ∧ ∀ e ∈ written, e.1.WrittenAs e.2 := by
  induction ms with
  | nil => exact ⟨[], rfl, nofun⟩
  | cons m rest ih =>
    obtain ⟨⟨p, first⟩, others⟩ := List.forall_mem_cons.1 all
    obtain ⟨written, rfl, hw⟩ := ih others
    exact ⟨(m, p) :: written, rfl, List.forall_mem_cons.2 ⟨first, hw⟩⟩

theorem WrittenAs.lines_source (h : m.WrittenAs p) : lines m.source = p.lines := by
  rw [h.source, lines_endedLines h.isLine]

/-! ## Reading -/

namespace Reading

variable {blocks : List Block} {waiting : List String} {inside : Bool} {name : String}

theorem step_of_not_marker (r : Reading) (h : ¬ IsMarker line) : r.step line = if r.inside then r.take line else r := by
  unfold IsMarker at h
  rw [not_or] at h
  simp only [step, if_neg h.1, if_neg h.2]

theorem step_customStart (h : trimBlank line = customStart) :
    step ⟨blocks, waiting, inside⟩ line = ⟨blocks, waiting, true⟩ := if_pos h

theorem step_customEnd (h : trimBlank line = customEnd) : step ⟨blocks, [], inside⟩ line = ⟨blocks, [], false⟩ := by
  have other : customEnd ≠ customStart := by decide
  simp [step, h, other, close]

/-- Lines outside the markers are passed over. -/
theorem foldl_outside : ∀ {xs : List String}, (∀ line ∈ xs, ¬ IsMarker line) →
    xs.foldl step ⟨blocks, waiting, false⟩ = ⟨blocks, waiting, false⟩
  | [], _ => rfl
  | line :: xs, all => by
    obtain ⟨first, others⟩ := List.forall_mem_cons.1 all
    rw [List.foldl_cons, step_of_not_marker _ first]
    exact foldl_outside others

/-- Comments wait where no braces are open. -/
theorem foldl_comments (closed : blocks.getLast?.any (·.isOpen) = false) : ∀ {xs : List String} {waiting : List String},
    (∀ line ∈ xs, ¬ IsMarker line) → (∀ line ∈ xs, isComment (trimBlank line) = true) →
    xs.foldl step ⟨blocks, waiting, true⟩ = ⟨blocks, waiting ++ xs, true⟩
  | [], _, _, _ => by simp
  | line :: xs, waiting, unmarked, comments => by
    obtain ⟨first, others⟩ := List.forall_mem_cons.1 unmarked
    obtain ⟨comment, comments⟩ := List.forall_mem_cons.1 comments
    have waits : step ⟨blocks, waiting, true⟩ line = ⟨blocks, waiting ++ [line], true⟩ := by
      simp [step_of_not_marker _ first, take, declaredName?_of_isComment comment, comment, closed]
    rw [List.foldl_cons, waits, foldl_comments closed others comments, List.append_assoc, List.singleton_append]

/-- The line that declares a member takes the comments that wait. -/
theorem step_head (unmarked : ¬ IsMarker line) (declares : declaredName? line = some name) :
    step ⟨blocks, waiting, true⟩ line = ⟨blocks ++ [⟨name, waiting ++ [line]⟩], [], true⟩ := by
  simp [step_of_not_marker _ unmarked, take, declares]

/-- A line of a body goes to the member that was read last. -/
theorem step_body {read : List String} (unmarked : ¬ IsMarker line) (declares : declaredName? line = none)
    (held : isComment (trimBlank line) = true → (Block.mk name read).isOpen = true) :
    step ⟨blocks ++ [⟨name, read⟩], waiting, true⟩ line = ⟨blocks ++ [⟨name, read ++ [line]⟩], waiting, true⟩ := by
  have last : (blocks ++ [Block.mk name read]).getLast? = some ⟨name, read⟩ := List.getLast?_concat
  have held : (isComment (trimBlank line) && !(Block.mk name read).isOpen) = false := by
    cases comment : isComment (trimBlank line) with
    | false => rfl
    | true => rw [held comment]; rfl
  simp [step_of_not_marker _ unmarked, take, declares, last, held, extendLast]

/-- The invariant of a body: what was read of the member is what stands before, and the last member is that one. -/
theorem foldl_body {front : List String} : ∀ {xs : List String} (before : List String),
    (∀ line ∈ xs, ¬ IsMarker line) →
    (∀ read line after, before ++ xs = read ++ line :: after → declaredName? line = none ∧
      (isComment (trimBlank line) = true → (Block.mk name (front ++ read)).isOpen = true)) →
    xs.foldl step ⟨blocks ++ [⟨name, front ++ before⟩], [], true⟩ =
      ⟨blocks ++ [⟨name, front ++ before ++ xs⟩], [], true⟩
  | [], before, _, _ => by simp
  | line :: xs, before, unmarked, body => by
    obtain ⟨first, others⟩ := List.forall_mem_cons.1 unmarked
    obtain ⟨declares, held⟩ := body before line xs rfl
    rw [List.foldl_cons, step_body first declares held, List.append_assoc, foldl_body (before ++ [line]) others]
    · simp
    · intro read next after h
      exact body read next after (by rw [← h]; simp)

/-- A well-written member is read as it is, behind the members before it. -/
theorem foldl_member (closed : blocks.getLast?.any (·.isOpen) = false) (h : m.WrittenAs p) :
    p.lines.foldl step ⟨blocks, [], true⟩ = ⟨blocks ++ [⟨m.name, p.lines⟩], [], true⟩ := by
  have unmarked := h.unmarked
  simp only [Parts.lines, List.forall_mem_append, List.forall_mem_cons] at unmarked
  obtain ⟨comments, head, body⟩ := unmarked
  have front : ∀ read, p.comments ++ p.head :: read = (p.comments ++ [p.head]) ++ read := by simp
  have rest := @foldl_body blocks m.name (p.comments ++ [p.head]) p.body [] body fun read line after he => by
    obtain ⟨declares, held⟩ := h.body read.length (by rw [← List.nil_append p.body, he]; simp)
    have split : p.body = read ++ line :: after := he
    simp only [split, List.getElem_append_right (Nat.le_refl _), Nat.sub_self, List.getElem_cons_zero,
      List.take_left] at declares held
    rw [← front]
    exact ⟨declares, held⟩
  rw [List.append_nil] at rest
  rw [Parts.lines, List.foldl_append, foldl_comments closed comments h.comments, List.nil_append, List.foldl_cons,
    step_head head h.head, rest, ← front]

/-- Well-written members are read one behind the other. -/
theorem foldl_members : ∀ {read : List (Member × Parts)} {blocks : List Block},
    blocks.getLast?.any (·.isOpen) = false → (∀ e ∈ read, e.1.WrittenAs e.2) →
    (read.flatMap fun e => e.2.lines).foldl step ⟨blocks, [], true⟩ =
      ⟨blocks ++ read.map fun e => ⟨e.1.name, e.2.lines⟩, [], true⟩
  | [], blocks, _, _ => by simp
  | e :: read, blocks, closed, all => by
    obtain ⟨first, others⟩ := List.forall_mem_cons.1 all
    have closed' : (blocks ++ [Block.mk e.1.name e.2.lines]).getLast?.any (·.isOpen) = false := by
      rw [List.getLast?_concat]
      exact first.closed
    rw [List.flatMap_cons, List.foldl_append, foldl_member closed first, foldl_members closed' others, List.map_cons,
      List.append_assoc, List.singleton_append]

end Reading

end Member

/-! ## Files -/

namespace Source

open Member

variable {c : ClassModel} {ms : List Member}

/-- What stands before the members written by hand. -/
def generatedLines (c : ClassModel) : List String := preamble c ++ [classHead c, "\x7b"] ++ memberLines c

theorem renderClass_eq (c : ClassModel) (ms : List Member) : renderClass c ms =
    endedLines (generatedLines c ++ customLines (keptMembers c ms) ++ ["\x7d"]) := rfl

/-- The region of well-written members has their lines between its markers. -/
theorem lines_customLines {written : List (Member × Parts)} (filled : written ≠ [])
    (all : ∀ e ∈ written, e.1.WrittenAs e.2) : Member.lines (endedLines (customLines (written.map Prod.fst))) =
      (indent ++ customStart) :: (written.flatMap fun e => e.2.lines) ++ [indent ++ customEnd] := by
  have sources : ∀ {written : List (Member × Parts)}, (∀ e ∈ written, e.1.WrittenAs e.2) →
      Member.lines (endedLines ((written.map Prod.fst).map fun m => dropLineFeeds m.source)) =
        written.flatMap fun e => e.2.lines := by
    intro written all
    induction written with
    | nil => rfl
    | cons e rest ih =>
      obtain ⟨first, others⟩ := List.forall_mem_cons.1 all
      rw [List.map_cons, List.map_cons, lines_endedLines_cons, first.endedLines_source, first.lines_source, ih others,
        List.flatMap_cons]
  have first : IsLine (indent ++ customStart) := ⟨by decide +kernel, by decide +kernel⟩
  have last : IsLine (indent ++ customEnd) := ⟨by decide +kernel, by decide +kernel⟩
  have some_member : (written.map Prod.fst).isEmpty = false := by simpa using filled
  rw [customLines, some_member, if_neg (by decide), lines_endedLines_append, lines_endedLines_append, first.lines_eq,
    last.lines_eq, sources all]
  rfl

/-- A file from which members are read: all that stands between its markers and nothing else. -/
theorem ofSource_of_written {written : List (Member × Parts)} (all : ∀ e ∈ written, e.1.WrittenAs e.2)
    (unmarked : ∀ line ∈ Member.lines (endedLines (generatedLines c)), ¬ IsMarker line) :
    ofSource (endedLines (generatedLines c ++ customLines (written.map Prod.fst) ++ ["\x7d"])) =
      written.map Prod.fst := by
  have brace : Member.lines (endedLines ["\x7d"]) = ["\x7d"] := by decide +kernel
  have bare : ¬ IsMarker "\x7d" := by unfold IsMarker; decide +kernel
  have members : (written.map fun e => Block.mk e.1.name e.2.lines).map Block.toMember = written.map Prod.fst := by
    rw [List.map_map]
    exact List.map_congr_left fun e he => by
      simp only [Function.comp, Block.toMember, ← (all e he).source]
  have region : (Member.lines (endedLines (customLines (written.map Prod.fst)))).foldl Reading.step {} =
      ⟨written.map fun e => ⟨e.1.name, e.2.lines⟩, [], false⟩ := by
    by_cases filled : written = []
    · rw [filled]
      rfl
    · have start : Reading.step {} (indent ++ customStart) = ⟨[], [], true⟩ :=
        Reading.step_customStart (by decide +kernel)
      have ending : ∀ blocks, Reading.step ⟨blocks, [], true⟩ (indent ++ customEnd) = ⟨blocks, [], false⟩ :=
        fun _ => Reading.step_customEnd (by decide +kernel)
      rw [lines_customLines filled all, List.cons_append, List.foldl_cons, start, List.foldl_append,
        Reading.foldl_members rfl all, List.foldl_cons, ending]
      rfl
  rw [ofSource, lines_endedLines_append, lines_endedLines_append, brace, List.foldl_append, List.foldl_append,
    Reading.foldl_outside unmarked, region, Reading.foldl_outside (by simpa using bare)]
  exact members

theorem keptMembers_keptMembers : keptMembers c (keptMembers c ms) = keptMembers c ms := by
  simp [keptMembers, List.filter_filter]

/-- Members written by hand are read back from the file of a class as they were written into it: those whose names
the class does not declare, in their order, with their names and their sources. So a file that is generated anew
with what was read from it stays as it is. -/
theorem ofSource_renderClass (generated : ∀ line ∈ Member.lines (renderClass c []), ¬ IsMarker line)
    (written : ∀ m ∈ ms, m.WellWritten) :
    ofSource (renderClass c ms) = keptMembers c ms ∧
      renderClass c (ofSource (renderClass c ms)) = renderClass c ms := by
  have empty : renderClass c [] = endedLines (generatedLines c ++ ["\x7d"]) := by
    rw [renderClass_eq]
    simp [keptMembers, customLines]
  rw [empty, lines_endedLines_append] at generated
  have keptWritten : ∀ m ∈ keptMembers c ms, m.WellWritten := fun m hm => written m (List.mem_of_mem_filter hm)
  obtain ⟨kept, hk, all⟩ := exists_parts keptWritten
  have read : ofSource (renderClass c ms) = keptMembers c ms := by
    rw [renderClass_eq, ← hk]
    exact ofSource_of_written all fun line hl => generated line (List.mem_append_left _ hl)
  rw [read, renderClass_eq, renderClass_eq, keptMembers_keptMembers]
  exact ⟨rfl, rfl⟩

/-! ## Two members in the file of an order -/

section Order

/-- An order that declares a number. -/
def order : ClassModel := (ClassModel.entity "Order" "Acme").addProperty { name := "number", typeHint := "int" }

def limit : Parts := ⟨[], "    private const LIMIT = 10;", []⟩

/-- A method with a comment over it and one in its body. -/
def total : Parts where
  comments := ["    /**", "     * Sum of all lines.", "     */"]
  head := "    public function total() : int"
  body := ["    \x7b", "        // lines are summed lazily", "        return 0;", "    \x7d"]

/-- A property that the order declares itself. -/
def number : Parts := ⟨[], "    private ?int $number = null;", []⟩

def handWritten : List Member :=
  [⟨"LIMIT", endedLines limit.lines⟩, ⟨"number", endedLines number.lines⟩, ⟨"total", endedLines total.lines⟩]

/-- The property that is declared anew is left out, and the others are read back. -/
theorem ofSource_renderClass_order :
    (∀ line ∈ Member.lines (renderClass order []), ¬ IsMarker line) ∧ (∀ m ∈ handWritten, m.WellWritten) ∧
    ofSource (renderClass order handWritten) =
      [⟨"LIMIT", endedLines limit.lines⟩, ⟨"total", endedLines total.lines⟩] ∧
    renderClass order (ofSource (renderClass order handWritten)) = renderClass order handWritten := by
  have generated : ∀ line ∈ Member.lines (renderClass order []), ¬ IsMarker line := by decide +kernel
  have written : ∀ m ∈ handWritten, m.WellWritten := by
    simp only [handWritten, List.forall_mem_cons]
    exact ⟨⟨limit, by decide +kernel⟩, ⟨number, by decide +kernel⟩, ⟨total, by decide +kernel⟩, nofun⟩
  have kept : keptMembers order handWritten =
      [⟨"LIMIT", endedLines limit.lines⟩, ⟨"total", endedLines total.lines⟩] := by decide +kernel
  obtain ⟨read, again⟩ := ofSource_renderClass generated written
  exact ⟨generated, written, read.trans kept, again⟩

end Order

end Source

end SchemaClasses
