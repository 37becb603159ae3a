/-
Declarations written by hand are read one by one. What is between two markers may be a sequence of declarations, each
with comments in front and any lines behind the one that declares its name; each of them is read as one member with
exactly its lines if and only if no line of a body declares anything, and comments stand in a body only where more
braces are opened than closed, and in front of a declaration only where they are not.
-/
import SchemaClasses.Proofs.Source.CustomLines

namespace SchemaClasses.Member

open Text

variable {line : String} {xs : List String} {p : Parts}

/-! ## Declarations and regions -/

/-- The member that a declaration stands for, as it should be read. -/
def Parts.block (p : Parts) : Block := ⟨(declaredName? p.head).getD "", p.lines⟩

/-- A declaration with comments in front of it; what its body holds is left open, but for markers. -/
structure Parts.IsDeclaration (p : Parts) : Prop where
  comments : ∀ line ∈ p.comments, isComment (trimBlank line) = true
  head : (declaredName? p.head).isSome = true
  unmarked : ∀ line ∈ p.lines, ¬ IsMarker line

theorem Parts.lines_eq (p : Parts) : p.lines = p.comments ++ [p.head] ++ p.body := by simp [Parts.lines]

theorem Parts.IsDeclaration.unmarked_body (h : p.IsDeclaration) : ∀ line ∈ p.body, ¬ IsMarker line := fun line hl =>
  h.unmarked line (List.mem_append_right _ (List.mem_cons_of_mem _ hl))

/-- A region of declarations: the lines in front of it, and its markers. -/
structure Region where
  outside : List String
  opening : String
  parts : List Parts
  closing : String

def Region.lines (g : Region) : List String :=
  g.outside ++ g.opening :: (g.parts.flatMap Parts.lines ++ [g.closing])

structure Region.IsRegular (g : Region) : Prop where
  outside : ∀ line ∈ g.outside, ¬ IsMarker line
  opening : trimBlank g.opening = customStart
  parts : ∀ p ∈ g.parts, p.IsDeclaration
  closing : trimBlank g.closing = customEnd

/-! ## What keeps them whole -/

/-- What is read of a declaration when some lines of its body are. -/
def Parts.upTo (p : Parts) (read : List String) : Block :=
  ⟨(declaredName? p.head).getD "", p.comments ++ [p.head] ++ read⟩

theorem Parts.upTo_body (p : Parts) : p.upTo p.body = p.block := by simp [upTo, block, Parts.lines]

/-- A body whose lines stay together: none declares anything, and comments stand where braces are open, or else
nothing but comments stands behind them up to the end of the region. -/
def Parts.Coheres (p : Parts) (atEnd : Bool) : Prop :=
  ∀ read line rest, p.body = read ++ line :: rest → declaredName? line = none ∧
    (isComment (trimBlank line) = true → (p.upTo read).isOpen = true ∨
      atEnd = true ∧ ∀ later ∈ rest, isComment (trimBlank later) = true)

/-- Declarations of a region that stay whole: their bodies do, and no comments stand where braces are open. `isOpen`
says whether braces are open before them. -/
def StayWhole (isOpen : Bool) : List Parts → Prop
  | [] => True
  | p :: rest => (isOpen = true → p.comments = []) ∧ p.Coheres rest.isEmpty ∧ StayWhole p.block.isOpen rest

/-- Whether braces are open behind declarations. -/
def openBehind (isOpen : Bool) (ps : List Parts) : Bool := (ps.getLast?.map fun p => p.block.isOpen).getD isOpen

/-- Regions whose declarations stay whole. -/
def AllStayWhole (isOpen : Bool) : List Region → Prop
  | [] => True
  | g :: rest => StayWhole isOpen g.parts ∧ AllStayWhole (openBehind isOpen g.parts) rest

namespace Reading

variable {r : Reading} {blocks before : List Block} {b : Block} {name : String}

/-! ## Members while reading goes on -/

/-- A member is done once a line behind it declares the next one. -/
theorem eq_of_declares {waiting : List String} {b' : Block} {others : List Block} (unmarked : ¬ IsMarker line)
    (declares : declaredName? line = some name)
    (same : ((line :: xs).foldl step ⟨before ++ [b], waiting, true⟩).blocks = before ++ b' :: others) : b' = b := by
  have behind : (Reading.mk (before ++ [b] ++ [⟨name, waiting ++ [line]⟩]) [] true).blocks =
      before ++ b :: [⟨name, waiting ++ [line]⟩] := List.append_assoc ..
  obtain ⟨_, left⟩ := exists_blocks_foldl_of_cons xs behind
  rw [List.foldl_cons, step_head unmarked declares, left, List.append_cancel_left_eq] at same
  exact (List.cons.inj same).1.symm

/-- A line that goes to the last member stays there. -/
theorem exists_eq_of_follows {waiting : List String} {b' : Block} {others : List Block} (unmarked : ¬ IsMarker line)
    (none : declaredName? line = none) (held : isComment (trimBlank line) = true → b.isOpen = true)
    (same : ((line :: xs).foldl step ⟨before ++ [b], waiting, true⟩).blocks = before ++ b' :: others) :
    ∃ more, b' = ⟨b.name, b.lines ++ line :: more⟩ := by
  obtain ⟨more, _, left⟩ :=
    exists_blocks_foldl (r := ⟨before ++ [⟨b.name, b.lines ++ [line]⟩], waiting, true⟩) xs rfl
  rw [List.foldl_cons, step_body unmarked none held, left, List.append_cancel_left_eq] at same
  refine ⟨more, ?_⟩
  rw [← (List.cons.inj same).1, List.append_assoc, List.singleton_append]

/-! ## Members that are read whole -/

/-- Comments and the line that declares a name are read together unless braces are open before them. -/
theorem foldl_head (h : p.IsDeclaration) (closed : blocks.getLast?.any (·.isOpen) = true → p.comments = []) :
    (p.comments ++ [p.head]).foldl step ⟨blocks, [], true⟩ = ⟨blocks ++ [p.upTo []], [], true⟩ := by
  obtain ⟨comments, head⟩ := List.forall_mem_append.1 h.unmarked
  have declares : declaredName? p.head = some ((declaredName? p.head).getD "") := by
    obtain ⟨name, named⟩ := Option.isSome_iff_exists.1 h.head
    rw [named]
    rfl
  have waits : p.comments.foldl step ⟨blocks, [], true⟩ = ⟨blocks, p.comments, true⟩ := by
    cases isOpen : blocks.getLast?.any (·.isOpen) with
    | true => rw [closed isOpen]; rfl
    | false => rw [foldl_comments isOpen comments h.comments, List.nil_append]
  rw [List.foldl_append, waits, List.foldl_cons, step_head (head _ List.mem_cons_self) declares, Parts.upTo,
    List.append_nil]
  rfl

/-- Lines that go to the member before them, and comments at the end of the region. -/
theorem foldl_body_end {closing : String} (ending : trimBlank closing = customEnd) : ∀ {xs front : List String},
    (∀ line ∈ xs, ¬ IsMarker line) →
    (∀ read line rest, xs = read ++ line :: rest → declaredName? line = none ∧
      (isComment (trimBlank line) = true → (Block.mk name (front ++ read)).isOpen = true ∨
        ∀ later ∈ rest, isComment (trimBlank later) = true)) →
    (xs ++ [closing]).foldl step ⟨blocks ++ [⟨name, front⟩], [], true⟩ =
      ⟨blocks ++ [⟨name, front ++ xs⟩], [], false⟩
  | [], front, _, _ => by
    rw [List.append_nil, List.nil_append, List.foldl_cons, List.foldl_nil]
    exact step_customEnd ending
  | line :: xs, front, unmarked, body => by
    obtain ⟨first, others⟩ := List.forall_mem_cons.1 unmarked
    obtain ⟨none, held⟩ := body [] line xs rfl
    rw [List.append_nil] at held
    by_cases follows : isComment (trimBlank line) = true → (Block.mk name front).isOpen = true
    · rw [List.cons_append, List.foldl_cons, step_body first none follows,
        foldl_body_end ending others fun read next rest split => by
          rw [List.append_assoc]
          exact body (line :: read) next rest (congrArg (line :: ·) split),
        List.append_assoc, List.singleton_append]
    · -- nothing but comments is left, and the end of the region finds them waiting
      obtain ⟨comment, closed⟩ := not_forall.1 follows
      have comments : ∀ other ∈ line :: xs, isComment (trimBlank other) = true :=
        List.forall_mem_cons.2 ⟨comment, (held comment).resolve_left closed⟩
      have closed : (blocks ++ [Block.mk name front]).getLast?.any (·.isOpen) = false := by
        rw [List.getLast?_concat]
        exact Bool.eq_false_iff.2 closed
      rw [List.foldl_append, foldl_comments closed unmarked comments, List.nil_append, List.foldl_cons, List.foldl_nil]
      have other : customEnd ≠ customStart := by decide
      simp [step, ending, other, close, extendLast]

theorem foldl_coherent (h : p.IsDeclaration) (coheres : p.Coheres false) :
    p.body.foldl step ⟨blocks ++ [p.upTo []], [], true⟩ = ⟨blocks ++ [p.block], [], true⟩ := by
  have read := @foldl_body blocks _ (p.comments ++ [p.head]) p.body [] h.unmarked_body fun read line rest split =>
    (coheres read line rest split).imp_right fun held comment => (held comment).resolve_right nofun
  rw [← p.upTo_body, Parts.upTo, Parts.upTo, List.append_nil]
  rwa [List.append_nil] at read

theorem foldl_coherent_end (h : p.IsDeclaration) (coheres : p.Coheres true) {closing : String}
    (ending : trimBlank closing = customEnd) :
    (p.body ++ [closing]).foldl step ⟨blocks ++ [p.upTo []], [], true⟩ = ⟨blocks ++ [p.block], [], false⟩ := by
  rw [← p.upTo_body, Parts.upTo, List.append_nil]
  exact foldl_body_end ending h.unmarked_body fun read line rest split =>
    (coheres read line rest split).imp_right fun held comment => (held comment).imp_right And.right

theorem isOpen_concat (blocks : List Block) (b : Block) : (blocks ++ [b]).getLast?.any (·.isOpen) = b.isOpen := by
  rw [List.getLast?_concat]
  rfl

/-- Declarations that stay whole are read one by one. -/
theorem foldl_parts {closing : String} (ending : trimBlank closing = customEnd) : ∀ {ps : List Parts} {blocks : List Block},
    (∀ p ∈ ps, p.IsDeclaration) → StayWhole (blocks.getLast?.any (·.isOpen)) ps →
    (ps.flatMap Parts.lines ++ [closing]).foldl step ⟨blocks, [], true⟩ = ⟨blocks ++ ps.map Parts.block, [], false⟩
  | [], blocks, _, _ => by
    rw [List.flatMap_nil, List.map_nil, List.append_nil, List.nil_append, List.foldl_cons, List.foldl_nil]
    exact step_customEnd ending
  | [p], blocks, all, ⟨closed, coheres, _⟩ => by
    have first := all p List.mem_cons_self
    rw [List.flatMap_singleton, p.lines_eq, List.append_assoc, List.foldl_append, foldl_head first closed]
    exact foldl_coherent_end first coheres ending
  | p :: next :: rest, blocks, all, ⟨closed, coheres, whole⟩ => by
    obtain ⟨first, others⟩ := List.forall_mem_cons.1 all
    rw [List.flatMap_cons, p.lines_eq, List.append_assoc, List.append_assoc, List.foldl_append, foldl_head first closed,
      List.foldl_append, foldl_coherent first coheres,
      foldl_parts ending others (by rw [isOpen_concat]; exact whole), List.append_assoc]
    rfl

/-! ## Only these are read whole -/

/-- What goes on: comments, and a line that is none. -/
def GoesOn (xs : List String) : Prop := ∃ cs line after, xs = cs ++ line :: after ∧
  (∀ other ∈ cs, isComment (trimBlank other) = true) ∧ isComment (trimBlank line) = false ∧
  ∀ other ∈ cs ++ [line], ¬ IsMarker other

theorem GoesOn.append {ys : List String} (h : GoesOn ys) (comments : ∀ line ∈ xs, isComment (trimBlank line) = true)
    (unmarked : ∀ line ∈ xs, ¬ IsMarker line) : GoesOn (xs ++ ys) := by
  obtain ⟨cs, line, after, rfl, others, plain, none⟩ := h
  refine ⟨xs ++ cs, line, after, (List.append_assoc ..).symm, List.forall_mem_append.2 ⟨comments, others⟩, plain, ?_⟩
  rw [List.append_assoc]
  exact List.forall_mem_append.2 ⟨unmarked, none⟩

/-- Lines that do not go on are comments. -/
theorem isComment_of_not_goesOn {ys : List String} (unmarked : ∀ line ∈ xs, ¬ IsMarker line) (h : ¬ GoesOn (xs ++ ys)) :
    ∀ line ∈ xs, isComment (trimBlank line) = true := by
  cases first : xs.find? fun line => !isComment (trimBlank line) with
  | none => simpa using first
  | some line =>
    obtain ⟨plain, cs, after, rfl, comments⟩ := List.find?_eq_some_iff_append.1 first
    refine absurd ⟨cs, line, after ++ ys, by simp, by simpa using comments, by simpa using plain, fun other ho => ?_⟩ h
    exact unmarked other (List.append_subset.2 ⟨List.subset_append_left .., by simp⟩ ho)

/-- A comment that waits is not put in front of what goes on behind it: the line that is no comment goes to the member
before them, or begins a new one. -/
theorem overtaken {front xs more : List String} {comment : String} {others : List Block}
    (closed : (Block.mk name front).isOpen = false) (waits : isComment (trimBlank comment) = true)
    (unmarked : ¬ IsMarker comment) (h : GoesOn xs) :
    ((comment :: xs).foldl step ⟨before ++ [⟨name, front⟩], [], true⟩).blocks ≠
      before ++ ⟨name, front ++ comment :: more⟩ :: others := by
  obtain ⟨cs, line, after, rfl, comments, plain, none⟩ := h
  obtain ⟨unmarked', last⟩ := List.forall_mem_append.1 none
  have last := last line List.mem_cons_self
  have allUnmarked : ∀ line ∈ comment :: cs, ¬ IsMarker line := List.forall_mem_cons.2 ⟨unmarked, unmarked'⟩
  have allComments : ∀ line ∈ comment :: cs, isComment (trimBlank line) = true :=
    List.forall_mem_cons.2 ⟨waits, comments⟩
  rw [← List.cons_append, List.foldl_append,
    foldl_comments ((isOpen_concat before _).trans closed) allUnmarked allComments, List.nil_append]
  intro same
  cases declares : declaredName? line with
  | some next =>
    have lines := congrArg Block.lines (eq_of_declares last declares same)
    simp at lines
  | none =>
    obtain ⟨_, eq⟩ := exists_eq_of_follows last declares (by rw [plain]; exact nofun) same
    have lines := List.append_cancel_left (congrArg Block.lines eq)
    rw [(List.cons.inj lines).1, plain] at waits
    cases waits

/-- A declaration is read whole only if its body coheres. `ys` is what stands behind it, and goes on unless the region
ends. -/
theorem coheres_of_read {atEnd : Bool} {ys : List String} {others : List Block} (behind : atEnd = false → GoesOn ys) :
    ∀ {xs front : List String}, (∀ line ∈ xs, ¬ IsMarker line) →
    ((xs ++ ys).foldl step ⟨before ++ [⟨name, front⟩], [], true⟩).blocks = before ++ ⟨name, front ++ xs⟩ :: others →
    ∀ read line rest, xs = read ++ line :: rest → declaredName? line = none ∧
      (isComment (trimBlank line) = true → (Block.mk name (front ++ read)).isOpen = true ∨
        atEnd = true ∧ ∀ later ∈ rest, isComment (trimBlank later) = true)
  | [], _, _, _, read, line, rest, split => absurd split (List.append_ne_nil_of_right_ne_nil _ (List.cons_ne_nil _ _)).symm
  | line :: xs, front, unmarked, same, read, other, rest, split => by
    obtain ⟨first, unmarked'⟩ := List.forall_mem_cons.1 unmarked
    have none : declaredName? line = none := by
      by_contra declares
      obtain ⟨next, declares⟩ := Option.ne_none_iff_exists'.1 declares
      have lines := congrArg Block.lines (eq_of_declares first declares same)
      simp at lines
    by_cases follows : isComment (trimBlank line) = true → (Block.mk name front).isOpen = true
    · rw [List.cons_append, List.foldl_cons, step_body first none follows] at same
      have later := coheres_of_read behind unmarked' (by rw [List.append_assoc]; exact same)
      cases read with
      | nil =>
        obtain ⟨rfl, rfl⟩ := List.cons.inj split
        rw [List.append_nil]
        exact ⟨none, fun comment => .inl (follows comment)⟩
      | cons _ read =>
        obtain ⟨rfl, behind⟩ := List.cons.inj split
        have found := later read other rest behind
        rwa [List.append_assoc] at found
    · -- the line waits, so that nothing may come behind it but comments and the end of the region
      obtain ⟨comment, closed⟩ := not_forall.1 follows
      have closed := Bool.eq_false_iff.2 closed
      have stops : ¬ GoesOn (xs ++ ys) := fun more => overtaken closed comment first more same
      have comments := isComment_of_not_goesOn unmarked' stops
      have last : atEnd = true := by
        by_contra more
        exact stops ((behind (Bool.eq_false_iff.2 more)).append comments unmarked')
      have all : ∀ later ∈ line :: xs, isComment (trimBlank later) = true := List.forall_mem_cons.2 ⟨comment, comments⟩
      rw [split, List.forall_mem_append, List.forall_mem_cons] at all
      exact ⟨declaredName?_of_isComment all.2.1, fun _ => .inr ⟨last, all.2.2⟩⟩

/-- Comments go to the member before them where braces are open, so that it is not read as it should be. -/
theorem comments_eq_nil_of_read {comments after : List String} {last : Block} {others : List Block}
    (isOpen : last.isOpen = true) (areComments : ∀ line ∈ comments, isComment (trimBlank line) = true)
    (unmarked : ∀ line ∈ comments, ¬ IsMarker line)
    (same : ((comments ++ after).foldl step ⟨before ++ [last], [], true⟩).blocks = before ++ last :: others) :
    comments = [] := by
  cases comments with
  | nil => rfl
  | cons first rest =>
    have none := declaredName?_of_isComment (areComments first List.mem_cons_self)
    obtain ⟨_, eq⟩ := exists_eq_of_follows (unmarked first List.mem_cons_self) none (fun _ => isOpen) same
    have lines := congrArg Block.lines eq
    simp at lines

theorem goesOn_parts (h : p.IsDeclaration) (after : List String) : GoesOn (p.lines ++ after) := by
  refine ⟨p.comments, p.head, p.body ++ after, by simp [Parts.lines], h.comments, ?_, fun line hl => ?_⟩
  · refine Bool.eq_false_iff.2 fun comment => ?_
    have declares := h.head
    rw [declaredName?_of_isComment comment] at declares
    cases declares
  · exact h.unmarked line (p.lines_eq ▸ List.mem_append_left _ hl)

/-- Declarations that are read one by one stay whole. -/
theorem stayWhole_of_read {closing : String} {after : List String} {others : List Block} :
    ∀ {ps : List Parts} {blocks : List Block}, (∀ p ∈ ps, p.IsDeclaration) →
    ((ps.flatMap Parts.lines ++ closing :: after).foldl step ⟨blocks, [], true⟩).blocks =
      blocks ++ ps.map Parts.block ++ others → StayWhole (blocks.getLast?.any (·.isOpen)) ps
  | [], _, _, _ => trivial
  | p :: rest, blocks, all, same => by
    obtain ⟨first, later⟩ := List.forall_mem_cons.1 all
    have closed : blocks.getLast?.any (·.isOpen) = true → p.comments = [] := by
      intro isOpen
      rcases List.eq_nil_or_concat blocks with rfl | ⟨before, last, rfl⟩
      · cases isOpen
      · rw [List.concat_eq_append] at isOpen same
        rw [isOpen_concat] at isOpen
        have comments := (List.forall_mem_append.1 first.unmarked).1
        have same : ((p.comments ++ (p.head :: p.body ++ (rest.flatMap Parts.lines ++ closing :: after))).foldl step
            ⟨before ++ [last], [], true⟩).blocks = before ++ last :: (p.block :: rest.map Parts.block ++ others) := by
          simpa [Parts.lines] using same
        exact comments_eq_nil_of_read isOpen first.comments comments same
    have split : (p :: rest).flatMap Parts.lines ++ closing :: after =
        p.comments ++ [p.head] ++ (p.body ++ (rest.flatMap Parts.lines ++ closing :: after)) := by
      simp [Parts.lines_eq]
    have whole : blocks ++ (p :: rest).map Parts.block ++ others =
        blocks ++ p.upTo p.body :: (rest.map Parts.block ++ others) := by
      simp [Parts.upTo_body]
    rw [split, List.foldl_append, foldl_head first closed, whole] at same
    have behind : rest.isEmpty = false → GoesOn (rest.flatMap Parts.lines ++ closing :: after) := by
      intro more
      obtain ⟨next, rest, rfl⟩ := List.exists_cons_of_ne_nil (List.isEmpty_eq_false_iff.1 more)
      rw [List.flatMap_cons, List.append_assoc]
      exact goesOn_parts (later next List.mem_cons_self) _
    have start : p.upTo [] = ⟨(declaredName? p.head).getD "", p.comments ++ [p.head]⟩ := by
      rw [Parts.upTo, List.append_nil]
    rw [start] at same
    have coheres : p.Coheres rest.isEmpty := coheres_of_read behind first.unmarked_body same
    refine ⟨closed, coheres, ?_⟩
    cases rest with
    | nil => trivial
    | cons next rest =>
      have append : blocks ++ p.block :: ((next :: rest).map Parts.block ++ others) =
          blocks ++ [p.block] ++ (next :: rest).map Parts.block ++ others := by simp
      rw [← start, List.foldl_append, foldl_coherent first coheres, p.upTo_body, append] at same
      have left := stayWhole_of_read later same
      rwa [isOpen_concat] at left

/-! ## Regions -/

theorem openBehind_eq (blocks : List Block) (ps : List Parts) :
    (blocks ++ ps.map Parts.block).getLast?.any (·.isOpen) = openBehind (blocks.getLast?.any (·.isOpen)) ps := by
  rcases List.eq_nil_or_concat ps with rfl | ⟨before, last, rfl⟩
  · simp [openBehind]
  · rw [List.concat_eq_append, List.map_append, List.map_singleton, ← List.append_assoc, isOpen_concat]
    simp [openBehind]

/-- The declarations of regions are read one by one if and only if they stay whole. -/
theorem blocks_foldl_regions {after : List String} (unmarked : ∀ line ∈ after, ¬ IsMarker line) :
    ∀ {regions : List Region} {blocks : List Block}, (∀ g ∈ regions, g.IsRegular) →
    (((regions.flatMap Region.lines ++ after).foldl step ⟨blocks, [], false⟩).blocks =
      blocks ++ (regions.flatMap Region.parts).map Parts.block ↔
        AllStayWhole (blocks.getLast?.any (·.isOpen)) regions)
  | [], blocks, _ => by
    rw [List.flatMap_nil, List.nil_append, foldl_outside unmarked]
    simp [AllStayWhole]
  | g :: rest, blocks, all => by
    obtain ⟨first, others⟩ := List.forall_mem_cons.1 all
    have split : (g :: rest).flatMap Region.lines ++ after =
        g.outside ++ g.opening :: (g.parts.flatMap Parts.lines ++ g.closing :: (rest.flatMap Region.lines ++ after)) := by
      simp [Region.lines]
    have parts : blocks ++ ((g :: rest).flatMap Region.parts).map Parts.block =
        blocks ++ g.parts.map Parts.block ++ (rest.flatMap Region.parts).map Parts.block := by
      simp
    rw [split, parts, List.foldl_append, foldl_outside first.outside, List.foldl_cons, step_customStart first.opening,
      AllStayWhole]
    have later (whole : StayWhole (blocks.getLast?.any (·.isOpen)) g.parts) := by
      have read := foldl_parts first.closing first.parts whole
      have iff := @blocks_foldl_regions after unmarked rest (blocks ++ g.parts.map Parts.block) others
      rwa [openBehind_eq, ← read, ← List.foldl_append, List.append_assoc, List.singleton_append] at iff
    constructor
    · intro same
      have whole := stayWhole_of_read first.parts same
      exact ⟨whole, (later whole).1 same⟩
    · exact fun ⟨whole, rest⟩ => (later whole).2 rest

end Reading

/-! ## Files -/

/-- The member that a declaration stands for. -/
def Parts.member (p : Parts) : Member := p.block.toMember

/-- Members tell the lines that they were read from. -/
theorem map_toMember_inj : ∀ {bs bs' : List Block}, (∀ b ∈ bs, ∀ line ∈ b.lines, '\n' ∉ line.toList) →
    (∀ b ∈ bs', ∀ line ∈ b.lines, '\n' ∉ line.toList) → (bs.map Block.toMember = bs'.map Block.toMember ↔ bs = bs')
  | [], [], _, _ => ⟨fun _ => rfl, fun _ => rfl⟩
  | [], _ :: _, _, _ => ⟨nofun, nofun⟩
  | _ :: _, [], _, _ => ⟨nofun, nofun⟩
  | b :: bs, b' :: bs', h, h' => by
    obtain ⟨first, others⟩ := List.forall_mem_cons.1 h
    obtain ⟨first', others'⟩ := List.forall_mem_cons.1 h'
    obtain ⟨name, xs⟩ := b
    obtain ⟨name', xs'⟩ := b'
    simp only [List.map_cons, List.cons.injEq, map_toMember_inj others others', Block.toMember, Member.mk.injEq,
      endedLines_inj first first', Block.mk.injEq]

/-- Members are never split: from a file whose regions are sequences of declarations these are read one by one, each
with its name and exactly its lines, if and only if they stay whole. -/
theorem ofSource_regions {source : String} {regions : List Region} {after : List String}
    (regular : ∀ g ∈ regions, g.IsRegular) (unmarked : ∀ line ∈ after, ¬ IsMarker line)
    (text : lines source = regions.flatMap Region.lines ++ after) :
    ofSource source = (regions.flatMap Region.parts).map Parts.member ↔ AllStayWhole false regions := by
  have apart : ∀ b ∈ (regions.flatMap Region.parts).map Parts.block, ∀ line ∈ b.lines, '\n' ∉ line.toList := by
    intro b hb line hl
    obtain ⟨p, hp, rfl⟩ := List.mem_map.1 hb
    obtain ⟨g, hg, hp⟩ := List.mem_flatMap.1 hp
    have inRegion : line ∈ g.lines := by
      refine List.mem_append_right _ (List.mem_cons_of_mem _ (List.mem_append_left _ ?_))
      exact List.mem_flatMap.2 ⟨p, hp, hl⟩
    exact lineFeed_not_mem_lines (text ▸ List.mem_append_left _ (List.mem_flatMap.2 ⟨g, hg, inRegion⟩))
  have read : ofSource source = (readBlocks source).map Block.toMember := rfl
  have written : (regions.flatMap Region.parts).map Parts.member =
      ((regions.flatMap Region.parts).map Parts.block).map Block.toMember := List.map_map.symm
  rw [read, written, map_toMember_inj lineFeed_not_mem_readBlocks apart, readBlocks, text]
  exact Reading.blocks_foldl_regions unmarked regular

/-! ## A method with a variable of its own -/

section Counter

/-- A method that keeps a number from one call to the next. -/
def next : Parts where
  comments := ["    /** The number of calls. */"]
  head := "    public function next() : int"
  body := ["    \x7b", "        static $calls = 0;", "        return ++$calls;", "    \x7d"]

def counter : Region := ⟨["final class Counter", "\x7b"], "    // @custom-start", [next], "    // @custom-end"⟩

def counterFile : String := endedLines (counter.lines ++ ["\x7d"])

/-- The line of the variable is read as the declaration of a property, and the method is cut there. -/
theorem ofSource_regions_counter : (∀ g ∈ [counter], g.IsRegular) ∧ (∀ line ∈ ["\x7d"], ¬ IsMarker line) ∧
    lines counterFile = [counter].flatMap Region.lines ++ ["\x7d"] ∧
    (ofSource counterFile).map Member.name = ["next", "calls"] ∧
    ofSource counterFile ≠ ([counter].flatMap Region.parts).map Parts.member := by
  have regular : ∀ g ∈ [counter], g.IsRegular := by
    simp only [List.forall_mem_singleton]
    exact ⟨by decide +kernel, by decide +kernel,
      List.forall_mem_singleton.2 ⟨by decide +kernel, by decide +kernel, by decide +kernel⟩, by decide +kernel⟩
  have unmarked : ∀ line ∈ ["\x7d"], ¬ IsMarker line := by decide +kernel
  have text : lines counterFile = [counter].flatMap Region.lines ++ ["\x7d"] := by
    rw [counterFile, lines_endedLines (by decide +kernel), List.flatMap_singleton]
  have names : (ofSource counterFile).map Member.name = ["next", "calls"] := by
    rw [ofSource, text]
    decide +kernel
  have variable_declares : declaredName? "        static $calls = 0;" ≠ none := by decide +kernel
  refine ⟨regular, unmarked, text, names, fun same => ?_⟩
  have whole := (ofSource_regions regular unmarked text).1 same
  exact variable_declares (whole.1.2.1 ["    \x7b"] _ ["        return ++$calls;", "    \x7d"] rfl).1

end Counter

end SchemaClasses.Member
