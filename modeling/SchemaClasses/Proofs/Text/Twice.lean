/-
Names made of names. Camel and Pascal case drop what separates words, so that a name made of such a name has the words
that its capitals and digits still show: those of the raw name, save that single letters next to each other, once each is
a capital, run together, and numbers next to each other run together.
-/
import SchemaClasses.Proofs.Text.Recut
import SchemaClasses.Proofs.Text.Spelling

namespace SchemaClasses

open Text

variable {c : Char} {cs raw t u v w : List Char}

/-! ## Words of raw names -/

theorem mem_sanitize (h : c ∈ sanitize raw) : isSeparator c = true ∨ c ∈ raw ∧ isAlphanumeric c = true := by
  have inside : c ∈ spaced raw := (List.dropWhile_suffix _).mem (prefix_trimEnd.mem h)
  obtain ⟨original, mem, hc⟩ := List.mem_map.1 inside
  split at hc
  · rename_i kept
    subst hc
    rcases Bool.or_eq_true_iff.1 kept with letter | underscore
    · exact .inr ⟨mem, letter⟩
    · rw [beq_iff_eq] at underscore
      subst underscore
      exact .inl rfl
  · subst hc
    exact .inl rfl

theorem isAlnum_of_mem_sanitize (ascii : IsAscii raw) (h : c ∈ sanitize raw) (inWord : isSeparator c = false) :
    IsAlnum c := by
  rcases mem_sanitize h with separator | ⟨mem, letter⟩
  · rw [separator] at inWord
    cases inWord
  · exact (isAlphanumeric_iff (ascii c mem)).1 letter

theorem isWord_of_isAscii (ascii : IsAscii raw) (hw : w ∈ words (sanitize raw)) : IsWord w := by
  refine isWord_of_mem_words (fun c => isAlnum_of_mem_sanitize ascii) (fun c hc => ?_) hw
  exact isAlnum_of_mem_sanitize ascii (mem_of_mem_words hw hc) (not_isSeparator_of_mem_words hw hc)

/-- A name of letters and digits is a raw name that keeps all of its characters. -/
theorem sanitize_of_plain (h : ∀ c ∈ cs, IsAlnum c) : sanitize cs = cs := by
  have letters : ∀ c ∈ cs, isAlphanumeric c = true := fun c hc => (isAlphanumeric_iff (h c hc).ascii).2 (h c hc)
  have filled : ∀ c ∈ cs, isBlank c = false := fun c hc => Bool.eq_false_iff.2 fun blank => by
    have none := isAlphanumeric_of_isBlank blank
    rw [letters c hc] at none
    cases none
  have whole : spaced cs = cs := by
    refine (List.map_congr_left fun c hc => ?_).trans (List.map_id cs)
    rw [letters c hc]
    rfl
  have start : trimStart isBlank cs = cs := trimStart_eq_self fun c hc => filled c (List.mem_of_mem_head? hc)
  show trimEnd isBlank (trimStart isBlank (spaced cs)) = cs
  rw [whole, start]
  exact List.rdropWhile_eq_self_iff.2 fun hne => by
    rw [filled _ (List.getLast_mem hne)]
    exact Bool.false_ne_true

/-! ## Ways of writing words of ASCII -/

namespace Spelling

/-- A way of writing words as words of a name without separators. -/
structure Joins (s : Spelling) : Prop where
  first : ∀ {w}, IsWord w → IsToken (s.first w) ∧ lowerText (s.first w) = lowerText w
  later : ∀ {w}, IsWord w → IsLater (s.later w) ∧ lowerText (s.later w) = lowerText w

theorem joins_pascal : pascal.Joins where
  first h := ⟨h.isLater_capitalize.token, lowerText_capitalize h.isAscii⟩
  later h := ⟨h.isLater_capitalize, lowerText_capitalize h.isAscii⟩

theorem joins_camel : camel.Joins where
  first h := ⟨h.isToken_lowerText, lowerText_lowerText h.isAscii⟩
  later h := ⟨h.isLater_capitalize, lowerText_capitalize h.isAscii⟩

/-- A way of writing words to which the case of the words makes no difference, and in which `more` stands for what goes
on with a word. -/
structure Blind (s : Spelling) (more : List Char → List Char) : Prop where
  first : ∀ {w}, IsAscii w → s.first (lowerText w) = s.first w
  later : ∀ {w}, IsAscii w → s.later (lowerText w) = s.later w
  first_append : ∀ {w u}, w ≠ [] → IsAscii w → IsAscii u → s.first (w ++ u) = s.first w ++ more u
  later_append : ∀ {w u}, w ≠ [] → IsAscii w → IsAscii u → s.later (w ++ u) = s.later w ++ more u
  apart : ∀ {u left right}, IsToken u → more u ++ left = s.later u ++ right → more u = s.later u ∧ left = right

theorem lowerText_apart {left right : List Char} (hu : IsToken u)
    (h : lowerText u ++ left = capitalize u ++ right) : lowerText u = capitalize u ∧ left = right := by
  have ascii : IsAscii u := fun c hc => (hu.plain c hc).ascii
  refine List.append_inj h ?_
  rw [lowerText_of_isAscii ascii]
  cases u with
  | nil => cases hu
  | cons c rest =>
    rw [capitalize_of_isAscii ascii]
    simp

/-- No letter or digit is an underscore. -/
theorem append_ne_underscore {left right : List Char} (filled : cs ≠ []) (plain : ∀ c ∈ cs, IsAlnum c) :
    cs ++ left ≠ '_' :: right := by
  obtain ⟨c, rest, rfl⟩ := List.exists_cons_of_ne_nil filled
  intro h
  obtain rfl : c = '_' := List.head_eq_of_cons_eq h
  rcases plain _ List.mem_cons_self with letter | digit
  · cases letter
  · cases digit

theorem blind_pascal : pascal.Blind lowerText where
  first := capitalize_lowerText
  later := capitalize_lowerText
  first_append := capitalize_append
  later_append := capitalize_append
  apart := lowerText_apart

theorem blind_camel : camel.Blind lowerText where
  first := lowerText_lowerText
  later := capitalize_lowerText
  first_append _ := lowerText_append
  later_append := capitalize_append
  apart := lowerText_apart

theorem lowerText_ne_underscore {left right : List Char} (hu : IsToken u) : lowerText u ++ left ≠ '_' :: right := by
  rw [lowerText_of_isAscii fun c hc => (hu.plain c hc).ascii]
  refine append_ne_underscore (fun none => hu.ne_nil (List.map_eq_nil_iff.1 none)) fun d hd => ?_
  obtain ⟨c, hc, rfl⟩ := List.mem_map.1 hd
  rcases hu.plain c hc with letter | digit
  · exact .inl (by rwa [Char.isAlpha_toLower_eq_isAlpha])
  · exact .inr (by rwa [toLower_of_isDigit digit])

theorem upperText_ne_underscore {left right : List Char} (hu : IsToken u) : upperText u ++ left ≠ '_' :: right := by
  rw [upperText_of_isAscii fun c hc => (hu.plain c hc).ascii]
  refine append_ne_underscore (fun none => hu.ne_nil (List.map_eq_nil_iff.1 none)) fun d hd => ?_
  obtain ⟨c, hc, rfl⟩ := List.mem_map.1 hd
  rcases hu.plain c hc with letter | digit
  · exact .inl (by rwa [Char.isAlpha_toUpper_eq_isAlpha])
  · exact .inr (by rwa [toUpper_of_isDigit digit])

theorem blind_snake : snake.Blind lowerText where
  first := lowerText_lowerText
  later h := congrArg (List.cons '_') (lowerText_lowerText h)
  first_append _ := lowerText_append
  later_append _ h hu := congrArg (List.cons '_') (lowerText_append h hu)
  apart hu h := absurd h (lowerText_ne_underscore hu)

theorem blind_upperSnake : upperSnake.Blind upperText where
  first := upperText_lowerText
  later h := congrArg (List.cons '_') (upperText_lowerText h)
  first_append _ _ _ := List.flatMap_append
  later_append _ _ _ := congrArg (List.cons '_') List.flatMap_append
  apart hu h := absurd h (upperText_ne_underscore hu)

/-! ## Writing the words that a name shows -/

section Again

variable {s : Spelling} {more : List Char → List Char}

/-- What the words behind a first one give when some of them only go on with the one before. -/
def resumed (s : Spelling) (more : List Char → List Char) (last : List Char) : List (List Char) → List Char
  | [] => []
  | u :: us => (if joins last u then more u else s.later u) ++ resumed s more u us

theorem Blind.flatMap_recut (blind : s.Blind more) : ∀ (us : List (List Char)) (word last : List Char), word ≠ [] →
    IsAscii word → (∀ u ∈ us, IsLater u) → (recut word last us).flatMap s.later = s.later word ++ resumed s more last us
  | [], word, last, _, _, _ => by
    rw [recut, List.flatMap_singleton, resumed, List.append_nil]
  | u :: us, word, last, filled, ascii, h => by
    obtain ⟨own, others⟩ := List.forall_mem_cons.1 h
    have plain : IsAscii u := fun c hc => (own.token.plain c hc).ascii
    rw [recut, resumed]
    split
    · rw [blind.flatMap_recut us _ u (fun none => filled (List.append_eq_nil_iff.1 none).1)
        (List.forall_mem_append.2 ⟨ascii, plain⟩) others, blind.later_append filled ascii plain, List.append_assoc]
    · rw [List.flatMap_cons, blind.flatMap_recut us u u own.token.ne_nil plain others]

theorem Blind.write_recut (blind : s.Blind more) : ∀ (us : List (List Char)) (word last : List Char), word ≠ [] →
    IsAscii word → (∀ u ∈ us, IsLater u) → s.write (recut word last us) = s.first word ++ resumed s more last us
  | [], word, last, _, _, _ => rfl
  | u :: us, word, last, filled, ascii, h => by
    obtain ⟨own, others⟩ := List.forall_mem_cons.1 h
    have plain : IsAscii u := fun c hc => (own.token.plain c hc).ascii
    rw [recut, resumed]
    split
    · rw [blind.write_recut us _ u (fun none => filled (List.append_eq_nil_iff.1 none).1)
        (List.forall_mem_append.2 ⟨ascii, plain⟩) others, blind.first_append filled ascii plain, List.append_assoc]
    · rw [write, blind.flatMap_recut us u u own.token.ne_nil plain others]

/-- The words come out as they were if and only if going on with a word looks like a new one wherever two words are
joined. -/
theorem Blind.resumed_eq_iff (blind : s.Blind more) : ∀ (us : List (List Char)) (last : List Char), (∀ u ∈ us, IsToken u) →
    (resumed s more last us = us.flatMap s.later ↔
      (last :: us).IsChain fun t u => joins t u = true → more u = s.later u)
  | [], last, _ => iff_of_true rfl (List.isChain_singleton _)
  | u :: us, last, h => by
    obtain ⟨own, others⟩ := List.forall_mem_cons.1 h
    rw [List.isChain_cons_cons, ← blind.resumed_eq_iff us u others, resumed, List.flatMap_cons]
    split
    · rename_i joined
      constructor
      · intro same
        obtain ⟨front, rest⟩ := blind.apart own same
        exact ⟨fun _ => front, rest⟩
      · rintro ⟨front, rest⟩
        rw [front joined, rest]
    · rename_i parted
      rw [List.append_cancel_left_eq]
      exact ⟨fun rest => ⟨fun joined => absurd joined parted, rest⟩, And.right⟩

/-- When the name of a name is the name of the raw words. -/
theorem Blind.write_words_write {outer : Spelling} (blind : s.Blind more) (joining : outer.Joins) {word : List Char}
    {others : List (List Char)} (h : ∀ w ∈ word :: others, IsWord w) :
    s.write (words (outer.write (word :: others))) = s.write (word :: others) ↔
      (outer.first word :: others.map outer.later).IsChain fun t u => joins t u = true → more u = s.later u := by
  obtain ⟨own, rest⟩ := List.forall_mem_cons.1 h
  obtain ⟨token, same⟩ := joining.first own
  have later : ∀ u ∈ others.map outer.later, IsLater u := by
    intro u hu
    obtain ⟨w, hw, rfl⟩ := List.mem_map.1 hu
    exact (joining.later (rest w hw)).1
  have ascii : IsAscii (outer.first word) := fun c hc => (token.plain c hc).ascii
  have first : s.first (outer.first word) = s.first word := by
    rw [← blind.first ascii, same, blind.first own.isAscii]
  have flat : (others.map outer.later).flatMap s.later = others.flatMap s.later := by
    rw [List.flatMap_map]
    refine List.flatMap_congr fun w hw => ?_
    obtain ⟨shape, fold⟩ := joining.later (rest w hw)
    rw [← blind.later fun c hc => (shape.token.plain c hc).ascii, fold, blind.later (rest w hw).isAscii]
  have joined : outer.write (word :: others) = (outer.first word :: others.map outer.later).flatten := by
    rw [write, List.flatten_cons, List.flatMap_def]
  rw [joined, words_flatten token later, blind.write_recut _ _ _ token.ne_nil ascii later, first, write, ← flat,
    List.append_cancel_left_eq]
  exact blind.resumed_eq_iff _ _ fun u hu => (later u hu).token

end Again

end Spelling

/-! ## Words that run together -/

/-- No two words next to each other are both of a kind. -/
def KeptApart (kind : List Char → Bool) (ws : List (List Char)) : Prop :=
  ws.IsChain fun v w => ¬(kind v = true ∧ kind w = true)

theorem isChain_and {α : Type} {R S : α → α → Prop} {l : List α} :
    l.IsChain (fun a b => R a b ∧ S a b) ↔ l.IsChain R ∧ l.IsChain S := by
  constructor
  · exact fun h => ⟨h.imp fun _ _ => And.left, h.imp fun _ _ => And.right⟩
  · rintro ⟨hr, hs⟩
    induction hr with
    | nil => exact .nil
    | singleton a => exact .singleton a
    | cons_cons front _ ih =>
      rw [List.isChain_cons_cons] at hs
      exact .cons_cons ⟨front, hs.1⟩ (ih hs.2)

theorem joins_capitalize (hv : IsWord v) (hw : IsWord w) : joins (capitalize v) (capitalize w) = true ↔
    (isNumeral v = true ∧ isNumeral w = true) ∨ (isInitial v = true ∧ isInitial w = true) := by
  rw [joins, hv.kind_capitalize.1, hv.kind_capitalize.2, hw.kind_capitalize.1, hw.kind_capitalize.2, Bool.or_eq_true,
    Bool.and_eq_true, Bool.and_eq_true]

theorem joins_lowerText (hv : IsWord v) (hw : IsWord w) :
    joins (lowerText v) (capitalize w) = true ↔ isNumeral v = true ∧ isNumeral w = true := by
  rw [joins, hv.kind_lowerText.1, hv.kind_lowerText.2, hw.kind_capitalize.1, Bool.false_and, Bool.or_false,
    Bool.and_eq_true]

/-- Only a number goes on with a word as if it were one of its own. -/
theorem resumes_iff (hw : IsWord w) : lowerText (capitalize w) = capitalize (capitalize w) ↔ isNumeral w = true := by
  have twice : capitalize (capitalize w) = capitalize w := by
    rw [← capitalize_lowerText hw.isAscii.capitalize, lowerText_capitalize hw.isAscii, capitalize_lowerText hw.isAscii]
  rw [lowerText_capitalize hw.isAscii, twice, hw.lowerText_eq_capitalize_iff]

section Chains

variable {ws : List (List Char)} {word : List Char}

theorem isChain_capitalize {R S : List Char → List Char → Prop} (h : ∀ w ∈ ws, IsWord w)
    (same : ∀ v w, IsWord v → IsWord w → (R (capitalize v) (capitalize w) ↔ S v w)) :
    (ws.map capitalize).IsChain R ↔ ws.IsChain S := by
  rw [List.isChain_map]
  exact List.IsChain.iff_of_mem_imp fun v w hv hw => same v w (h v hv) (h w hw)

/-- Capitalized words come out of a name as they went in, capitals and all, unless single letters stand together. -/
theorem isChain_resumes_iff (h : ∀ w ∈ ws, IsWord w) : ((ws.map capitalize).IsChain fun t u =>
    joins t u = true → lowerText u = capitalize u) ↔ KeptApart isInitial ws := by
  refine isChain_capitalize h fun v w hv hw => ?_
  rw [joins_capitalize hv hw, resumes_iff hw]
  constructor
  · rintro resumes ⟨first, second⟩
    rw [hw.not_isInitial_of_isNumeral (resumes (.inr ⟨first, second⟩))] at second
    cases second
  · rintro apart (⟨-, numeral⟩ | initials)
    · exact numeral
    · exact absurd initials apart

/-- Capitalized words come out of a name as they went in unless single letters or numbers stand together. -/
theorem isChain_not_joins_iff (h : ∀ w ∈ ws, IsWord w) :
    ((ws.map capitalize).IsChain fun t u => ¬joins t u = true) ↔ KeptApart isInitial ws ∧ KeptApart isNumeral ws := by
  rw [KeptApart, KeptApart, ← isChain_and]
  refine isChain_capitalize h fun v w hv hw => ?_
  rw [joins_capitalize hv hw, not_or, and_comm]

theorem isChain_lowerText_cons {R : List Char → List Char → Prop} :
    (lowerText word :: ws.map capitalize).IsChain R ↔
      (∀ w ∈ ws.head?, R (lowerText word) (capitalize w)) ∧ (ws.map capitalize).IsChain R := by
  rw [List.isChain_cons]
  cases ws with
  | nil => simp
  | cons w rest => simp

/-- The first word of a name in camel case has no capital, so that it is no single one. -/
theorem isChain_camel_resumes_iff (h : ∀ w ∈ word :: ws, IsWord w) :
    ((lowerText word :: ws.map capitalize).IsChain fun t u => joins t u = true → lowerText u = capitalize u) ↔
      KeptApart isInitial ws := by
  obtain ⟨own, others⟩ := List.forall_mem_cons.1 h
  rw [isChain_lowerText_cons, isChain_resumes_iff others, and_iff_right]
  intro w hw joined
  have next := others w (List.mem_of_mem_head? hw)
  exact (resumes_iff next).2 ((joins_lowerText own next).1 joined).2

theorem isChain_camel_not_joins_iff (h : ∀ w ∈ word :: ws, IsWord w) :
    ((lowerText word :: ws.map capitalize).IsChain fun t u => ¬joins t u = true) ↔
      KeptApart isInitial ws ∧ KeptApart isNumeral (word :: ws) := by
  obtain ⟨own, others⟩ := List.forall_mem_cons.1 h
  have front : (∀ w ∈ ws.head?, ¬joins (lowerText word) (capitalize w) = true) ↔
      ∀ w ∈ ws.head?, ¬(isNumeral word = true ∧ isNumeral w = true) :=
    forall₂_congr fun w hw => not_congr (joins_lowerText own (others w (List.mem_of_mem_head? hw)))
  rw [isChain_lowerText_cons, isChain_not_joins_iff others, front]
  show _ ↔ _ ∧ List.IsChain _ (word :: ws)
  rw [List.isChain_cons]
  exact and_left_comm

end Chains

/-! ## Names of names -/

section Names

variable {s outer : Spelling} {more inner apply : List Char → List Char} {raw : String}

/-- A name as a raw name. -/
theorem conventional_conventional (joining : outer.Joins) (hs : ∀ cs, s.write (words cs) = apply cs)
    (ho : ∀ cs, outer.write (words cs) = inner cs) (ascii : ∀ c ∈ raw.toList, c.toNat < 0x80) :
    conventional apply (conventional inner raw) =
      String.ofList (s.write (words (outer.write (words (sanitize raw.toList))))) := by
  have plain : ∀ c ∈ inner (sanitize raw.toList), IsAlnum c := by
    rw [← ho]
    intro c hc
    obtain ⟨w, hw, hc⟩ := Spelling.mem_write hc
    have word := isWord_of_isAscii ascii hw
    exact hc.elim ((joining.first word).1.plain c) ((joining.later word).1.token.plain c)
  rw [conventional, conventional, String.toList_ofList, sanitize_of_plain plain, hs, ho]

/-- When a name made of a name is the one made of the raw name. -/
theorem conventional_again_iff (kept : List (List Char) → Prop) (blind : s.Blind more) (joining : outer.Joins)
    (hs : ∀ cs, s.write (words cs) = apply cs) (ho : ∀ cs, outer.write (words cs) = inner cs)
    (ascii : ∀ c ∈ raw.toList, c.toNat < 0x80) (empty : kept [])
    (chain : ∀ word others, (∀ w ∈ word :: others, IsWord w) →
      ((outer.first word :: others.map outer.later).IsChain (fun t u => joins t u = true → more u = s.later u) ↔
        kept (word :: others))) :
    conventional apply (conventional inner raw) = conventional apply raw ↔ kept (words (sanitize raw.toList)) := by
  have whole : ∀ w ∈ words (sanitize raw.toList), IsWord w := fun _ hw => isWord_of_isAscii ascii hw
  rw [conventional_conventional joining hs ho ascii, conventional, String.ofList_inj, ← hs]
  cases hw : words (sanitize raw.toList) with
  | nil => exact iff_of_true rfl empty
  | cons word others =>
    rw [hw] at whole
    exact (blind.write_words_write joining whole).trans (chain word others whole)

/-- An underscore in front tells a new word from what goes on with one. -/
theorem isChain_underscore_iff {spell : List Char → List Char} {us : List (List Char)} :
    (us.IsChain fun t u => joins t u = true → spell u = '_' :: spell u) ↔ us.IsChain fun t u => ¬joins t u = true :=
  List.IsChain.iff fun _ u => imp_congr_right fun _ => iff_false_intro (List.cons_ne_self '_' (spell u)).symm

end Names

/-- Names made of the name of a property, and the name of a class made of one, are those made of the raw name if and only
if the capitals and digits of the name still show all of its words that matter: single letters that stand together behind
the first word, which camel case makes capitals in a row, or numbers that stand together become one word. -/
theorem conventionalNames_again (raw : String) (ascii : ∀ c ∈ raw.toList, c.toNat < 0x80) :
    let filters := conventionalNames
    let ws := words (sanitize raw.toList)
    (filters.methodName (filters.propertyName raw) = filters.methodName raw ↔ KeptApart isInitial ws.tail) ∧
    (filters.constName (filters.propertyName raw) = filters.constName raw ↔
      KeptApart isInitial ws.tail ∧ KeptApart isNumeral ws) ∧
    (filters.constValue (filters.propertyName raw) = filters.constValue raw ↔
      KeptApart isInitial ws.tail ∧ KeptApart isNumeral ws) ∧
    (filters.className (filters.className raw) = filters.className raw ↔ KeptApart isInitial ws) := by
  intro filters ws
  have apartBehind : ∀ word others, (∀ w ∈ word :: others, IsWord w) →
      ((lowerText word :: others.map capitalize).IsChain (fun t u => ¬joins t u = true) ↔
        KeptApart isInitial (word :: others).tail ∧ KeptApart isNumeral (word :: others)) :=
    fun _ _ h => isChain_camel_not_joins_iff h
  refine ⟨?_, ?_, ?_, ?_⟩
  · exact conventional_again_iff (fun ws => KeptApart isInitial ws.tail) Spelling.blind_camel Spelling.joins_camel
      Spelling.write_camel Spelling.write_camel ascii .nil fun _ _ h => isChain_camel_resumes_iff h
  · exact conventional_again_iff (fun ws => KeptApart isInitial ws.tail ∧ KeptApart isNumeral ws) Spelling.blind_upperSnake
      Spelling.joins_camel Spelling.write_upperSnake Spelling.write_camel ascii ⟨.nil, .nil⟩ fun word others h =>
        isChain_underscore_iff.trans (apartBehind word others h)
  · exact conventional_again_iff (fun ws => KeptApart isInitial ws.tail ∧ KeptApart isNumeral ws) Spelling.blind_snake
      Spelling.joins_camel Spelling.write_snake Spelling.write_camel ascii ⟨.nil, .nil⟩ fun word others h =>
        isChain_underscore_iff.trans (apartBehind word others h)
  · exact conventional_again_iff (KeptApart isInitial) Spelling.blind_pascal Spelling.joins_pascal Spelling.write_pascal
      Spelling.write_pascal ascii .nil fun _ _ h => isChain_resumes_iff h

/-- The two single letters stand together in the name of a class only: in camel case the first one is small. -/
theorem conventionalNames_again_letters :
    let filters := conventionalNames
    (∀ c ∈ "a_b_id".toList, c.toNat < 0x80) ∧
    filters.methodName (filters.propertyName "a_b_id") = filters.methodName "a_b_id" ∧
    filters.constName (filters.propertyName "a_b_id") = filters.constName "a_b_id" ∧
    filters.constValue (filters.propertyName "a_b_id") = filters.constValue "a_b_id" ∧
    filters.className (filters.className "a_b_id") ≠ filters.className "a_b_id" := by
  intro filters
  have ascii : ∀ c ∈ "a_b_id".toList, c.toNat < 0x80 := by simp
  have cut : words (sanitize "a_b_id".toList) = [['a'], ['b'], ['i', 'd']] := by decide +kernel
  obtain ⟨method, name, value, class'⟩ := conventionalNames_again "a_b_id" ascii
  rw [cut] at method name value class'
  have behind : KeptApart isInitial [['b'], ['i', 'd']] := by unfold KeptApart; decide
  have numbers : KeptApart isNumeral [['a'], ['b'], ['i', 'd']] := by unfold KeptApart; decide
  have together : ¬KeptApart isInitial [['a'], ['b'], ['i', 'd']] := by unfold KeptApart; decide
  exact ⟨ascii, method.2 behind, name.2 ⟨behind, numbers⟩, value.2 ⟨behind, numbers⟩, fun same => together (class'.1 same)⟩

end SchemaClasses
