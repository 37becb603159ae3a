/-
Cutting joined words apart again. A word with a capital at the front and small letters behind it ends where the next one
begins, unless both are numbers or both a single capital.
-/
import SchemaClasses.Proofs.Text.Tokens
import SchemaClasses.Proofs.Text.Words

namespace SchemaClasses.Text

variable {c d l : Char} {t u w rest : List Char}

/-! ## Where words of a name end -/

/-- Whether no word ends between two words of a name. -/
def joins (t u : List Char) : Bool :=
  (isNumeral t && isNumeral u) || (isInitial t && t.all Char.isUpper && (isInitial u && u.all Char.isUpper))

/-- No word ends within a word of a name. -/
theorem opensWord_within (hl : IsAlnum l) (hc : IsAlnum c) (same : l.isDigit = c.isDigit) (small : c.isUpper = false)
    (next : Option Char) : opensWord (some l) c next = false := by
  rw [opensWord, Option.any_some, partsPair, endsCapitals, isSmall_eq hl.ascii, isCapital_eq hl.ascii,
    isSmall_eq hc.ascii, isCapital_eq hc.ascii, small, same]
  cases digit : c.isDigit with
  | true =>
    have letter : c.isAlpha = false := isAlpha_of_isDigit digit
    have own : l.isAlpha = false := isAlpha_of_isDigit (same.trans digit)
    rw [Char.isAlpha, Bool.or_eq_false_iff] at letter own
    rw [letter.2, own.1, own.2]
    rfl
  | false => simp

/-- What follows the first character of a word of a name goes on with that word. -/
theorem wordsAfter_token (after : List Char) : ∀ (rest : List Char) (l : Char) (word : List Char), IsAlnum l →
    (∀ d ∈ rest, IsAlnum d ∧ d.isUpper = false ∧ d.isDigit = l.isDigit) →
    wordsAfter (some l) word (rest ++ after) =
      wordsAfter (some ((l :: rest).getLast (List.cons_ne_nil _ _))) (word ++ rest) after
  | [], l, word, _, _ => by
    rw [List.append_nil]
    rfl
  | d :: rest, l, word, hl, h => by
    obtain ⟨⟨plain, small, digit⟩, others⟩ := List.forall_mem_cons.1 h
    rw [List.cons_append, wordsAfter_continues plain.not_isSeparator (opensWord_within hl plain digit.symm small _),
      wordsAfter_token after rest d _ plain fun e he =>
        ⟨(others e he).1, (others e he).2.1, (others e he).2.2.trans digit.symm⟩,
      List.append_assoc, List.getLast_cons (List.cons_ne_nil d rest)]
    rfl

/-- A character of a name that is no capital is a small letter or a digit. -/
theorem IsAlnum.isLower_or_isDigit (h : IsAlnum l) : (l.isLower || l.isDigit) = !l.isUpper := by
  rcases h with letter | digit
  · rw [isDigit_of_isAlpha letter, Bool.or_false]
    cases capital : l.isUpper with
    | true => exact Bool.eq_false_iff.2 (Char.not_isLower_of_isUpper capital)
    | false => rwa [Char.isAlpha, capital, Bool.false_or] at letter
  · rw [digit, Bool.or_true, (isUpper_of_isDigit digit).1]
    rfl

/-- Behind the first letter of a word there is a small one, unless the word is a single capital. -/
theorem any_isSmall_behind {n : Option Char} (letter : c.isAlpha = true) (upper : c.isUpper = true)
    (small : ∀ d ∈ rest, d.isLower = true) (tail : ∀ d ∈ rest.head?, n = some d)
    (alone : rest = [] → ∀ d ∈ n, IsAlnum d ∧ d.isLower = false) :
    n.any isSmall = !(isInitial (c :: rest) && (c :: rest).all Char.isUpper) := by
  cases rest with
  | nil =>
    rw [isInitial, List.all_cons, List.all_nil, List.all_cons, List.all_nil, letter, upper]
    cases n with
    | none => rfl
    | some d =>
      obtain ⟨ascii, large⟩ := alone rfl d rfl
      rw [Option.any_some, isSmall_eq ascii.ascii, large]
      rfl
  | cons d others =>
    have low := small d List.mem_cons_self
    have ascii : IsAlnum d := .inl (by rw [Char.isAlpha, low, Bool.or_true])
    rw [tail d rfl, Option.any_some, isSmall_eq ascii.ascii, low]
    rfl

/-- The next word of a name begins where it stands, unless it is a number behind a number or a single capital behind
a single capital. -/
theorem opensWord_between {n : Option Char} (ht : IsToken t) (hl : t.getLast? = some l) (hu : IsLater (c :: rest))
    (tail : ∀ d ∈ rest.head?, n = some d) (alone : rest = [] → ∀ d ∈ n, IsAlnum d ∧ d.isLower = false) :
    opensWord (some l) c n = !joins t (c :: rest) := by
  have plain : IsAlnum l := ht.plain l (List.mem_of_getLast? hl)
  have own : IsAlnum c := hu.token.plain c List.mem_cons_self
  have lower : c.isLower = false := hu.front c rfl
  obtain ⟨kind, single⟩ := ht.last hl
  rw [opensWord, Option.any_some, partsPair, endsCapitals, isSmall_eq plain.ascii, isCapital_eq plain.ascii,
    isSmall_eq own.ascii, isCapital_eq own.ascii, lower, joins, ← single]
  cases hu.token with
  | numeral digits =>
    have digit := digits c List.mem_cons_self
    have whole : isNumeral (c :: rest) = true := List.all_eq_true.2 digits
    rw [Char.isAlpha] at kind
    rw [digit, (isUpper_of_isDigit digit).1, whole, isInitial_of_isDigit digit]
    simp only [Bool.or_false, Bool.and_false, Bool.and_true, Bool.or_true, Bool.false_and]
    rw [Bool.or_comm, kind]
  | letters letter small =>
    have upper : c.isUpper = true := by rwa [Char.isAlpha, lower, Bool.or_false] at letter
    rw [isDigit_of_isAlpha letter, upper, isNumeral_of_isAlpha letter, any_isSmall_behind letter upper small tail alone]
    simp only [Bool.or_false, Bool.and_false, Bool.and_true, Bool.false_or]
    rw [plain.isLower_or_isDigit]
    cases l.isUpper <;> rfl

/-! ## Cutting joined words -/

/-- The words that are found in words of a name that stand behind `word`, of which `last` is the last one. -/
def recut (word last : List Char) : List (List Char) → List (List Char)
  | [] => [word]
  | u :: us => if joins last u then recut (word ++ u) u us else word :: recut u u us

theorem head?_flatten_of_isLater {us : List (List Char)} (h : ∀ u ∈ us, IsLater u) :
    ∀ d ∈ us.flatten.head?, IsAlnum d ∧ d.isLower = false := by
  cases us with
  | nil => exact fun _ none => by cases none
  | cons u rest =>
    have own := h u List.mem_cons_self
    obtain ⟨c, others, rfl⟩ : ∃ c others, u = c :: others := by cases own.token <;> exact ⟨_, _, rfl⟩
    rintro d ⟨⟩
    exact ⟨own.token.plain c List.mem_cons_self, own.front c rfl⟩

theorem wordsAfter_flatten : ∀ (us : List (List Char)) (word t : List Char), IsToken t → (∀ u ∈ us, IsLater u) →
    wordsAfter t.getLast? word us.flatten = recut word t us
  | [], _, _, _, _ => rfl
  | u :: us, word, t, ht, h => by
    obtain ⟨hu, others⟩ := List.forall_mem_cons.1 h
    obtain ⟨l, hl⟩ : ∃ l, t.getLast? = some l := by
      cases ht <;> exact ⟨_, List.getLast?_eq_some_getLast (List.cons_ne_nil _ _)⟩
    obtain ⟨c, rest, rfl⟩ : ∃ c rest, u = c :: rest := by cases hu.token <;> exact ⟨_, _, rfl⟩
    have own : IsAlnum c := hu.token.plain c List.mem_cons_self
    have opens := opensWord_between (n := (rest ++ us.flatten).head?) ht hl hu
      (fun d hd => by rw [List.head?_append, hd]; rfl)
      (fun none d hd => by
        rw [none, List.nil_append] at hd
        exact head?_flatten_of_isLater others d hd)
    have inside : ∀ d ∈ rest, IsAlnum d ∧ d.isUpper = false ∧ d.isDigit = c.isDigit := fun d hd =>
      ⟨hu.token.plain d (List.mem_cons_of_mem _ hd), hu.token.isUpper_tail d hd⟩
    have last : some ((c :: rest).getLast (List.cons_ne_nil c rest)) = (c :: rest).getLast? :=
      (List.getLast?_eq_some_getLast _).symm
    rw [List.flatten_cons, List.cons_append, hl, wordsAfter, own.not_isSeparator, opens, recut]
    cases joins t (c :: rest) with
    | true =>
      rw [Bool.not_true, if_neg Bool.false_ne_true, if_neg Bool.false_ne_true, if_pos rfl,
        wordsAfter_token us.flatten rest c _ own inside, last, wordsAfter_flatten us _ _ hu.token others,
        List.append_assoc]
      rfl
    | false =>
      rw [Bool.not_false, if_neg Bool.false_ne_true, if_pos rfl, if_neg Bool.false_ne_true,
        wordsAfter_token us.flatten rest c _ own inside, last, wordsAfter_flatten us _ _ hu.token others]
      rfl

theorem recut_ne_nil : ∀ (us : List (List Char)) (word t : List Char), word ≠ [] → (∀ u ∈ us, u ≠ []) →
    ∀ w ∈ recut word t us, w ≠ []
  | [], word, t, hw, _ => List.forall_mem_singleton.2 hw
  | u :: us, word, t, hw, h => by
    obtain ⟨own, others⟩ := List.forall_mem_cons.1 h
    rw [recut]
    split
    · exact recut_ne_nil us _ _ (fun none => own (List.append_eq_nil_iff.1 none).2) others
    · exact List.forall_mem_cons.2 ⟨hw, recut_ne_nil us _ _ own others⟩

/-- The words of a name that has no separators. -/
theorem words_flatten {us : List (List Char)} (ht : IsToken t) (h : ∀ u ∈ us, IsLater u) :
    words (t :: us).flatten = recut t t us := by
  obtain ⟨c, rest, rfl⟩ : ∃ c rest, t = c :: rest := by cases ht <;> exact ⟨_, _, rfl⟩
  have own : IsAlnum c := ht.plain c List.mem_cons_self
  have inside : ∀ d ∈ rest, IsAlnum d ∧ d.isUpper = false ∧ d.isDigit = c.isDigit := fun d hd =>
    ⟨ht.plain d (List.mem_cons_of_mem _ hd), ht.isUpper_tail d hd⟩
  have last : some ((c :: rest).getLast (List.cons_ne_nil c rest)) = (c :: rest).getLast? :=
    (List.getLast?_eq_some_getLast _).symm
  have found : wordsAfter none [] (c :: rest ++ us.flatten) = recut (c :: rest) (c :: rest) us := by
    rw [List.cons_append, wordsAfter_continues own.not_isSeparator rfl, wordsAfter_token us.flatten rest c _ own inside,
      last]
    exact wordsAfter_flatten us _ _ ht h
  have filled : ∀ u ∈ us, u ≠ [] := by
    rintro _ hu rfl
    cases (h _ hu).token
  rw [words, List.flatten_cons, found, List.filter_eq_self]
  intro w hw
  rw [Bool.not_eq_true', List.isEmpty_eq_false_iff]
  exact recut_ne_nil us _ _ (List.cons_ne_nil _ _) filled w hw

end SchemaClasses.Text
