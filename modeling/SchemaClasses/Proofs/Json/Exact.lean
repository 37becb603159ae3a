/-
What the readers of JSON words accept. A reader is exact if it takes from the front of a text what is written there and
nothing else; exact readers one after the other are exact, and so are words, strings with their escapes and whatever
stands behind blanks.
-/
import SchemaClasses.Json.Reader
import SchemaClasses.Proofs.Run

namespace SchemaClasses.Json

open Text (Source)

variable {α β ε ε' : Type} {text : List Char} {left : Source}

/-! ## Exact readers -/

/-- A reader that reads a value just where it is written in front of a text, and leaves what is behind it. -/
def Exact (read : Source → Except ε (α × Source)) (written : α → List Char → Prop) : Prop :=
  ∀ text a left, read (text.map some) = .ok (a, left) ↔
    ∃ front behind, text = front ++ behind ∧ left = behind.map some ∧ written a front

namespace Exact

variable {read : Source → Except ε (α × Source)} {written other : α → List Char → Prop}

theorem congr (h : Exact read written) (same : ∀ a t, written a t ↔ other a t) : Exact read other := by
  intro text a left
  simp only [h text a left, same]

theorem mapError (h : Exact read written) (f : ε → ε') : Exact (fun input => (read input).mapError f) written := by
  intro text a left
  rw [except_mapError_eq_ok]
  exact h text a left

theorem map (h : Exact read written) (f : α → β) :
    Exact (fun input => (read input).map fun (a, left) => (f a, left)) fun b t => ∃ a, f a = b ∧ written a t := by
  intro text b left
  rw [except_map_eq_ok]
  constructor
  · rintro ⟨⟨a, _⟩, hr, same⟩
    obtain ⟨rfl, rfl⟩ := Prod.mk.inj same
    obtain ⟨front, behind, ht, hl, hw⟩ := (h _ _ _).1 hr
    exact ⟨front, behind, ht, hl, a, rfl, hw⟩
  · rintro ⟨front, behind, ht, hl, a, rfl, hw⟩
    exact ⟨(a, left), (h _ _ _).2 ⟨front, behind, ht, hl, hw⟩, rfl⟩

/-- A reader behind another one reads what is written behind. -/
theorem bind {next : α → Source → Except ε (β × Source)} {behind : α → β → List Char → Prop}
    (h : Exact read written) (hn : ∀ a, Exact (next a) (behind a)) :
    Exact (fun input => read input >>= fun (a, left) => next a left)
      fun b t => ∃ a u v, t = u ++ v ∧ written a u ∧ behind a b v := by
  intro text b left
  rw [except_bind_eq_ok]
  constructor
  · rintro ⟨⟨a, middle⟩, hr, hb⟩
    obtain ⟨u, rest, rfl, rfl, hu⟩ := (h _ _ _).1 hr
    obtain ⟨v, last, rfl, hl, hv⟩ := (hn a _ _ _).1 hb
    exact ⟨u ++ v, last, (List.append_assoc ..).symm, hl, a, u, v, rfl, hu, hv⟩
  · rintro ⟨_, last, rfl, hl, a, u, v, rfl, hu, hv⟩
    exact ⟨(a, (v ++ last).map some), (h _ _ _).2 ⟨u, v ++ last, List.append_assoc .., rfl, hu⟩,
      (hn a _ _ _).2 ⟨v, last, rfl, hl, hv⟩⟩

/-- A word in front of what an exact reader reads. -/
theorem behind {next : Source → Except ε (α × Source)} (word : List Char)
    (front : ∀ rest, read (word.map some ++ rest) = next rest) (h : Exact next written)
    (fails : ∀ text, (∀ rest, text ≠ word ++ rest) → ∀ found, read (text.map some) ≠ .ok found) :
    Exact read fun a t => ∃ u, t = word ++ u ∧ written a u := by
  intro text a left
  constructor
  · intro hr
    by_cases at' : ∃ rest, text = word ++ rest
    · obtain ⟨rest, rfl⟩ := at'
      rw [List.map_append, front] at hr
      obtain ⟨u, behind, rfl, hl, hu⟩ := (h _ _ _).1 hr
      exact ⟨word ++ u, behind, (List.append_assoc ..).symm, hl, u, rfl, hu⟩
    · exact absurd hr (fails text (fun rest ht => at' ⟨rest, ht⟩) _)
  · rintro ⟨_, behind, rfl, hl, u, rfl, hu⟩
    rw [List.append_assoc, List.map_append, front]
    exact (h _ _ _).2 ⟨u, behind, rfl, hl, hu⟩

theorem ok (a : α) : Exact (fun input => (.ok (a, input) : Except ε (α × Source))) fun b t => b = a ∧ t = [] := by
  intro text b left
  constructor
  · intro h
    obtain ⟨rfl, rfl⟩ := Prod.mk.inj (Except.ok.inj h)
    exact ⟨[], text, rfl, rfl, rfl, rfl⟩
  · rintro ⟨_, _, rfl, rfl, rfl, rfl⟩
    rfl

/-- A reader that is tried under a condition only. -/
theorem guard {p : Prop} [Decidable p] {e : ε} (h : Exact read written) :
    Exact (fun input => if p then read input else .error e) fun a t => p ∧ written a t := by
  intro text a left
  by_cases hp : p
  · simp only [hp, if_true, true_and]
    exact h text a left
  · simp [hp]

end Exact

/-! ## Blanks -/

/-- The characters that may stand between words. -/
def IsBlank (c : Char) : Prop := c = ' ' ∨ c = '\n' ∨ c = '\t' ∨ c = '\r'

instance (c : Char) : Decidable (IsBlank c) := inferInstanceAs (Decidable (_ ∨ _))

/-- A text of blanks. -/
def Blanks (text : List Char) : Prop := ∀ c ∈ text, IsBlank c

theorem skipBlanks_cons_of_not {c : Char} (h : ¬IsBlank c) (rest : Source) :
    skipBlanks (some c :: rest) = some c :: rest := by
  rw [skipBlanks]
  exact if_neg h

theorem skipBlanks_append {blanks : List Char} (h : Blanks blanks) (rest : Source) :
    skipBlanks (blanks.map some ++ rest) = skipBlanks rest := by
  induction blanks with
  | nil => rfl
  | cons c blanks ih =>
    obtain ⟨blank, h⟩ := List.forall_mem_cons.1 h
    rw [List.map_cons, List.cons_append, skipBlanks]
    exact (if_pos blank).trans (ih h)

@[simp] theorem skipBlanks_skipBlanks (input : Source) : skipBlanks (skipBlanks input) = skipBlanks input := by
  fun_induction skipBlanks input with
  | case1 c rest blank ih => exact ih
  | case2 c rest word => exact skipBlanks_cons_of_not word rest
  | case3 input other =>
    unfold skipBlanks
    split
    · exact absurd rfl (other _ _)
    · rfl

/-- The text behind the blanks in front. -/
theorem exists_skipBlanks (text : List Char) : ∃ blanks word, text = blanks ++ word ∧ Blanks blanks ∧
    skipBlanks (text.map some) = word.map some ∧ ∀ c rest, word = c :: rest → ¬IsBlank c := by
  induction text with
  | nil => exact ⟨[], [], rfl, fun _ h => (List.not_mem_nil h).elim, rfl, fun _ _ h => by cases h⟩
  | cons c text ih =>
    by_cases blank : IsBlank c
    · obtain ⟨blanks, word, rfl, all, skipped, starts⟩ := ih
      refine ⟨c :: blanks, word, rfl, List.forall_mem_cons.2 ⟨blank, all⟩, ?_, starts⟩
      rw [List.map_cons, skipBlanks]
      exact (if_pos blank).trans skipped
    · refine ⟨[], c :: text, rfl, fun _ h => (List.not_mem_nil h).elim, skipBlanks_cons_of_not blank _, ?_⟩
      rintro _ _ ⟨⟩
      exact blank

/-- A word behind blanks. -/
def Spaced (written : α → List Char → Prop) (a : α) (text : List Char) : Prop :=
  ∃ blanks word, text = blanks ++ word ∧ Blanks blanks ∧ written a word

/-- A reader that skips blanks is exact if it is so where there are none. -/
theorem Exact.spaced {read : Source → Except ε (α × Source)} {written : α → List Char → Prop}
    (skips : ∀ input, read (skipBlanks input) = read input) (nil : ∀ found, read [] ≠ .ok found)
    (starts : ∀ {a t}, written a t → ∃ c rest, t = c :: rest ∧ ¬IsBlank c)
    (cons : ∀ c, ¬IsBlank c → ∀ text a left, read (some c :: text.map some) = .ok (a, left) ↔
      ∃ front behind, text = front ++ behind ∧ left = behind.map some ∧ written a (c :: front)) :
    Exact read (Spaced written) := by
  intro text a left
  rw [← skips]
  constructor
  · intro hr
    obtain ⟨blanks, word, rfl, all, skipped, first⟩ := exists_skipBlanks text
    rw [skipped] at hr
    cases word with
    | nil => exact absurd hr (nil _)
    | cons c rest =>
      obtain ⟨front, behind, rfl, hl, hw⟩ := (cons c (first c rest rfl) rest a left).1 hr
      exact ⟨blanks ++ c :: front, behind, by simp, hl, blanks, c :: front, rfl, all, hw⟩
  · rintro ⟨_, behind, rfl, hl, blanks, word, rfl, all, hw⟩
    obtain ⟨c, rest, rfl, word⟩ := starts hw
    rw [List.append_assoc, List.map_append, skipBlanks_append all, List.cons_append, List.map_cons,
      skipBlanks_cons_of_not word]
    exact (cons c word _ a left).2 ⟨rest, behind, rfl, hl, hw⟩

/-! ## Names -/

theorem scanWord_eq_ok_iff : ∀ {word text : List Char}, scanWord word (text.map some) = .ok left ↔
    ∃ behind, text = word ++ behind ∧ left = behind.map some
  | [], text => by
    rw [scanWord, Except.ok.injEq, eq_comm]
    simp
  | w :: word, [] => by simp [scanWord]
  | w :: word, c :: text => by
    rw [List.map_cons, scanWord]
    split
    · rename_i same
      obtain rfl := Option.some.inj same
      rw [scanWord_eq_ok_iff]
      simp
    · rename_i other
      refine iff_of_false (by simp) ?_
      rintro ⟨behind, same, -⟩
      exact other (congrArg some (List.cons.inj same).1)

/-! ## Hexadecimal digits -/

/-- What a scan of a shorter rest found, without the bound on that rest. -/
def forget {input : Source} (scanned : Except ε (α × Rest input)) : Except ε (α × Source) :=
  scanned.map fun (a, left) => (a, left.1)

/-- The four hexadecimal digits of a number. -/
def HexDigits (n : Nat) (text : List Char) : Prop := ∃ a b c d, text = [a, b, c, d] ∧ hexValue? a b c d = some n

theorem scanHex_cons (a b c d : Char) (rest : Source) :
    forget (scanHex (some a :: some b :: some c :: some d :: rest)) =
      match hexValue? a b c d with
      | some n => .ok (n, rest)
      | none => .error .invalidEscape := by
  rw [scanHex]
  cases hexValue? a b c d <;> rfl

theorem exact_scanHex : Exact (fun input => forget (scanHex input)) HexDigits := by
  intro text n left
  match text with
  | [] | [_] | [_, _] | [_, _, _] =>
    refine iff_of_false (fun h => by cases h) ?_
    rintro ⟨_, behind, ht, -, a, b, c, d, rfl, -⟩
    simp at ht
  | a :: b :: c :: d :: rest =>
    show forget (scanHex (some a :: some b :: some c :: some d :: rest.map some)) = _ ↔ _
    rw [scanHex_cons]
    constructor
    · intro h
      split at h
      · rename_i hv
        obtain ⟨rfl, rfl⟩ := Prod.mk.inj (Except.ok.inj h)
        exact ⟨[a, b, c, d], rest, rfl, rfl, a, b, c, d, rfl, hv⟩
      · cases h
    · rintro ⟨_, behind, ht, rfl, _, _, _, _, rfl, hn⟩
      obtain ⟨rfl, rfl, rfl, rfl, rfl⟩ : _ ∧ _ ∧ _ ∧ _ ∧ _ := by simpa using ht
      rw [hn]

/-! ## Escapes -/

/-- The character that a pair of surrogates stands for. -/
def pairChar (high low : Nat) : Char := Char.ofNat ((high - 0xD800) * 0x400 + (low - 0xDC00) + 0x10000)

/-- Whether a number is the second one of a pair of surrogates. -/
def IsLow (n : Nat) : Prop := 0xDC00 ≤ n ∧ n ≤ 0xDFFF

/-- Whether a number is the first one of a pair of surrogates. -/
def IsHigh (n : Nat) : Prop := 0xD800 ≤ n ∧ n ≤ 0xDBFF

instance (n : Nat) : Decidable (IsLow n) := inferInstanceAs (Decidable (_ ∧ _))

instance (n : Nat) : Decidable (IsHigh n) := inferInstanceAs (Decidable (_ ∧ _))

theorem not_isLow_of_isHigh {n : Nat} (h : IsHigh n) : ¬IsLow n := by
  unfold IsLow
  unfold IsHigh at h
  omega

/-- The second half of a pair of surrogates behind the first one, and the character of the pair. -/
def LowHalf (high : Nat) (c : Char) (text : List Char) : Prop :=
  ∃ low digits, text = '\\' :: 'u' :: digits ∧ HexDigits low digits ∧ IsLow low ∧ c = pairChar high low

theorem scanLowSurrogate_cons (high : Nat) (rest : Source) :
    forget (scanLowSurrogate high (some '\\' :: some 'u' :: rest)) =
      forget (scanHex rest) >>= fun (low, left) =>
        if IsLow low then .ok (pairChar high low, left) else .error .loneSurrogate := by
  rw [scanLowSurrogate]
  cases scanHex rest with
  | error fault => rfl
  | ok found =>
    show forget (if IsLow found.1 then _ else _) = if _ then _ else _
    split <;> rfl

theorem scanLowSurrogate_other (high : Nat) (input : Source) :
    (∃ rest, input = some '\\' :: some 'u' :: rest) ∨ ∃ fault, scanLowSurrogate high input = .error fault := by
  unfold scanLowSurrogate
  split
  · exact .inl ⟨_, rfl⟩
  · exact .inr ⟨_, rfl⟩
  · exact .inr ⟨_, rfl⟩
  · exact .inr ⟨_, rfl⟩

theorem exact_scanLowSurrogate (high : Nat) :
    Exact (fun input => forget (scanLowSurrogate high input)) (LowHalf high) := by
  have fails : ∀ text : List Char, (∀ rest, text ≠ ['\\', 'u'] ++ rest) →
      ∀ found, forget (scanLowSurrogate high (text.map some)) ≠ .ok found := by
    intro text other found h
    rcases scanLowSurrogate_other high (text.map some) with ⟨rest, ht⟩ | ⟨fault, failed⟩
    · obtain ⟨_, tail, rfl, first, ht⟩ := List.map_eq_cons_iff.1 ht
      obtain ⟨_, rest, rfl, second, -⟩ := List.map_eq_cons_iff.1 ht
      exact other rest (by rw [Option.some.inj first, Option.some.inj second]; rfl)
    · rw [failed] at h
      cases h
  have chosen : ∀ low, Exact
      (fun left => if IsLow low then .ok (pairChar high low, left) else .error SyntaxFault.loneSurrogate)
      fun c t => IsLow low ∧ c = pairChar high low ∧ t = [] :=
    fun low => (Exact.ok _).guard
  have read : Exact (fun input => forget (scanLowSurrogate high input)) _ :=
    Exact.behind ['\\', 'u'] (scanLowSurrogate_cons high) (exact_scanHex.bind chosen) fails
  refine read.congr fun c t => ?_
  constructor
  · rintro ⟨_, rfl, low, digits, _, rfl, hd, range, pair, rfl⟩
    exact ⟨low, digits, by simp, hd, range, pair⟩
  · rintro ⟨low, digits, rfl, hd, range, pair⟩
    exact ⟨digits, rfl, low, digits, [], (List.append_nil _).symm, hd, range, pair, rfl⟩

/-- The characters that stand for one behind a backslash. -/
def shortEscapes : List (Char × Char) :=
  [('"', '"'), ('\\', '\\'), ('/', '/'), ('b', '\x08'), ('f', '\x0c'), ('n', '\n'), ('r', '\r'), ('t', '\t')]

/-- What stands behind a backslash for a character: a letter or sign, a number that is no surrogate, or a pair of
surrogates. -/
inductive Escape : Char → List Char → Prop
  | short {e c} : shortEscapes.lookup e = some c → Escape c [e]
  | unit {n digits} : HexDigits n digits → ¬IsLow n → ¬IsHigh n → Escape (Char.ofNat n) ('u' :: digits)
  | pair {high digits c low} : HexDigits high digits → IsHigh high → LowHalf high c low →
      Escape c ('u' :: (digits ++ low))

theorem scanEscape_unit (rest : Source) : forget (scanEscape (some 'u' :: rest)) =
    forget (scanHex rest) >>= fun (unit, left) =>
      if IsLow unit then .error .loneSurrogate
      else if IsHigh unit then forget (scanLowSurrogate unit left)
      else .ok (Char.ofNat unit, left) := by
  rw [scanEscape]
  cases scanHex rest with
  | error fault => rfl
  | ok found =>
    obtain ⟨unit, left⟩ := found
    show forget (if IsLow unit then _ else if IsHigh unit then _ else _) = if _ then _ else if _ then _ else _
    split
    · rfl
    · split
      · show forget (match scanLowSurrogate unit left.1 with | .error fault => _ | .ok (c, last) => _) = _
        cases scanLowSurrogate unit left.1 <;> rfl
      · rfl

theorem scanEscape_short {e : Char} (h : e ≠ 'u') (rest : Source) : forget (scanEscape (some e :: rest)) =
    match shortEscapes.lookup e with
    | some c => .ok (c, rest)
    | none => .error .invalidEscape := by
  by_cases known : e ∈ shortEscapes.map Prod.fst
  · simp only [shortEscapes, List.map_cons, List.map_nil, List.mem_cons, List.not_mem_nil, or_false] at known
    rcases known with rfl | rfl | rfl | rfl | rfl | rfl | rfl | rfl <;> rfl
  · simp only [shortEscapes, List.map_cons, List.map_nil, List.mem_cons, List.not_mem_nil, or_false, not_or] at known
    have unknown : shortEscapes.lookup e = none := by simp [shortEscapes, List.lookup_eq_none_iff, known]
    rw [unknown]
    simp [scanEscape, h, known, forget, Except.map]

/-- What is left of an escape behind its number. -/
def EscapeEnd (unit : Nat) (c : Char) (text : List Char) : Prop :=
  ¬IsLow unit ∧ (IsHigh unit ∧ LowHalf unit c text ∨ ¬IsHigh unit ∧ c = Char.ofNat unit ∧ text = [])

theorem exact_escapeEnd (unit : Nat) : Exact (fun left =>
    if IsLow unit then .error .loneSurrogate
    else if IsHigh unit then forget (scanLowSurrogate unit left)
    else .ok (Char.ofNat unit, left)) (EscapeEnd unit) := by
  unfold EscapeEnd
  by_cases low : IsLow unit
  · intro text c left
    simp [low]
  · by_cases high : IsHigh unit
    · simp only [low, high, if_true, if_false, not_false_eq_true, not_true_eq_false, true_and, false_and, or_false]
      exact exact_scanLowSurrogate unit
    · simp only [low, high, if_false, not_false_eq_true, true_and, false_and, false_or]
      exact Exact.ok _

theorem exact_scanEscape : Exact (fun input => forget (scanEscape input)) Escape := by
  intro text c left
  match text with
  | [] =>
    refine iff_of_false (fun h => by cases h) ?_
    rintro ⟨front, behind, ht, -, escape⟩
    obtain ⟨rfl, rfl⟩ := List.append_eq_nil_iff.1 ht.symm
    cases escape
  | e :: rest =>
    show forget (scanEscape (some e :: rest.map some)) = _ ↔ _
    by_cases unit : e = 'u'
    · subst unit
      rw [scanEscape_unit]
      refine (exact_scanHex.bind exact_escapeEnd rest c left).trans ?_
      constructor
      · rintro ⟨_, behind, rfl, hl, n, digits, last, rfl, hd, low, ⟨high, pair⟩ | ⟨high, rfl, rfl⟩⟩
        · exact ⟨'u' :: (digits ++ last), behind, rfl, hl, .pair hd high pair⟩
        · exact ⟨'u' :: digits, behind, by simp, hl, .unit hd low high⟩
      · rintro ⟨front, behind, ht, hl, escape⟩
        cases escape with
        | short known =>
          obtain rfl : 'u' = _ := (List.cons.inj ht).1
          cases known
        | @unit n digits hd low high =>
          exact ⟨digits, behind, (List.cons.inj ht).2, hl, n, digits, [], (List.append_nil _).symm, hd, low,
            .inr ⟨high, rfl, rfl⟩⟩
        | @pair n digits _ last hd high pair =>
          exact ⟨digits ++ last, behind, (List.cons.inj ht).2, hl, n, digits, last, rfl, hd, not_isLow_of_isHigh high,
            .inl ⟨high, pair⟩⟩
    · rw [scanEscape_short unit]
      constructor
      · intro h
        split at h
        · rename_i known
          obtain ⟨rfl, rfl⟩ := Prod.mk.inj (Except.ok.inj h)
          exact ⟨[e], rest, rfl, rfl, .short known⟩
        · cases h
      · rintro ⟨front, behind, ht, rfl, escape⟩
        cases escape with
        | short known =>
          obtain ⟨rfl, rfl⟩ := List.cons.inj ht
          rw [known]
        | unit => exact absurd (List.cons.inj ht).1 unit
        | pair => exact absurd (List.cons.inj ht).1 unit

/-! ## Strings -/

/-- How a character may be written within quotes. -/
inductive Spelt : Char → List Char → Prop
  | plain {c} : c ≠ '"' → c ≠ '\\' → 0x20 ≤ c.toNat → Spelt c [c]
  | escape {c escaped} : Escape c escaped → Spelt c ('\\' :: escaped)

/-- The characters of a text as they are written, up to the closing quote. -/
inductive StringEnd : List Char → List Char → Prop
  | done : StringEnd [] ['"']
  | char {c cs part rest} : Spelt c part → StringEnd cs rest → StringEnd (c :: cs) (part ++ rest)

theorem StringEnd.ne_nil {cs : List Char} (h : StringEnd cs text) : text ≠ [] := by
  cases h with
  | done => exact List.cons_ne_nil _ _
  | char spelt _ => cases spelt <;> exact List.cons_ne_nil _ _

/-- A text in quotes. -/
def Quoted (value : String) (text : List Char) : Prop := ∃ rest, text = '"' :: rest ∧ StringEnd value.toList rest

/-- What a scan within quotes finds behind the characters that are done, last one first. -/
def FindsString (done text : List Char) (value : String) (left : Source) : Prop :=
  ∃ front behind cs, text = front ++ behind ∧ left = behind.map some ∧ value = String.ofList (done.reverse ++ cs) ∧
    StringEnd cs front

section FindsString

variable {done : List Char} {value : String} {c : Char}

theorem findsString_quote : FindsString done ('"' :: text) value left ↔
    value = String.ofList done.reverse ∧ left = text.map some := by
  constructor
  · rintro ⟨_, behind, cs, ht, rfl, rfl, written⟩
    cases written with
    | done =>
      rw [(List.cons.inj ht).2]
      exact ⟨by rw [List.append_nil], rfl⟩
    | char spelt written =>
      cases spelt with
      | plain quote => exact absurd (List.cons.inj ht).1.symm quote
      | escape => cases (List.cons.inj ht).1
  · rintro ⟨rfl, rfl⟩
    exact ⟨['"'], text, [], rfl, rfl, by rw [List.append_nil], .done⟩

theorem findsString_backslash : FindsString done ('\\' :: text) value left ↔
    ∃ c escaped rest, text = escaped ++ rest ∧ Escape c escaped ∧ FindsString (c :: done) rest value left := by
  constructor
  · rintro ⟨_, behind, cs, ht, hl, rfl, written⟩
    cases written with
    | done => cases (List.cons.inj ht).1
    | @char c cs part rest spelt written =>
      cases spelt with
      | plain _ backslash => exact absurd (List.cons.inj ht).1.symm backslash
      | escape escape =>
        refine ⟨c, _, rest ++ behind, ?_, escape, rest, behind, cs, rfl, hl, by simp, written⟩
        exact (List.cons.inj ht).2.trans (List.append_assoc ..)
  · rintro ⟨c, escaped, _, rfl, escape, rest, behind, cs, rfl, hl, rfl, written⟩
    exact ⟨'\\' :: escaped ++ rest, behind, c :: cs, by simp, hl, by simp, .char (.escape escape) written⟩

theorem findsString_plain (quote : c ≠ '"') (backslash : c ≠ '\\') : FindsString done (c :: text) value left ↔
    0x20 ≤ c.toNat ∧ FindsString (c :: done) text value left := by
  constructor
  · rintro ⟨_, behind, cs, ht, hl, rfl, written⟩
    cases written with
    | done => exact absurd (List.cons.inj ht).1 quote
    | @char d cs part rest spelt written =>
      cases spelt with
      | plain _ _ least =>
        obtain ⟨rfl, rfl⟩ := List.cons.inj ht
        exact ⟨least, rest, behind, cs, rfl, hl, by simp, written⟩
      | escape => exact absurd (List.cons.inj ht).1 backslash
  · rintro ⟨least, rest, behind, cs, rfl, hl, rfl, written⟩
    exact ⟨c :: rest, behind, c :: cs, rfl, hl, by simp, .char (.plain quote backslash least) written⟩

end FindsString

theorem scanString_backslash (done : List Char) (rest : Source) : scanString false done (some '\\' :: rest) =
    forget (scanEscape rest) >>= fun (c, left) => scanString false (c :: done) left := by
  rw [scanString, if_neg (by decide), if_pos rfl]
  cases scanEscape rest <;> rfl

theorem scanString_eq_ok_iff (done text : List Char) (value : String) (left : Source) :
    scanString false done (text.map some) = .ok (value, left) ↔ FindsString done text value left := by
  match text with
  | [] =>
    rw [List.map_nil, scanString]
    refine iff_of_false (fun h => by cases h) ?_
    rintro ⟨front, behind, cs, ht, -, -, written⟩
    exact written.ne_nil (List.append_eq_nil_iff.1 ht.symm).1
  | c :: rest =>
    rw [List.map_cons]
    by_cases quote : c = '"'
    · subst quote
      rw [scanString, findsString_quote, if_pos rfl]
      simp [eq_comm]
    by_cases backslash : c = '\\'
    · subst backslash
      rw [scanString_backslash, findsString_backslash, except_bind_eq_ok]
      constructor
      · rintro ⟨⟨e, _⟩, he, found⟩
        obtain ⟨part, after, rfl, rfl, escape⟩ := (exact_scanEscape rest e _).1 he
        exact ⟨e, part, after, rfl, escape, (scanString_eq_ok_iff (e :: done) after value left).1 found⟩
      · rintro ⟨e, part, after, rfl, escape, found⟩
        exact ⟨(e, after.map some), (exact_scanEscape _ e _).2 ⟨part, after, rfl, rfl, escape⟩,
          (scanString_eq_ok_iff (e :: done) after value left).2 found⟩
    · rw [scanString, if_neg quote, if_neg backslash, findsString_plain quote backslash,
        ← scanString_eq_ok_iff (c :: done) rest]
      split
      · rename_i control
        exact iff_of_false (fun h => by cases h) fun h => absurd h.1 (Nat.not_le_of_gt control)
      · rename_i visible
        exact (and_iff_right (Nat.not_lt.1 visible)).symm
termination_by text.length

/-- A string behind its opening quote. -/
theorem exact_scanString : Exact (scanString false []) fun value t => StringEnd value.toList t := by
  intro text value left
  rw [scanString_eq_ok_iff]
  constructor
  · rintro ⟨front, behind, cs, ht, hl, rfl, written⟩
    exact ⟨front, behind, ht, hl, by simpa using written⟩
  · rintro ⟨front, behind, ht, hl, written⟩
    exact ⟨front, behind, value.toList, ht, hl, by simp, written⟩

/-! ## Lists in brackets -/

/-- What stands before an item: a comma, unless it is the first one. -/
inductive Separator : Bool → List Char → Prop
  | first : Separator true []
  | comma {blanks} : Blanks blanks → Separator false (blanks ++ [','])

/-- Items with commas between them, up to the closing bracket. -/
inductive Listed (item : α → List Char → Prop) (close : Char) : Bool → List α → List Char → Prop
  | done {first blanks} : Blanks blanks → Listed item close first [] (blanks ++ [close])
  | more {first a as before part rest} : Separator first before → item a part → Listed item close false as rest →
      Listed item close first (a :: as) (before ++ part ++ rest)

theorem skipBlanks_word {blanks rest : List Char} {c : Char} (h : Blanks blanks) (word : ¬IsBlank c) :
    skipBlanks ((blanks ++ c :: rest).map some) = some c :: rest.map some := by
  rw [List.map_append, skipBlanks_append h, List.map_cons, skipBlanks_cons_of_not word]

theorem exists_of_skipBlanks {c : Char} (h : skipBlanks (text.map some) = some c :: left) :
    ∃ blanks behind, text = blanks ++ c :: behind ∧ Blanks blanks ∧ left = behind.map some := by
  obtain ⟨blanks, word, rfl, all, skipped, -⟩ := exists_skipBlanks text
  obtain ⟨_, behind, rfl, first, rest⟩ := List.map_eq_cons_iff.1 (skipped.symm.trans h)
  exact ⟨blanks, behind, by rw [Option.some.inj first], all, rest.symm⟩

theorem nextKey_eq_done_iff {first : Bool} : nextKey first (text.map some) = .ok (.done left) ↔
    ∃ blanks behind, text = blanks ++ '\x7d' :: behind ∧ Blanks blanks ∧ left = behind.map some := by
  constructor
  · intro h
    unfold nextKey at h
    split at h
    · cases h
    · rename_i rest skipped
      cases h
      exact exists_of_skipBlanks skipped
    · split at h
      · cases h
      · split at h <;> cases h
    · split at h <;> cases h
    · split at h <;> cases h
  · rintro ⟨blanks, behind, rfl, all, rfl⟩
    unfold nextKey
    rw [skipBlanks_word all (by decide)]
    rfl

theorem nextKey_eq_key_iff {first : Bool} : nextKey first (text.map some) = .ok (.key left) ↔
    ∃ before blanks behind, text = before ++ (blanks ++ '"' :: behind) ∧ Separator first before ∧ Blanks blanks ∧
      left = behind.map some := by
  constructor
  · intro h
    unfold nextKey at h
    split at h
    · cases h
    · cases h
    · rename_i rest skipped
      obtain ⟨blanks, behind, rfl, all, rfl⟩ := exists_of_skipBlanks skipped
      split at h
      · cases h
      · rename_i later
        split at h
        · cases h
        · rename_i rest' skipped'
          cases h
          obtain ⟨blanks', behind', rfl, all', hl⟩ := exists_of_skipBlanks skipped'
          rw [Bool.eq_false_iff.2 later]
          exact ⟨blanks ++ [','], blanks', behind', by simp, .comma all, all', hl⟩
        · cases h
        · cases h
    · rename_i rest skipped
      split at h
      · rename_i earliest
        cases h
        obtain ⟨blanks, behind, rfl, all, hl⟩ := exists_of_skipBlanks skipped
        rw [earliest]
        exact ⟨[], blanks, behind, rfl, .first, all, hl⟩
      · cases h
    · cases h
  · rintro ⟨_, blanks, behind, rfl, separator, all, rfl⟩
    unfold nextKey
    cases separator with
    | first =>
      rw [List.nil_append, skipBlanks_word all (by decide)]
      rfl
    | comma before =>
      rw [List.append_assoc, List.singleton_append, skipBlanks_word before (by decide)]
      simp only
      rw [skipBlanks_word all (by decide)]
      rfl

theorem nextItem_eq_done_iff {first : Bool} : nextItem first (text.map some) = .ok (.done left) ↔
    ∃ blanks behind, text = blanks ++ ']' :: behind ∧ Blanks blanks ∧ left = behind.map some := by
  constructor
  · intro h
    unfold nextItem at h
    split at h
    · cases h
    · rename_i rest skipped
      cases h
      exact exists_of_skipBlanks skipped
    · split at h
      · cases h
      · split at h <;> cases h
    · split at h <;> cases h
  · rintro ⟨blanks, behind, rfl, all, rfl⟩
    unfold nextItem
    rw [skipBlanks_word all (by decide)]
    rfl

/-- An item is looked for behind what separates it, unless there is nothing or the end of the list. -/
theorem nextItem_eq_item_iff {first : Bool} : nextItem first (text.map some) = .ok (.item left) ↔
    ∃ before behind, text = before ++ behind ∧ Separator first before ∧ left = skipBlanks (behind.map some) ∧
      left ≠ [] ∧ ∀ rest, left ≠ some ']' :: rest := by
  constructor
  · intro h
    unfold nextItem at h
    split at h
    · cases h
    · cases h
    · rename_i rest skipped
      split at h
      · rename_i earliest
        cases h
        rw [earliest]
        exact ⟨[], text, rfl, .first, skipped.symm, List.cons_ne_nil _ _, fun _ h => by cases h⟩
      · rename_i later
        obtain ⟨blanks, behind, rfl, all, rfl⟩ := exists_of_skipBlanks skipped
        split at h
        · cases h
        · cases h
        · rename_i some' open'
          cases h
          rw [Bool.eq_false_iff.2 later]
          exact ⟨blanks ++ [','], behind, by simp, .comma all, rfl, some', open'⟩
    · rename_i some' open' _
      split at h
      · rename_i earliest
        cases h
        rw [earliest]
        exact ⟨[], text, rfl, .first, rfl, some', open'⟩
      · cases h
  · rintro ⟨_, behind, rfl, separator, rfl, some', open'⟩
    unfold nextItem
    cases separator with
    | first =>
      rw [List.nil_append]
      split
      · rename_i none
        exact absurd none some'
      · rename_i rest close
        exact absurd close (open' rest)
      · rename_i rest skipped
        rw [skipped]
        rfl
      · rfl
    | comma before =>
      rw [List.append_assoc, List.singleton_append, skipBlanks_word before (by decide)]
      simp only
      rw [if_neg Bool.false_ne_true]

/-- A colon behind blanks. -/
theorem scanColon_eq_ok_iff : scanColon (text.map some) = .ok left ↔
    ∃ blanks behind, text = blanks ++ ':' :: behind ∧ Blanks blanks ∧ left = behind.map some := by
  constructor
  · intro h
    unfold scanColon at h
    split at h
    · rename_i rest skipped
      cases h
      exact exists_of_skipBlanks skipped
    · cases h
    · cases h
  · rintro ⟨blanks, behind, rfl, all, rfl⟩
    unfold scanColon
    rw [skipBlanks_word all (by decide)]
    rfl

end SchemaClasses.Json
