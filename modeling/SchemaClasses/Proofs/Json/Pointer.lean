/-
Pointers and what they select. A key or a position written as a token is read back as itself, so a
pointer with one more token selects the part of what the pointer selects.
-/
import SchemaClasses.Proofs.Json.Rearranged
import SchemaClasses.Proofs.Text.Segments

namespace SchemaClasses.Json

/-! ## Keys as tokens -/

/-- Reading a token undoes the writing of the key: no tilde of a written key begins anything but the
two characters that were written for one of the key's own. -/
theorem unescapeToken_escapeToken (key : String) : unescapeToken (escapeToken key).toList = key.toList := by
  rw [escapeToken, String.toList_ofList, unescapeToken]
  induction key.toList with
  | nil => rfl
  | cons c rest ih =>
    rw [List.flatMap_cons]
    by_cases tilde : c = '~'
    · simpa [tilde, readSlashes, readTildes] using ih
    · by_cases slash : c = '/'
      · simpa [slash, readSlashes, readTildes] using ih
      · simpa [tilde, slash, readSlashes, readTildes] using ih

theorem not_mem_escapeToken (key : String) : '/' ∉ (escapeToken key).toList := by
  rw [escapeToken, String.toList_ofList]
  intro slash
  obtain ⟨c, -, written⟩ := List.mem_flatMap.1 slash
  split at written
  · simp at written
  · split at written
    · simp at written
    · rename_i other
      exact other (List.mem_singleton.1 written).symm

/-! ## Positions as tokens -/

/-- The digits of a number other than zero do not begin with a zero. -/
theorem head?_toDigits_ne_zero (n : Nat) (positive : 0 < n) : (Nat.toDigits 10 n).head? ≠ some '0' := by
  by_cases single : n < 10
  · rw [Nat.toDigits_of_lt_base single, List.head?_cons, Ne, Option.some.injEq, Nat.digitChar_eq_zero]
    omega
  · rw [Nat.toDigits_of_base_le (by omega) (by omega), List.head?_append_of_ne_nil _ Nat.toDigits_ne_nil]
    exact head?_toDigits_ne_zero (n / 10) (by omega)
termination_by n

theorem toList_toString (n : Nat) : (toString n).toList = Nat.toDigits 10 n := Nat.toList_repr

theorem isDigit_of_mem_toString {n : Nat} {c : Char} (h : c ∈ (toString n).toList) : c.isDigit = true := by
  rw [toList_toString] at h
  exact Nat.isDigit_of_mem_toDigits (by decide) (by decide) h

theorem position?_toString (n : Nat) : position? (toString n).toList = some n := by
  have digits : (toString n).toList.all Char.isDigit = true :=
    List.all_eq_true.2 fun _ => isDigit_of_mem_toString
  rw [toList_toString] at digits ⊢
  have filled : (Nat.toDigits 10 n).isEmpty = false := by simp [Nat.toDigits_ne_nil]
  have no_leading : ((Nat.toDigits 10 n).head? == some '0' && (Nat.toDigits 10 n).length != 1) = false := by
    rcases Nat.eq_zero_or_pos n with rfl | positive
    · rfl
    · rw [beq_eq_false_iff_ne.2 (head?_toDigits_ne_zero n positive), Bool.false_and]
  have value : (Nat.toDigits 10 n).foldl (fun n d => n * 10 + (d.toNat - '0'.toNat)) 0 = n := by
    simp only [Nat.mul_comm _ 10]
    exact Nat.ofDigitChars_ten_toDigits
  rw [position?, filled, digits, no_leading, value]
  rfl

/-- Nothing is read in a token without tildes. -/
theorem unescapeToken_of_not_mem : ∀ {token : List Char}, '~' ∉ token → unescapeToken token = token
  | [], _ => rfl
  | c :: rest, h => by
    obtain ⟨other, h⟩ := not_or.1 (mt List.mem_cons.2 h)
    have ih := unescapeToken_of_not_mem h
    rw [unescapeToken] at ih ⊢
    simpa [readSlashes, readTildes, Ne.symm other] using ih

/-! ## One token more -/

theorem pointerTokens?_append {pointer token : String} {tokens : List (List Char)}
    (h : pointerTokens? pointer = some tokens) (single : '/' ∉ token.toList) :
    pointerTokens? (pointer ++ "/" ++ token) = some (tokens ++ [unescapeToken token.toList]) := by
  unfold pointerTokens? at h
  split at h
  · rename_i empty
    cases h
    simp [pointerTokens?, empty, Text.segments_of_not_mem single]
  · rename_i rest slash
    cases h
    simp [pointerTokens?, slash, Text.segments_append, Text.segments_of_not_mem single]
  · cases h

theorem follow?_append (before after : List (List Char)) (document : Json) :
    follow? (before ++ after) document = (follow? before document).bind (follow? after) := by
  induction before generalizing document with
  | nil => rfl
  | cons token rest ih =>
    rw [List.cons_append, follow?, follow?, Option.bind_assoc]
    exact congrArg _ (funext ih)

variable {document : Json} {pointer : String}

theorem select?_append {token : String} {json : Json} (h : document.select? pointer = some json)
    (single : '/' ∉ token.toList) :
    document.select? (pointer ++ "/" ++ token) = json.step? (unescapeToken token.toList) := by
  obtain ⟨tokens, ht, hf⟩ := Option.bind_eq_some_iff.1 h
  rw [select?, pointerTokens?_append ht single, Option.bind_some, follow?_append, hf, Option.bind_some, follow?]
  cases json.step? (unescapeToken token.toList) <;> rfl

theorem select?_key {entries : List (String × Json)} (h : document.select? pointer = some (.object entries))
    (key : String) : document.select? (pointer ++ "/" ++ escapeToken key) = entries.lookup key := by
  rw [select?_append h (not_mem_escapeToken key), unescapeToken_escapeToken, step?, String.ofList_toList]

theorem select?_position {items : List Json} (h : document.select? pointer = some (.array items)) (i : Nat) :
    document.select? (pointer ++ "/" ++ toString i) = items[i]? := by
  -- neither a slash nor a tilde is a digit
  have single : '/' ∉ (toString i).toList := fun hm => absurd (isDigit_of_mem_toString hm) (by decide)
  have plain : '~' ∉ (toString i).toList := fun hm => absurd (isDigit_of_mem_toString hm) (by decide)
  rw [select?_append h single, unescapeToken_of_not_mem plain, step?, position?_toString, Option.bind_some]

/-! ## Distinct keys -/

theorem distinctKeys_of_follow? : ∀ {tokens : List (List Char)} {json part : Json}, json.distinctKeys = true →
    follow? tokens json = some part → part.distinctKeys = true
  | [], _, _, h, hf => by
    cases hf
    exact h
  | token :: rest, json, part, h, hf => by
    obtain ⟨inner, hs, hf⟩ := Option.bind_eq_some_iff.1 hf
    refine distinctKeys_of_follow? ?_ hf
    unfold step? at hs
    split at hs
    · exact distinctKeys_of_mem_entries (Bool.and_eq_true_iff.1 h).2 (mem_of_lookup hs)
    · obtain ⟨i, -, hi⟩ := Option.bind_eq_some_iff.1 hs
      exact distinctKeys_of_mem_items h (List.mem_of_getElem? hi)
    · cases hs

/-- A part of a document with distinct keys has distinct keys. -/
theorem distinctKeys_of_select? {part : Json} (h : document.distinctKeys = true)
    (hs : document.select? pointer = some part) : part.distinctKeys = true := by
  obtain ⟨tokens, -, hf⟩ := Option.bind_eq_some_iff.1 hs
  exact distinctKeys_of_follow? h hf

end SchemaClasses.Json
