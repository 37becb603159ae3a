/-
Which texts hold settings, and which settings they hold. A text is read up to the end of the object or array in front of
it; an object gives some of the eight settings, each once and in any order, an array gives the first ones in their order.
-/
import SchemaClasses.Proofs.Json.Exact
import SchemaClasses.Settings.Reader

namespace SchemaClasses

open Json
open Text (Source)

/-! ## Settings one by one -/

/-- A single setting. -/
inductive Setting where
  | space (value : String)
  | rootClass (value : Option String)
  | sourceRoot (value : String)
  | typed (value : Bool)
  | getters (value : Bool)
  | constants (value : Bool)
  | exceptions (value : Bool)
  | dateTimeFormat (value : Option String)
  deriving Repr, DecidableEq

namespace Setting

/-- The field that a setting is given under. -/
def key : Setting → String
  | space _ => "namespace"
  | rootClass _ => "root_class"
  | sourceRoot _ => "src_root"
  | typed _ => "typed"
  | getters _ => "getters"
  | constants _ => "constants"
  | exceptions _ => "exceptions"
  | dateTimeFormat _ => "date_time_format"

/-- Settings with a single one replaced. -/
def put (s : Settings) : Setting → Settings
  | space value => { s with space := value }
  | rootClass value => { s with rootClass := value }
  | sourceRoot value => { s with sourceRoot := value }
  | typed value => { s with typed := value }
  | getters value => { s with getters := value }
  | constants value => { s with constants := value }
  | exceptions value => { s with exceptions := value }
  | dateTimeFormat value => { s with dateTimeFormat := value }

end Setting

/-- The settings one by one. -/
def Settings.each (s : Settings) : List Setting :=
  [.space s.space, .rootClass s.rootClass, .sourceRoot s.sourceRoot, .typed s.typed, .getters s.getters,
    .constants s.constants, .exceptions s.exceptions, .dateTimeFormat s.dateTimeFormat]

namespace Setting

/-- The settings one by one stand under the eight fields in their order. -/
theorem map_key_each (s : Settings) : s.each.map key = settingsFields := rfl

theorem key_mem_settingsFields (x : Setting) : x.key ∈ settingsFields := by
  cases x <;> simp [key, settingsFields]

theorem each_put (s : Settings) (x : Setting) : (put s x).each = s.each.map fun d => if d.key = x.key then x else d := by
  cases x <;> rfl

theorem each_inj {s s' : Settings} (h : s.each = s'.each) : s = s' := by
  cases s
  cases s'
  simpa [Settings.each] using h

/-! ## Settings in a text -/

/-- A truth value as it is written. -/
def TruthWord (value : Bool) (text : List Char) : Prop := text = (if value then "true" else "false").toList

/-- A text in quotes, or nothing written as such. -/
def QuotedOrNull (value : Option String) (text : List Char) : Prop :=
  match value with
  | none => text = "null".toList
  | some value => Quoted value text

/-- The value of a setting as it is written. -/
def Written : Setting → List Char → Prop
  | space value | sourceRoot value => Spaced Quoted value
  | rootClass value | dateTimeFormat value => Spaced QuotedOrNull value
  | typed value | getters value | constants value | exceptions value => Spaced TruthWord value

/-- A setting as it is written in an object: its key, a colon and its value. -/
def Entry (x : Setting) (text : List Char) : Prop :=
  ∃ key blanks value, text = key ++ (blanks ++ ':' :: value) ∧ Spaced Quoted x.key key ∧ Blanks blanks ∧ x.Written value

/-! ## Values -/

theorem exact_scanWord (word : List Char) (a : α) : Exact
    (fun input => (Settings.ofScan (scanWord word input)).map fun left => (a, left)) fun b t => b = a ∧ t = word := by
  intro text b left
  simp only [Settings.ofScan, except_map_eq_ok, except_mapError_eq_ok, scanWord_eq_ok_iff]
  constructor
  · rintro ⟨_, ⟨behind, ht, hl⟩, same⟩
    obtain ⟨rfl, rfl⟩ := Prod.mk.inj same
    exact ⟨word, behind, ht, hl, rfl, rfl⟩
  · rintro ⟨_, behind, ht, hl, rfl, rfl⟩
    exact ⟨left, ⟨behind, ht, hl⟩, rfl⟩

theorem readBool_skipBlanks (input : Source) : Settings.readBool (skipBlanks input) = Settings.readBool input := by
  rw [Settings.readBool, skipBlanks_skipBlanks]
  rfl

theorem exact_readBool : Exact Settings.readBool (Spaced TruthWord) := by
  refine Exact.spaced readBool_skipBlanks (fun found h => by cases h) ?_ ?_
  · rintro (_ | _) t rfl
    · exact ⟨'f', _, rfl, by decide⟩
    · exact ⟨'t', _, rfl, by decide⟩
  · intro c word text value left
    unfold Settings.readBool
    rw [skipBlanks_cons_of_not word]
    by_cases yes : c = 't'
    · subst yes
      refine (exact_scanWord ['r', 'u', 'e'] true text value left).trans ?_
      cases value <;> simp [TruthWord]
    by_cases no : c = 'f'
    · subst no
      refine (exact_scanWord ['a', 'l', 's', 'e'] false text value left).trans ?_
      cases value <;> simp [TruthWord]
    · refine iff_of_false (fun h => by simp at h) ?_
      rintro ⟨front, behind, -, -, written⟩
      cases value
      · exact no (List.cons.inj written).1
      · exact yes (List.cons.inj written).1

theorem readText_skipBlanks (expected : ExpectedValue) (input : Source) :
    Settings.readText expected (skipBlanks input) = Settings.readText expected input := by
  rw [Settings.readText, skipBlanks_skipBlanks]
  rfl

theorem exact_readText (expected : ExpectedValue) : Exact (Settings.readText expected) (Spaced Quoted) := by
  refine Exact.spaced (readText_skipBlanks expected) (fun found h => by cases h) ?_ ?_
  · rintro value t ⟨rest, rfl, -⟩
    exact ⟨'"', rest, rfl, by decide⟩
  · intro c word text value left
    unfold Settings.readText
    rw [skipBlanks_cons_of_not word]
    by_cases quote : c = '"'
    · subst quote
      refine (exact_scanString.mapError SettingsFault.malformed text value left).trans ?_
      simp [Quoted]
    · refine iff_of_false (fun h => by simp at h) ?_
      rintro ⟨front, behind, -, -, rest, same, -⟩
      exact quote (List.cons.inj same).1

theorem readText?_skipBlanks (input : Source) : Settings.readText? (skipBlanks input) = Settings.readText? input := by
  rw [Settings.readText?, skipBlanks_skipBlanks]
  rfl

theorem exact_readText? : Exact Settings.readText? (Spaced QuotedOrNull) := by
  refine Exact.spaced readText?_skipBlanks (fun found h => by cases h) ?_ ?_
  · rintro (_ | value) t written
    · exact ⟨'n', _, written, by decide⟩
    · obtain ⟨rest, rfl, -⟩ := written
      exact ⟨'"', rest, rfl, by decide⟩
  · intro c word text value left
    unfold Settings.readText?
    rw [skipBlanks_cons_of_not word]
    by_cases null : c = 'n'
    · subst null
      refine (exact_scanWord ['u', 'l', 'l'] none text value left).trans ?_
      cases value <;> simp [QuotedOrNull, Quoted]
    by_cases quote : c = '"'
    · subst quote
      refine ((exact_scanString.mapError SettingsFault.malformed).map some text value left).trans ?_
      cases value <;> simp [QuotedOrNull, Quoted]
    · refine iff_of_false (fun h => ?_) ?_
      · split at h
        · rename_i same
          exact null (Option.some.inj (List.cons.inj same).1)
        · obtain ⟨found, read, -⟩ := except_map_eq_ok.1 h
          unfold Settings.readText at read
          rw [skipBlanks_cons_of_not word] at read
          simp at read
      · rintro ⟨front, behind, -, -, written⟩
        cases value with
        | none => exact null (List.cons.inj written).1
        | some value =>
          obtain ⟨rest, same, -⟩ := written
          exact quote (List.cons.inj same).1

/-- The value of a field, put into settings. -/
theorem exact_put {read : Source → Settings.Reading α} {written : α → List Char → Prop} (h : Exact read written)
    (s : Settings) {name : String} (make : α → Setting) (own : ∀ x, x.key = name ↔ ∃ v, x = make v)
    (same : ∀ v t, (make v).Written t ↔ written v t) :
    Exact (fun input => (read input).map fun (v, left) => (put s (make v), left)) fun s' t =>
      ∃ x : Setting, x.key = name ∧ s' = put s x ∧ x.Written t := by
  refine (h.map fun v => put s (make v)).congr fun s' t => ?_
  constructor
  · rintro ⟨v, rfl, hw⟩
    exact ⟨make v, (own _).2 ⟨v, rfl⟩, rfl, (same v t).2 hw⟩
  · rintro ⟨x, hk, rfl, hw⟩
    obtain ⟨v, rfl⟩ := (own x).1 hk
    exact ⟨v, rfl, (same v t).1 hw⟩

theorem exact_readField (s : Settings) (name : String) : Exact (s.readField name) fun s' t =>
    ∃ x : Setting, x.key = name ∧ s' = put s x ∧ x.Written t := by
  unfold Settings.readField
  split
  · exact exact_put (exact_readText .text) s space (fun x => by cases x <;> simp [key]) fun _ _ => Iff.rfl
  · exact exact_put exact_readText? s rootClass (fun x => by cases x <;> simp [key]) fun _ _ => Iff.rfl
  · exact exact_put (exact_readText .path) s sourceRoot (fun x => by cases x <;> simp [key]) fun _ _ => Iff.rfl
  · exact exact_put exact_readBool s typed (fun x => by cases x <;> simp [key]) fun _ _ => Iff.rfl
  · exact exact_put exact_readBool s getters (fun x => by cases x <;> simp [key]) fun _ _ => Iff.rfl
  · exact exact_put exact_readBool s constants (fun x => by cases x <;> simp [key]) fun _ _ => Iff.rfl
  · exact exact_put exact_readBool s exceptions (fun x => by cases x <;> simp [key]) fun _ _ => Iff.rfl
  · exact exact_put exact_readText? s dateTimeFormat (fun x => by cases x <;> simp [key]) fun _ _ => Iff.rfl
  · intro text s' left
    refine iff_of_false (fun h => by cases h) ?_
    rintro ⟨front, behind, -, -, x, own, -⟩
    cases x <;> simp_all [key]

theorem readField_skipBlanks (s : Settings) (name : String) (input : Source) :
    s.readField name (skipBlanks input) = s.readField name input := by
  unfold Settings.readField
  simp only [readText_skipBlanks, readText?_skipBlanks, readBool_skipBlanks]

/-! ## Objects -/

variable {s s' : Settings}

/-- Settings with several ones replaced, one after the other. -/
def putAll (s : Settings) (given : List Setting) : Settings := given.foldl put s

/-- The fields of an object end, or a key that was not given before comes with a value and others behind it. -/
theorem readFields_step {remaining : List String} {first : Bool} {input : Source} :
    Settings.readFields remaining first s input = .ok s' ↔
      (∃ left, nextKey first input = .ok (.done left) ∧ s = s') ∨
      ∃ left name left' left'' s₁ last, nextKey first input = .ok (.key left) ∧
        scanString false [] left = .ok (name, left') ∧ name ∈ settingsFields ∧ name ∈ remaining ∧
        scanColon left' = .ok left'' ∧ s.readField name left'' = .ok (s₁, last) ∧
        Settings.readFields (remaining.erase name) false s₁ last = .ok s' := by
  rw [Settings.readFields]
  cases nextKey first input with
  | error fault => simp [Except.mapError]
  | ok step =>
    cases step with
    | done left => simp [Except.mapError]
    | key left =>
      simp only [except_mapError_ok, except_bind_eq_ok, except_mapError_eq_ok]
      constructor
      · rintro ⟨⟨name, left'⟩, hk, h⟩
        split at h
        · rename_i known
          split at h
          · rename_i fresh
            simp only [except_bind_eq_ok, except_mapError_eq_ok] at h
            obtain ⟨left'', hc, ⟨s₁, last⟩, hv, hr⟩ := h
            exact .inr ⟨left, name, left', left'', s₁, last, rfl, hk, List.contains_iff_mem.1 known, fresh, hc, hv, hr⟩
          · cases h
        · cases h
      · rintro (⟨_, h, -⟩ | ⟨_, name, left', left'', s₁, last, h, hk, known, fresh, hc, hv, hr⟩)
        · cases h
        · cases h
          refine ⟨(name, left'), hk, ?_⟩
          rw [if_pos (List.contains_iff_mem.2 known), dif_pos fresh]
          simp only [except_bind_eq_ok, except_mapError_eq_ok]
          exact ⟨left'', hc, (s₁, last), hv, hr⟩

theorem listed_of_readFields {remaining : List String} (distinct : remaining.Nodup) {first : Bool} {s : Settings}
    {text : List Char} (h : Settings.readFields remaining first s (text.map some) = .ok s') :
    ∃ given front behind, text = front ++ behind ∧ Listed Entry '\x7d' first given front ∧ (given.map key).Nodup ∧
      (∀ x ∈ given, x.key ∈ remaining) ∧ s' = putAll s given := by
  rcases readFields_step.1 h with
    ⟨left, hd, rfl⟩ | ⟨left, name, left', left'', s₁, last, hn, hk, known, fresh, hc, hv, hr⟩
  · obtain ⟨blanks, behind, rfl, all, -⟩ := nextKey_eq_done_iff.1 hd
    exact ⟨[], blanks ++ ['\x7d'], behind, by simp, .done all, List.nodup_nil,
      fun _ h => (List.not_mem_nil h).elim, rfl⟩
  · obtain ⟨before, blanks, _, rfl, separator, all, rfl⟩ := nextKey_eq_key_iff.1 hn
    obtain ⟨word, _, rfl, rfl, hw⟩ := (exact_scanString _ _ _).1 hk
    obtain ⟨blanks', _, rfl, all', rfl⟩ := scanColon_eq_ok_iff.1 hc
    obtain ⟨value, _, rfl, rfl, x, rfl, rfl, hx⟩ := (exact_readField _ _ _ _ _).1 hv
    have shorter : (remaining.erase x.key).length < remaining.length := by
      rw [List.length_erase_of_mem fresh]
      exact Nat.sub_one_lt_of_lt (List.length_pos_of_mem fresh)
    obtain ⟨given, front, behind, rfl, listed, apart, among, rfl⟩ := listed_of_readFields (distinct.erase _) hr
    have entry : Entry x ((blanks ++ '"' :: word) ++ (blanks' ++ ':' :: value)) :=
      ⟨_, blanks', value, rfl, ⟨blanks, '"' :: word, rfl, all, word, rfl, hw⟩, all', hx⟩
    have others : ∀ y ∈ given, y.key ≠ x.key ∧ y.key ∈ remaining := fun y hy =>
      distinct.mem_erase_iff.1 (among y hy)
    refine ⟨x :: given, _, behind, by simp, .more separator entry listed, ?_, ?_, rfl⟩
    · refine List.nodup_cons.2 ⟨fun again => ?_, apart⟩
      obtain ⟨y, hy, same⟩ := List.mem_map.1 again
      exact (others y hy).1 same
    · exact List.forall_mem_cons.2 ⟨fresh, fun y hy => (others y hy).2⟩
termination_by remaining.length

theorem readFields_of_listed {given : List Setting} {first : Bool} {front : List Char}
    (listed : Listed Entry '\x7d' first given front) (behind : List Char) : ∀ {remaining : List String} {s : Settings},
    remaining.Nodup → (given.map key).Nodup → (∀ x ∈ given, x.key ∈ remaining) →
      Settings.readFields remaining first s ((front ++ behind).map some) = .ok (putAll s given) := by
  induction listed with
  | done all =>
    intro remaining s _ _ _
    exact readFields_step.2 (.inl ⟨behind.map some, nextKey_eq_done_iff.2 ⟨_, behind, by simp, all, rfl⟩, rfl⟩)
  | @more first x given before part rest separator entry listed ih =>
    intro remaining s distinct apart among
    obtain ⟨_, blanks', value, rfl, ⟨blanks, _, rfl, all, word, rfl, hw⟩, all', hx⟩ := entry
    obtain ⟨fresh, among⟩ := List.forall_mem_cons.1 among
    obtain ⟨once, apart⟩ := List.nodup_cons.1 apart
    have others : ∀ y ∈ given, y.key ∈ remaining.erase x.key := fun y hy =>
      distinct.mem_erase_iff.2 ⟨fun same => once (List.mem_map.2 ⟨y, hy, same⟩), among y hy⟩
    refine readFields_step.2 (.inr ⟨(word ++ (blanks' ++ ':' :: (value ++ (rest ++ behind)))).map some, x.key,
      (blanks' ++ ':' :: (value ++ (rest ++ behind))).map some, (value ++ (rest ++ behind)).map some, put s x,
      (rest ++ behind).map some, ?_, ?_, x.key_mem_settingsFields, fresh, ?_, ?_, ?_⟩)
    · exact nextKey_eq_key_iff.2 ⟨before, blanks, _, by simp, separator, all, rfl⟩
    · exact (exact_scanString _ _ _).2 ⟨word, _, rfl, rfl, hw⟩
    · exact scanColon_eq_ok_iff.2 ⟨blanks', _, rfl, all', rfl⟩
    · exact (exact_readField _ _ _ _ _).2 ⟨value, _, rfl, rfl, x, rfl, rfl, hx⟩
    · exact ih (distinct.erase _) apart others

/-! ## Arrays -/

theorem readArrayEnd_eq_ok_iff {text : List Char} : Settings.readArrayEnd (text.map some) = .ok () ↔
    ∃ blanks behind, text = blanks ++ ']' :: behind ∧ Blanks blanks := by
  constructor
  · intro h
    unfold Settings.readArrayEnd at h
    split at h
    · cases h
    · rename_i rest skipped
      obtain ⟨blanks, behind, ht, all, -⟩ := exists_of_skipBlanks skipped
      exact ⟨blanks, behind, ht, all⟩
    · split at h <;> cases h
    · cases h
  · rintro ⟨blanks, behind, rfl, all⟩
    unfold Settings.readArrayEnd
    rw [skipBlanks_word all (by decide)]
    rfl

/-- The values of an array end, or a value comes with others behind it. -/
theorem readPositions_step {name : String} {others : List String} {index : Nat} {input : Source} :
    Settings.readPositions (name :: others) index s input = .ok s' ↔
      (∃ left, nextItem (index == 0) input = .ok (.done left) ∧ s = s') ∨
      ∃ left s₁ last, nextItem (index == 0) input = .ok (.item left) ∧ s.readField name left = .ok (s₁, last) ∧
        Settings.readPositions others (index + 1) s₁ last = .ok s' := by
  rw [Settings.readPositions, except_bind_eq_ok]
  simp only [except_mapError_eq_ok]
  constructor
  · rintro ⟨step, hn, h⟩
    cases step with
    | done left =>
      obtain rfl := Except.ok.inj h
      exact .inl ⟨left, hn, rfl⟩
    | item left =>
      simp only [except_bind_eq_ok, except_mapError_eq_ok] at h
      obtain ⟨⟨s₁, last⟩, hv, hr⟩ := h
      exact .inr ⟨left, s₁, last, hn, hv, hr⟩
  · rintro (⟨left, hn, rfl⟩ | ⟨left, s₁, last, hn, hv, hr⟩)
    · exact ⟨.done left, hn, rfl⟩
    · refine ⟨.item left, hn, ?_⟩
      simp only [except_bind_eq_ok, except_mapError_eq_ok]
      exact ⟨(s₁, last), hv, hr⟩

theorem readPositions_nil {index : Nat} {input : Source} :
    Settings.readPositions [] index s input = .ok s' ↔ Settings.readArrayEnd input = .ok () ∧ s = s' := by
  rw [Settings.readPositions, except_bind_eq_ok]
  simp only [except_mapError_eq_ok]
  constructor
  · rintro ⟨_, he, h⟩
    exact ⟨he, Except.ok.inj h⟩
  · rintro ⟨he, rfl⟩
    exact ⟨(), he, rfl⟩

theorem listed_of_readPositions : ∀ {names : List String} {index : Nat} {s : Settings} {text : List Char},
    Settings.readPositions names index s (text.map some) = .ok s' → ∃ given front behind, text = front ++ behind ∧
      Listed Written ']' (index == 0) given front ∧ given.map key <+: names ∧ s' = putAll s given
  | [], index, s, text, h => by
    obtain ⟨he, rfl⟩ := readPositions_nil.1 h
    obtain ⟨blanks, behind, rfl, all⟩ := readArrayEnd_eq_ok_iff.1 he
    exact ⟨[], blanks ++ [']'], behind, by simp, .done all, List.nil_prefix, rfl⟩
  | name :: others, index, s, text, h => by
    rcases readPositions_step.1 h with ⟨left, hd, rfl⟩ | ⟨left, s₁, last, hn, hv, hr⟩
    · obtain ⟨blanks, behind, rfl, all, -⟩ := nextItem_eq_done_iff.1 hd
      exact ⟨[], blanks ++ [']'], behind, by simp, .done all, List.nil_prefix, rfl⟩
    · obtain ⟨before, rest, rfl, separator, rfl, -, -⟩ := nextItem_eq_item_iff.1 hn
      rw [readField_skipBlanks] at hv
      obtain ⟨value, _, rfl, rfl, x, rfl, rfl, hx⟩ := (exact_readField _ _ _ _ _).1 hv
      obtain ⟨given, front, behind, rfl, listed, among, rfl⟩ := listed_of_readPositions hr
      exact ⟨x :: given, _, behind, by simp, .more separator hx listed, List.cons_prefix_cons.2 ⟨rfl, among⟩, rfl⟩

/-- A value begins with a letter or a quote. -/
theorem Written.exists_front {x : Setting} {text : List Char} (h : x.Written text) : ∃ blanks c rest,
    text = blanks ++ c :: rest ∧ Blanks blanks ∧ ¬IsBlank c ∧ c ≠ ']' := by
  have front : ∃ blanks word, text = blanks ++ word ∧ Blanks blanks ∧
      ∃ c rest, word = c :: rest ∧ c ∈ ['"', 'n', 't', 'f'] := by
    cases x with
    | space value | sourceRoot value =>
      obtain ⟨blanks, _, rfl, all, rest, rfl, -⟩ := h
      exact ⟨blanks, _, rfl, all, '"', rest, rfl, by decide⟩
    | rootClass value | dateTimeFormat value =>
      obtain ⟨blanks, word, rfl, all, hw⟩ := h
      cases value with
      | none => exact ⟨blanks, word, rfl, all, 'n', _, hw, by decide⟩
      | some value =>
        obtain ⟨rest, rfl, -⟩ := hw
        exact ⟨blanks, _, rfl, all, '"', rest, rfl, by decide⟩
    | typed value | getters value | constants value | exceptions value =>
      obtain ⟨blanks, word, rfl, all, hw⟩ := h
      cases value with
      | true => exact ⟨blanks, word, rfl, all, 't', _, hw, by decide⟩
      | false => exact ⟨blanks, word, rfl, all, 'f', _, hw, by decide⟩
  obtain ⟨blanks, _, rfl, all, c, rest, rfl, hc⟩ := front
  simp only [List.mem_cons, List.not_mem_nil, or_false] at hc
  refine ⟨blanks, c, rest, rfl, all, ?_⟩
  rcases hc with rfl | rfl | rfl | rfl
  all_goals exact ⟨by decide, by decide⟩

theorem readPositions_of_listed {given : List Setting} {first : Bool} {front : List Char}
    (listed : Listed Written ']' first given front) (behind : List Char) : ∀ {names : List String} {index : Nat}
    {s : Settings}, first = (index == 0) → given.map key <+: names →
      Settings.readPositions names index s ((front ++ behind).map some) = .ok (putAll s given) := by
  induction listed with
  | @done first blanks all =>
    rintro names index s rfl _
    cases names with
    | nil => exact readPositions_nil.2 ⟨readArrayEnd_eq_ok_iff.2 ⟨blanks, behind, by simp, all⟩, rfl⟩
    | cons name others =>
      exact readPositions_step.2 (.inl ⟨behind.map some, nextItem_eq_done_iff.2 ⟨blanks, behind, by simp, all, rfl⟩, rfl⟩)
  | @more first x given before part rest separator written listed ih =>
    rintro names index s rfl among
    obtain ⟨others, rfl, further⟩ := List.cons_prefix_iff.1 among
    obtain ⟨blanks, c, tail, ht, all, word, open'⟩ := written.exists_front
    have found : skipBlanks ((part ++ (rest ++ behind)).map some) = some c :: (tail ++ (rest ++ behind)).map some := by
      rw [ht, List.append_assoc, List.cons_append, skipBlanks_word all word]
    refine readPositions_step.2 (.inr ⟨skipBlanks ((part ++ (rest ++ behind)).map some), put s x,
      (rest ++ behind).map some, ?_, ?_, ih rfl further⟩)
    · refine nextItem_eq_item_iff.2 ⟨before, _, by simp, separator, rfl, ?_, fun after close => ?_⟩
      · rw [found]
        exact List.cons_ne_nil _ _
      · rw [found] at close
        exact open' (Option.some.inj (List.cons.inj close).1)
    · rw [readField_skipBlanks]
      exact (exact_readField _ _ _ _ _).2 ⟨part, _, rfl, rfl, x, rfl, rfl, written⟩

/-! ## What is replaced -/

/-- Whatever the order, what is given under different keys replaces just the settings of these keys. -/
theorem each_putAll {given : List Setting} (apart : (given.map key).Nodup) (s : Settings) :
    (putAll s given).each = s.each.map fun d => (given.find? (·.key == d.key)).getD d := by
  induction given generalizing s with
  | nil => exact (List.map_id' _).symm
  | cons x given ih =>
    obtain ⟨once, apart⟩ := List.nodup_cons.1 apart
    have last : given.find? (·.key == x.key) = none := by
      rw [List.find?_eq_none]
      exact fun y hy same => once (List.mem_map.2 ⟨y, hy, beq_iff_eq.1 same⟩)
    show (putAll (put s x) given).each = _
    rw [ih apart, each_put, List.map_map]
    apply List.map_congr_left
    intro d _
    rw [Function.comp, List.find?_cons]
    by_cases own : d.key = x.key
    · rw [if_pos own, last, beq_iff_eq.2 own.symm]
      rfl
    · rw [if_neg own, beq_eq_false_iff_ne.2 (Ne.symm own)]

end Setting

open Setting

/-- An object of settings: each key comes once. -/
def IsObjectOf (given : List Setting) (text : List Char) : Prop :=
  ∃ rest, text = '\x7b' :: rest ∧ Listed Entry '\x7d' true given rest ∧ (given.map key).Nodup

/-- An array of the values of settings, which come in the order of the fields. -/
def IsArrayOf (given : List Setting) (text : List Char) : Prop :=
  ∃ rest, text = '[' :: rest ∧ Listed Written ']' true given rest ∧ given.map key <+: settingsFields

theorem distinct_settingsFields : settingsFields.Nodup := by decide

theorem Settings.read_eq_ok_iff {text : List Char} {s : Settings} : Settings.read (text.map some) = .ok s ↔
    ∃ given blanks doc behind, text = blanks ++ doc ++ behind ∧ Blanks blanks ∧
      (IsObjectOf given doc ∨ IsArrayOf given doc) ∧ s = putAll {} given := by
  constructor
  · intro h
    unfold Settings.read at h
    split at h
    · cases h
    · rename_i left skipped
      obtain ⟨blanks, rest, rfl, all, rfl⟩ := exists_of_skipBlanks skipped
      obtain ⟨given, front, behind, rfl, listed, apart, -, rfl⟩ := listed_of_readFields distinct_settingsFields h
      exact ⟨given, blanks, _, behind, by simp, all, .inl ⟨front, rfl, listed, apart⟩, rfl⟩
    · rename_i left skipped
      obtain ⟨blanks, rest, rfl, all, rfl⟩ := exists_of_skipBlanks skipped
      obtain ⟨given, front, behind, rfl, listed, among, rfl⟩ := listed_of_readPositions h
      exact ⟨given, blanks, _, behind, by simp, all, .inr ⟨front, rfl, listed, among⟩, rfl⟩
    · cases h
    · cases h
  · rintro ⟨given, blanks, _, behind, rfl, all, ⟨front, rfl, listed, apart⟩ | ⟨front, rfl, listed, among⟩, rfl⟩
    · unfold Settings.read
      rw [List.append_assoc, List.cons_append, skipBlanks_word all (by decide)]
      exact readFields_of_listed listed behind distinct_settingsFields apart fun x _ => x.key_mem_settingsFields
    · unfold Settings.read
      rw [List.append_assoc, List.cons_append, skipBlanks_word all (by decide)]
      exact readPositions_of_listed listed behind rfl among

/-- A text holds settings if and only if an object or an array of them stands behind the blanks in its front. What comes
behind that is not looked at. -/
theorem Settings.ofText_eq_ok_iff (text : String) (s : Settings) : Settings.ofText text = .ok s ↔
    ∃ given blanks doc behind, text.toList = blanks ++ doc ++ behind ∧ Blanks blanks ∧
      (IsObjectOf given doc ∨ IsArrayOf given doc) ∧
      s.each = ({} : Settings).each.map fun d => (given.find? (·.key == d.key)).getD d := by
  rw [Settings.ofText, Settings.ofSource, except_mapError_eq_ok, Source.ofString, read_eq_ok_iff]
  refine exists_congr fun given => exists_congr fun blanks => exists_congr fun doc => exists_congr fun behind =>
    and_congr_right fun _ => and_congr_right fun _ => and_congr_right fun form => ?_
  have apart : (given.map key).Nodup := by
    rcases form with ⟨_, -, -, apart⟩ | ⟨_, -, -, among⟩
    · exact apart
    · exact distinct_settingsFields.sublist among.sublist
  rw [← each_putAll apart]
  exact ⟨congrArg Settings.each, each_inj⟩

end SchemaClasses
