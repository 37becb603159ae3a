/-
Single-quoted literals and how they read back. The quote that ends a literal is the first one that no backslash before
it takes; escaping doubles each backslash before it puts one in front of a quote, so that backslashes come in pairs and a
quote of the text never stands bare.
-/
import SchemaClasses.Proofs.Class.FittingPair
import SchemaClasses.Source.Render

namespace SchemaClasses

/-! ## Reading -/

/-- What stands before the quote that ends a literal, and what is left behind it. A backslash in front of another one or
of a quote gives that character, any other one stands for itself. -/
def readQuoted : List Char → Option (List Char × List Char)
  | [] => none
  | '\x27' :: rest => some ([], rest)
  | '\\' :: '\\' :: rest => (readQuoted rest).map fun (text, behind) => ('\\' :: text, behind)
  | '\\' :: '\x27' :: rest => (readQuoted rest).map fun (text, behind) => ('\x27' :: text, behind)
  | c :: rest => (readQuoted rest).map fun (text, behind) => (c :: text, behind)

/-- The text of the literal that a source text begins with, and the source behind it. -/
def readLiteral (source : String) : Option (String × String) :=
  match source.toList with
  | '\x27' :: rest => (readQuoted rest).map fun (text, behind) => (String.ofList text, String.ofList behind)
  | _ => none

/-! ## Escaping -/

/-- A text in which other characters stand in the place of each occurrence of one. -/
def replaceEach (old : Char) (new cs : List Char) : List Char := cs.flatMap fun c => if c = old then new else [c]

/-- First all backslashes are doubled, then each quote gets one in front of it. -/
def escapeQuoted (cs : List Char) : List Char :=
  replaceEach '\x27' ['\\', '\x27'] (replaceEach '\\' ['\\', '\\'] cs)

variable {c : Char} {cs behind : List Char}

theorem escapeQuoted_cons (c : Char) (cs : List Char) : escapeQuoted (c :: cs) =
    (if c = '\\' then ['\\', '\\'] else if c = '\x27' then ['\\', '\x27'] else [c]) ++ escapeQuoted cs := by
  unfold escapeQuoted replaceEach
  rw [List.flatMap_cons, List.flatMap_append]
  congr 1
  by_cases backslash : c = '\\'
  · rw [if_pos backslash, if_pos backslash]
    rfl
  · rw [if_neg backslash, if_neg backslash, List.flatMap_singleton]

/-- No character of the escaped text is part of the escaping of another one. -/
theorem escapeQuoted_eq_flatMap : ∀ cs : List Char, escapeQuoted cs = cs.flatMap fun c =>
    if c = '\\' then ['\\', '\\'] else if c = '\x27' then ['\\', '\x27'] else [c]
  | [] => rfl
  | c :: cs => by rw [escapeQuoted_cons, List.flatMap_cons, escapeQuoted_eq_flatMap cs]

theorem toList_singleQuoted (text : String) :
    (singleQuoted text).toList = '\x27' :: escapeQuoted text.toList ++ ['\x27'] := by
  rw [singleQuoted, String.toList_ofList, escapeQuoted_eq_flatMap]

theorem readQuoted_cons (quote : c ≠ '\x27') (backslash : c ≠ '\\') :
    readQuoted (c :: cs) = (readQuoted cs).map fun (text, behind) => (c :: text, behind) := by
  conv_lhs => unfold readQuoted
  split
  all_goals simp_all

/-- Escaped characters read back, and the reader stops at the bare quote behind them. -/
theorem readQuoted_escapeQuoted (behind : List Char) : ∀ cs : List Char,
    readQuoted (escapeQuoted cs ++ '\x27' :: behind) = some (cs, behind)
  | [] => rfl
  | c :: cs => by
    have ih := readQuoted_escapeQuoted behind cs
    rw [escapeQuoted_cons, List.append_assoc]
    by_cases backslash : c = '\\'
    · rw [if_pos backslash]
      show (readQuoted (escapeQuoted cs ++ '\x27' :: behind)).map _ = _
      rw [ih, backslash]
      rfl
    rw [if_neg backslash]
    by_cases quote : c = '\x27'
    · rw [if_pos quote]
      show (readQuoted (escapeQuoted cs ++ '\x27' :: behind)).map _ = _
      rw [ih, quote]
      rfl
    · rw [if_neg quote, List.singleton_append, readQuoted_cons quote backslash, ih]
      rfl

theorem readLiteral_singleQuoted (text behind : String) :
    readLiteral (singleQuoted text ++ behind) = some (text, behind) := by
  unfold readLiteral
  rw [String.toList_append, toList_singleQuoted, List.append_assoc]
  show (readQuoted (escapeQuoted text.toList ++ '\x27' :: behind.toList)).map _ = _
  rw [readQuoted_escapeQuoted]
  show some (String.ofList text.toList, String.ofList behind.toList) = _
  rw [String.ofList_toList, String.ofList_toList]

/-! ## Where literals stand -/

section Lines

variable (p : Property) (conversion : Conversion)

theorem exists_reading_eq : ∃ after, reading (p, conversion) = "    " ++ singleQuoted p.rawKey ++ " => $this->" ++ after := by
  unfold reading
  simp only
  split
  · exact ⟨p.name ++ "?->" ++ conversion.unwrap ++ "(),", by simp only [toString, String.append_assoc]⟩
  · exact ⟨p.name ++ "->" ++ conversion.unwrap ++ "(),", by simp only [toString, String.append_assoc]⟩

theorem exists_assignment_eq : ∃ before after,
    assignment (p, conversion) = before ++ "$data[" ++ singleQuoted p.rawKey ++ "]" ++ after := by
  unfold assignment
  simp only
  split
  · refine ⟨"$instance->" ++ p.name ++ " = isset(", ") ? " ++ plainHint p.typeHint ++ "::" ++ conversion.wrap ++
      "($data[" ++ singleQuoted p.rawKey ++ "]) : null;", ?_⟩
    have parted : "]) ? " = "]" ++ ") ? " := rfl
    have opened : " = isset($data[" = " = isset(" ++ "$data[" := rfl
    simp only [toString, String.append_assoc, parted, opened]
  · refine ⟨"$instance->" ++ p.name ++ " = " ++ plainHint p.typeHint ++ "::" ++ conversion.wrap ++ "(", ");", ?_⟩
    have parted : "]);" = "]" ++ ");" := rfl
    have opened : "($data[" = "(" ++ "$data[" := rfl
    simp only [toString, String.append_assoc, parted, opened]

end Lines

/-! ## Results -/

/-- A text is written as one and the same literal wherever it stands: as the value of a constant, be it a key, an
enumerated value or a format of dates, and as the key of a property in the two lines of the raw array form. Read from its
first quote, the literal gives the text back and leaves just what stands behind its last quote. -/
theorem readLiteral_written (text : String) :
    (singleQuoted text).toList = '\x27' :: escapeQuoted text.toList ++ ['\x27'] ∧
    (∀ behind, readLiteral (singleQuoted text ++ behind) = some (text, behind)) ∧
    (∀ name visibility, Source.constantLines ⟨name, .text text, visibility⟩ =
      [Source.indent ++ visibility.keyword ++ " const " ++ name ++ " = " ++ singleQuoted text ++ ";"]) ∧
    ∀ c m p line, p.rawKey = text → propertyLines c m p = .ok line →
      (∃ after, line.toArray = "    " ++ singleQuoted text ++ " => $this->" ++ after) ∧
      ∃ before after, line.fromArray = before ++ "$data[" ++ singleQuoted text ++ "]" ++ after := by
  refine ⟨toList_singleQuoted text, readLiteral_singleQuoted text, fun _ _ => rfl, fun c m p line key found => ?_⟩
  obtain ⟨conversion, assigns, reads⟩ := propertyLines_texts found
  rw [assigns, reads, ← key]
  exact ⟨exists_reading_eq p conversion, exists_assignment_eq p conversion⟩

/-- A property of the class `T` whose key holds a quote and ends with a backslash. -/
def quotedProperty : Property := { name := "its", sourceName := some "it's\\", typeHint := "?T" }

def quotedOwner : ClassModel := { ClassModel.entity "R" "App" with properties := [("its", quotedProperty)] }

def quotedClasses : Collection := Collection.add {} { ClassModel.valueObject .string true with name := "T", space := "App" }

/-- Neither the quote nor the backslash ends the key early, and the backslash does not take the quote behind it. -/
theorem readLiteral_written_key : ∃ line after, propertyLines quotedClasses quotedOwner quotedProperty = .ok line ∧
    line.toArray = "    'it\\'s\\\\' => $this->" ++ after ∧
    readLiteral ("'it\\'s\\\\'" ++ (" => $this->" ++ after)) = some ("it's\\", " => $this->" ++ after) := by
  obtain ⟨-, reads, -, lines⟩ := readLiteral_written "it's\\"
  have literal : singleQuoted "it's\\" = "'it\\'s\\\\'" := by decide +kernel
  obtain ⟨line, hl⟩ : ∃ line, propertyLines quotedClasses quotedOwner quotedProperty = .ok line := ⟨_, rfl⟩
  obtain ⟨⟨after, stands⟩, -⟩ := lines _ _ quotedProperty line rfl hl
  rw [literal] at stands
  refine ⟨line, after, hl, ?_, ?_⟩
  · rw [stands]
    rfl
  · rw [← literal]
    exact reads _

end SchemaClasses
