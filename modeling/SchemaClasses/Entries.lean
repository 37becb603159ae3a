/-
Named entries in the order in which their names first came. Putting an entry under a name that is
there already replaces the value and keeps the place.
-/
namespace SchemaClasses

/-- Pairs of a name and a value, each name once. -/
abbrev Entries (α : Type u) := List (String × α)

namespace Entries

variable {α : Type u}

/-- Puts a value under a name: in the place of the earlier entry, else at the end. -/
def put (entries : Entries α) (name : String) (value : α) : Entries α :=
  match entries with
  | [] => [(name, value)]
  | (n, v) :: rest => if n = name then (name, value) :: rest else (n, v) :: put rest name value

/-- The value under a name. -/
def at? (entries : Entries α) (name : String) : Option α := entries.lookup name

/-- Whether there is an entry under a name. -/
def hasName (entries : Entries α) (name : String) : Bool := (entries.at? name).isSome

/-- The names in order. -/
def names (entries : Entries α) : List String := entries.map Prod.fst

/-- The values in order. -/
def values (entries : Entries α) : List α := entries.map Prod.snd

/-- Changes the value under a name, if there is one. -/
def adjust (entries : Entries α) (name : String) (change : α → α) : Entries α :=
  entries.map fun entry => if entry.1 = name then (entry.1, change entry.2) else entry

/-- Whether two collections have the same entries, in whatever order. -/
def sameEntries [BEq α] (a b : Entries α) : Bool :=
  a.length == b.length && a.all fun entry =>
    match b.at? entry.1 with
    | some value => entry.2 == value
    | none => false

/-- Entries from pairs, later ones replacing earlier ones. -/
def ofPairs (pairs : List (String × α)) : Entries α :=
  pairs.foldl (fun entries pair => entries.put pair.1 pair.2) []

/-! ## Putting, seen through look-up -/

@[simp] theorem at?_nil (name : String) : at? ([] : Entries α) name = none := rfl

@[simp] theorem at?_cons (n : String) (v : α) (rest : Entries α) (name : String) :
    at? ((n, v) :: rest) name = if name = n then some v else at? rest name := by
  unfold at?
  rw [List.lookup_cons]
  by_cases h : name = n
  · simp [h]
  · have hb : (name == n) = false := by simp [h]
    simp [hb, h]

theorem at?_put (entries : Entries α) (name other : String) (value : α) :
    (entries.put name value).at? other = if other = name then some value else entries.at? other := by
  induction entries with
  | nil => simp [put]
  | cons entry rest ih =>
    obtain ⟨n, v⟩ := entry
    unfold put
    by_cases h : n = name
    · subst h
      by_cases hn : other = n <;> simp [hn]
    · by_cases hn : other = n
      · subst hn
        simp [h]
      · simp [h, hn, ih]

end Entries

end SchemaClasses
