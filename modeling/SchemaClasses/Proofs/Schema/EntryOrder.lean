/-
What the order of entries decides. Rearranged documents can both be lowered or neither, and their type
sets agree except at references with texts on cycles: what such a reference leads to depends on
which targets are in progress when it is first met, and that goes with the order.
-/
import SchemaClasses.Proofs.Schema.Agreement
import Mathlib

namespace SchemaClasses.Schema

open Lowering Json

variable {order : List String → List String → Prop} {root root' : Json} {table table' : Table}

/-! ## References of rearranged documents -/

theorem target_of_rearranged (h : Rearranged order root root') {target : String} {s' : Lowering TypeSet}
    (hs : targetLowering? root' target = some s') : ∃ pointer node node', Rearranged order node node' ∧
      targetLowering? root target = some (lowerNode node pointer (pointerName pointer)) ∧
      s' = lowerNode node' pointer (pointerName pointer) := by
  obtain ⟨pointer, node', hp, hn, rfl⟩ := targetLowering?_eq_some.1 hs
  have rel := h.select pointer
  rw [hn] at rel
  cases hn' : root.select? pointer with
  | none =>
    rw [hn'] at rel
    cases rel
  | some node =>
    rw [hn'] at rel
    cases rel with
    | some rel => exact ⟨pointer, node, node', rel, targetLowering?_eq_some.2 ⟨pointer, node, hp, hn', rfl⟩, rfl⟩

theorem target_none_of_rearranged (h : Rearranged order root root') {target : String}
    (hn : targetLowering? root target = none) : targetLowering? root' target = none := by
  cases hs : targetLowering? root' target with
  | none => rfl
  | some s' =>
    obtain ⟨_, _, _, -, hs, -⟩ := target_of_rearranged h hs
    rw [hn] at hs
    cases hs

/-- What a reference leads to in a rearranged document keeps to what it kept to before. -/
theorem keeps_of_rearranged {T : String → Prop} (h : Rearranged order root root') {target : String}
    {s s' : Lowering TypeSet} (hs : targetLowering? root target = some s)
    (hs' : targetLowering? root' target = some s') (hk : Keeps T (fun _ => False) s) :
    Keeps T (fun _ => False) s' := by
  obtain ⟨pointer, node, node', rel, found, rfl⟩ := target_of_rearranged h hs'
  rw [hs] at found
  cases found
  obtain ⟨set, yields⟩ := hk.exists_yields
  exact (steady_of_yields node yields rel pointer _).keeps

/-! ## Success -/

theorem parse_ok_of_rearranged {json json' : Json} (h : Rearranged order json json') {name : String}
    {set : TypeSet} (hok : (parse json name).1 = .ok set) : ∃ set', (parse json' name).1 = .ok set' := by
  obtain ⟨table, base, complete, yields, -⟩ := exists_table hok
  have top := steady_of_yields json (yields.mono fun _ _ ha => ha.2) h "" name
  -- the texts that the first resolution met are all that the second one can meet
  have closed : ∀ t, Known json table t → ∀ s', targetLowering? json' t = some s' →
      Keeps (Known json table) (fun _ => False) s' := by
    intro t ht s' hs'
    obtain ⟨_, _, _, -, hs, -⟩ := target_of_rearranged h hs'
    exact keeps_of_rearranged h hs hs' (complete.closed t ht _ hs)
  obtain ⟨st, outcome, run, hp⟩ := carries_of_parse json' name
  rw [hp]
  cases outcome with
  | error e => exact absurd (run.fault_mem closed top.keeps rfl) id
  | ok base' => exact ⟨_, rfl⟩

/-! ## Cycles -/

/-- An edge from a known reference is one of the rearranged document too. -/
theorem edge_of_rearranged (h : Rearranged order root root') (complete : Complete root' table')
    {target next : String} (ht : Known root' table' target) (he : Edge root' target next) :
    Edge root target next ∧ Known root' table' next := by
  obtain ⟨s', hs', hm⟩ := he
  obtain ⟨pointer, node, _, -, hs, -⟩ := target_of_rearranged h hs'
  have keeps' := complete.closed target ht s' hs'
  have keeps := keeps_of_rearranged h.symm hs' hs keeps'
  -- without faults, the lowering in `root` asks for all it meets, and so for no less than `s'`
  have asks := ((targetLowering?_steady hs).keeps_targets.and keeps).mono (fun _ ha => ha.1) fun _ he => he.2
  exact ⟨⟨_, hs, (keeps_of_rearranged h hs hs' asks).mem_targets next hm⟩, keeps'.mem_targets next hm⟩

theorem onCycle_of_rearranged (h : Rearranged order root root') (complete : Complete root' table')
    {target : String} (ht : Known root' table' target) (hc : OnCycle root' target) : OnCycle root target := by
  -- the texts on the way stay known, which is what the next edge needs
  have way : ∀ {next}, Path root' target next → Path root target next ∧ Known root' table' next := by
    intro next hp
    induction hp with
    | single he =>
      obtain ⟨he, hk⟩ := edge_of_rearranged h complete ht he
      exact ⟨.single he, hk⟩
    | tail _ he ih =>
      obtain ⟨hp, hk⟩ := ih
      obtain ⟨he, hk⟩ := edge_of_rearranged h complete hk he
      exact ⟨.tail hp he, hk⟩
  exact (way hc).1

/-! ## Agreement -/

/-- The answers to a reference agree, whichever tables they were taken from. -/
theorem answers_agree (h : Rearranged order root root') (complete : Complete root' table')
    {below below' : Table} (sound : Sound root below) (sound' : Sound root' below') {target : String}
    {answer answer' : Option TypeSet} (known : Known root' table' target) (ha : Answer root below target answer)
    (ha' : Answer root' below' target answer') : AnswersAgree order (OnCycle root) target answer answer' := by
  -- that there is no answer needs an excuse, in either document
  have nothing : answer = none → Excused root target := by
    rintro rfl
    rcases ha with hl | ⟨-, he⟩
    · exact .inl (sound.missing hl)
    · exact he
  have nothing' : answer' = none → Excused root' target := by
    rintro rfl
    rcases ha' with hl | ⟨-, he⟩
    · exact .inl (sound'.missing hl)
    · exact he
  cases answer with
  | none =>
    cases answer' with
    | none => trivial
    | some set' =>
      rcases ha' with hl' | ⟨⟨⟩, -⟩
      obtain ⟨_, _, -, -, hs', -⟩ := sound'.exists_below hl'
      -- what leads somewhere in one document does so in the other, so the excuse is a cycle
      rcases nothing rfl with hn | hc
      · rw [target_none_of_rearranged h hn] at hs'
        cases hs'
      · exact hc
  | some set =>
    cases answer' with
    | none =>
      rcases ha with hl | ⟨⟨⟩, -⟩
      obtain ⟨_, _, -, -, hs, -⟩ := sound.exists_below hl
      rcases nothing' rfl with hn | hc
      · rw [target_none_of_rearranged h.symm hn] at hs
        cases hs
      · exact onCycle_of_rearranged h complete known hc
    | some set' =>
      rcases ha with hl | ⟨⟨⟩, -⟩
      rcases ha' with hl' | ⟨⟨⟩, -⟩
      -- both were made with answers of shorter tables, for which the agreement is known
      obtain ⟨below, s, shorter, sound, hs, yields⟩ := sound.exists_below hl
      obtain ⟨below', s', -, sound', hs', yields'⟩ := sound'.exists_below hl'
      have yields' := yields'.and_keeps (complete.closed target known s' hs')
      obtain ⟨pointer, node, node', rel, found, rfl⟩ := target_of_rearranged h hs'
      rw [hs] at found
      cases found
      exact agrees_of_yields (fun t answer answer' ha ha' =>
        answers_agree h complete sound sound' ha'.2 ha ha'.1) node rel yields yields'
termination_by below.length

/-- Of two documents that differ in the order of entries both can be lowered or neither, and their type
sets agree up to that order, save that a reference whose text lies on a cycle may be resolved in one of
them only. -/
theorem parse_rearranged (order : List String → List String → Prop) (json json' : Json) (name : String)
    (h : Rearranged order json json') :
    ((∃ set, (parse json name).1 = .ok set) ↔ ∃ set', (parse json' name).1 = .ok set') ∧
      ∀ set set', (parse json name).1 = .ok set → (parse json' name).1 = .ok set' →
        TypeSet.Agrees order (OnCycle json) set set' := by
  refine ⟨⟨fun ⟨_, hok⟩ => parse_ok_of_rearranged h hok, fun ⟨_, hok⟩ => parse_ok_of_rearranged h.symm hok⟩, ?_⟩
  intro set set' hok hok'
  obtain ⟨table, base, complete, yields, rfl⟩ := exists_table hok
  obtain ⟨table', base', complete', yields', rfl⟩ := exists_table hok'
  refine agrees_setRequired (agrees_of_yields (fun t answer answer' ha ha' => ?_) json h yields yields')
  exact answers_agree h complete' complete.sound complete'.sound ha'.2 ha.1 ha'.1

/-- A reference schema. -/
def refTo (target : String) : Json := .object [("$ref", .string target)]

/-- Two definitions, each with one property that leads to the other, and two properties that lead to
them, in a given order. -/
def circles (properties : Node) : Json := .object
  [("properties", .object properties),
    ("definitions", .object
      [("a", .object [("properties", .object [("p", refTo "#/definitions/b")])]),
        ("b", .object [("properties", .object [("q", refTo "#/definitions/a")])])])]

def aFirst : Node := [("x", refTo "#/definitions/a"), ("y", refTo "#/definitions/b")]

def bFirst : Node := [("y", refTo "#/definitions/b"), ("x", refTo "#/definitions/a")]

theorem rearranged_circles : Rearranged List.Perm (circles aFirst) (circles bFirst) := by
  have properties : Rearranged List.Perm (.object aFirst) (.object bFirst) :=
    .permute (by decide) (.swap _ _ _) (.swap _ _ _)
  exact .values (by decide) (.cons ⟨rfl, properties⟩ (.cons ⟨rfl, .refl _ (by decide)⟩ .nil))

/-- An object with these properties, and with one reference in each. -/
def record (name : String) (properties : List (String × String × Option TypeSet)) : TypeSet :=
  ⟨.object { name := name } (properties.map fun (key, target, resolved) =>
    (key, ⟨.reference { name := key } target resolved, []⟩)), []⟩

def aCut : TypeSet := record "a" [("p", "#/definitions/b", none)]

def bCut : TypeSet := record "b" [("q", "#/definitions/a", none)]

def aFirstRoot : TypeSet := (record "root" [("x", "#/definitions/a", some (record "a"
  [("p", "#/definitions/b", some bCut)])), ("y", "#/definitions/b", some bCut)]).map (TypeDef.setRequired true)

def bFirstRoot : TypeSet := (record "root" [("y", "#/definitions/b", some (record "b"
  [("q", "#/definitions/a", some aCut)])), ("x", "#/definitions/a", some aCut)]).map (TypeDef.setRequired true)

theorem parse_aFirst : (parse (circles aFirst) "root").1 = .ok aFirstRoot := by cbv

theorem parse_bFirst : (parse (circles bFirst) "root").1 = .ok bFirstRoot := by cbv

theorem parse_rearranged_circles : Rearranged List.Perm (circles aFirst) (circles bFirst) ∧
    TypeSet.Agrees List.Perm (OnCycle (circles aFirst)) aFirstRoot bFirstRoot :=
  ⟨rearranged_circles,
    (parse_rearranged List.Perm (circles aFirst) (circles bFirst) "root" rearranged_circles).2 _ _
      parse_aFirst parse_bFirst⟩

/-- The type sets of rearranged documents need not agree at references on cycles. -/
theorem not_parse_agrees : ¬ ∀ (order : List String → List String → Prop) (json json' : Json) (name : String),
    Rearranged order json json' →
      ((∃ set, (parse json name).1 = .ok set) ↔ ∃ set', (parse json' name).1 = .ok set') ∧
        ∀ set set', (parse json name).1 = .ok set → (parse json' name).1 = .ok set' →
          TypeSet.Agrees order (fun _ => False) set set' := by
  intro all
  have roots := (all List.Perm _ _ "root" rearranged_circles).2 _ _ parse_aFirst parse_bFirst
  have as := (roots.property (List.mem_cons_self ..) (List.mem_cons_of_mem _ (List.mem_singleton_self _))).target
  exact (as.property (List.mem_singleton_self _) (List.mem_singleton_self _)).loose_of_first

end SchemaClasses.Schema
