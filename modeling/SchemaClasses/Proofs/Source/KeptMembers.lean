/-
What a new file keeps of the old one. A member that was read from a file is written into the new one unless the class
declares a member with its name. The reader keeps only names, so that it does not matter which kind of member has
the name: a method written by hand gives way to a property. What is kept keeps its lines, but for the empty ones at its
end.
-/
import SchemaClasses.Proofs.Source.CustomLines

namespace SchemaClasses

open Text

/-- The kinds of members. In the language of the files each kind has names of its own. -/
inductive MemberKind where
  | method
  | property
  | constant
  deriving DecidableEq, Repr

def MemberKind.all : List MemberKind := [.method, .property, .constant]

/-- Whether a class declares a member of a kind. -/
def ClassModel.has (c : ClassModel) : MemberKind → String → Bool
  | .method => c.hasMethod
  | .property => c.hasProperty
  | .constant => c.hasConstant

namespace Member

variable {line : String} {xs ys : List String}

/-! ## Kinds of members -/

/-- What a line declares, if a member begins on it: the kind of the member and its name. -/
def declared? (line : String) : Option (MemberKind × String) :=
  match behindModifier? (line.toList.dropWhile isBlank) with
  | none => none
  | some rest =>
    let cs := behindModifiers rest.length rest
    (((functionName? cs).map (.method, ·)).or ((constantName? cs).map (.constant, ·))).or
      ((propertyName? cs).map (.property, ·))

/-- The reader forgets kinds. -/
theorem map_snd_declared? (line : String) : (declared? line).map Prod.snd = declaredName? line := by
  have forget (kind : MemberKind) (name : Option String) : (name.map (kind, ·)).map Prod.snd = name := by
    rw [Option.map_map]
    exact Option.map_id_apply
  unfold declared? declaredName?
  cases behindModifier? (line.toList.dropWhile isBlank) with
  | none => rfl
  | some rest => simp only [Option.map_or, forget]

/-- What a member that was read declares; the first of its lines that declares anything tells it. -/
def Block.declared? (b : Block) : Option (MemberKind × String) := b.lines.findSome? Member.declared?

theorem Block.map_snd_declared? (b : Block) : b.declared?.map Prod.snd = b.lines.findSome? declaredName? := by
  rw [Block.declared?, List.map_findSome?]
  exact congrArg (b.lines.findSome? ·) (funext Member.map_snd_declared?)

namespace Reading

variable {r r' : Reading}

/-- Lines that wait declare nothing, and members have the names that their lines declare. -/
structure Named (r : Reading) : Prop where
  waiting : r.waiting.findSome? declaredName? = none
  blocks : ∀ b ∈ r.blocks, b.name = (b.lines.findSome? declaredName?).getD ""

theorem findSome?_declaredName?_append (nothing : ys.findSome? declaredName? = none) :
    (xs ++ ys).findSome? declaredName? = xs.findSome? declaredName? := by
  rw [List.findSome?_append, nothing, Option.or_none]

theorem findSome?_declaredName?_singleton (nothing : declaredName? line = none) :
    [line].findSome? declaredName? = none := by
  rw [List.findSome?_singleton, nothing]

/-- Lines that declare nothing leave a member its name. -/
theorem Named.extended {before : List Block} {last : Block} {waiting waiting' more : List String} {inside inside' : Bool}
    (named : Named ⟨before ++ [last], waiting, inside⟩) (nothing : more.findSome? declaredName? = none)
    (waits : waiting'.findSome? declaredName? = none) :
    Named ⟨before ++ [⟨last.name, last.lines ++ more⟩], waiting', inside'⟩ := by
  obtain ⟨others, this⟩ := List.forall_mem_append.1 named.blocks
  refine ⟨waits, List.forall_mem_append.2 ⟨others, List.forall_mem_singleton.2 ?_⟩⟩
  rw [findSome?_declaredName?_append nothing]
  exact this last List.mem_cons_self

theorem Named.reads (named : r.Named) (h : Reads line r r') : r'.Named := by
  cases h with
  | opens | passes => exact ⟨named.waiting, named.blocks⟩
  | ends => exact ⟨rfl, named.blocks⟩
  | settles => exact named.extended named.waiting rfl
  | follows _ nothing => exact named.extended (findSome?_declaredName?_singleton nothing) named.waiting
  | gathers =>
    refine ⟨rfl, List.forall_mem_singleton.2 ?_⟩
    rw [named.waiting]
    rfl
  | declares _ declares =>
    refine ⟨rfl, List.forall_mem_append.2 ⟨named.blocks, List.forall_mem_singleton.2 ?_⟩⟩
    rw [List.findSome?_append, named.waiting, List.findSome?_singleton, declares]
    rfl
  | waits _ nothing | leads _ nothing =>
    refine ⟨?_, named.blocks⟩
    rw [findSome?_declaredName?_append (findSome?_declaredName?_singleton nothing), named.waiting]

end Reading

/-- A member is read under the name that one of its lines declares, and without a name if none does. -/
theorem name_of_mem_readBlocks {source : String} {b : Block} (h : b ∈ readBlocks source) :
    b.name = (b.declared?.map Prod.snd).getD "" := by
  have named : ((lines source).foldl Reading.step {}).Named :=
    Reading.foldl_induction (fun reads named => named.reads reads) _ ⟨rfl, nofun⟩
  rw [b.map_snd_declared?]
  exact named.blocks b h

/-- The lines of a member as it is written. -/
def Block.written (b : Block) : List String := withoutEmptyEnd b.lines

end Member

namespace Source

open Member

variable {c : ClassModel} {source : String}

/-! ## Regeneration -/

/-- The members of the old file that the new file of a class keeps: those whose names it does not declare, whatever
kind of member they are. -/
def keptOf (c : ClassModel) (source : String) : List Block :=
  (readBlocks source).filter fun b => MemberKind.all.all fun kind => !c.has kind b.name

/-- Members between markers; no markers are written if there are no members. -/
def region (bs : List Block) : List String :=
  if bs = [] then [] else (indent ++ customStart) :: bs.flatMap Block.written ++ [indent ++ customEnd]

theorem declares_eq_any (c : ClassModel) (name : String) :
    declares c name = MemberKind.all.any fun kind => c.has kind name := by
  simp [declares, MemberKind.all, ClassModel.has, Bool.or_assoc]

theorem keptMembers_ofSource (c : ClassModel) (source : String) :
    keptMembers c (ofSource source) = (keptOf c source).map Block.toMember := by
  have read : ofSource source = (readBlocks source).map Block.toMember := rfl
  rw [keptMembers, read, List.filter_map, keptOf]
  refine congrArg (List.map Block.toMember) (List.filter_congr fun b _ => ?_)
  simp [declares_eq_any, Block.toMember, List.all_eq_not_any_not]

/-- Members are written line by line, without the empty lines at their ends. -/
theorem endedLines_sources : ∀ {bs : List Block}, (∀ b ∈ bs, ∀ line ∈ b.lines, '\n' ∉ line.toList) →
    endedLines ((bs.map Block.toMember).map fun m => dropLineFeeds m.source) = endedLines (bs.flatMap Block.written)
  | [], _ => rfl
  | b :: bs, apart => by
    obtain ⟨first, others⟩ := List.forall_mem_cons.1 apart
    have this : endedLines [dropLineFeeds b.toMember.source] = endedLines b.written := endedLines_dropLineFeeds first
    rw [List.map_cons, List.map_cons, List.flatMap_cons, endedLines_append, ← this, ← endedLines_sources others,
      ← endedLines_append, List.singleton_append]

theorem endedLines_customLines {bs : List Block} (apart : ∀ b ∈ bs, ∀ line ∈ b.lines, '\n' ∉ line.toList) :
    endedLines (customLines (bs.map Block.toMember)) = endedLines (region bs) := by
  by_cases none : bs = []
  · rw [none]
    rfl
  · have filled : (bs.map Block.toMember).isEmpty = false := by simpa using none
    rw [customLines, region, filled, if_neg (by decide), if_neg none, endedLines_append, endedLines_append,
      endedLines_sources apart, ← endedLines_append, ← endedLines_append]
    rfl

/-- Regeneration leaves out members whose names are declared and nothing else: the members that are read from a file
have the names that their lines declare, and the new file has what the class says, behind it each of them that has no
name that the class declares, in their order and with all lines but the empty ones at the end, and nothing else. -/
theorem renderClass_ofSource (c : ClassModel) (source : String) :
    (∀ b ∈ readBlocks source, b.name = (b.declared?.map Prod.snd).getD "") ∧
    renderClass c (ofSource source) = endedLines (generatedLines c ++ region (keptOf c source) ++ ["\x7d"]) := by
  have apart : ∀ b ∈ keptOf c source, ∀ line ∈ b.lines, '\n' ∉ line.toList := fun b hb =>
    lineFeed_not_mem_readBlocks b (List.mem_of_mem_filter hb)
  refine ⟨fun b => name_of_mem_readBlocks, ?_⟩
  rw [renderClass_eq, keptMembers_ofSource, endedLines_append, endedLines_append, endedLines_customLines apart,
    endedLines_append, endedLines_append]

/-! ## Names of each kind apart -/

/-- What regeneration would do if kinds were told apart and no line was dropped: a member is left out only if the class
declares one of its kind with its name, and any other one is in the new file with all its lines. -/
def KeepsByKind (c : ClassModel) (source : String) : Prop :=
  ∀ b ∈ readBlocks source, (b.declared?.any fun d => c.has d.1 d.2) = false →
    b.lines <:+: lines (renderClass c (ofSource source))

instance : Decidable (KeepsByKind c source) := inferInstanceAs (Decidable (∀ _ ∈ _, _))

/-- A method that tells the number of an order. -/
def accessorFile : String :=
  endedLines ["final class Order", "\x7b", "    // @custom-start", "    public function number() : int", "    \x7b",
    "        return 7;", "    \x7d", "    // @custom-end", "\x7d"]

/-- A constant with an empty line behind it. -/
def limitFile : String :=
  endedLines ["final class Order", "\x7b", "    // @custom-start", "    private const LIMIT = 10;", "",
    "    // @custom-end", "\x7d"]

/-- The method is left out although the order has no method, only a property of that name, and the empty line behind
the constant is dropped. -/
theorem not_keepsByKind_order : ¬ KeepsByKind order accessorFile ∧ ¬ KeepsByKind order limitFile :=
  ⟨by decide +kernel, by decide +kernel⟩

end Source

end SchemaClasses
