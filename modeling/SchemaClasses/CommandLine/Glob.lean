/-
The files that match a pattern, folder by folder and in the order of their names.
-/
import SchemaClasses.CommandLine.Host
import SchemaClasses.CommandLine.Pattern

namespace SchemaClasses.CommandLine

/-- Why a pattern gives no files. -/
inductive GlobFault where
  | malformed (position : Nat) (fault : PatternFault)
  | unreadable (path : String) (fault : FileFault)
  deriving Repr, DecidableEq, Inhabited

/-- The wording of a fault. -/
def GlobFault.message : GlobFault → String
  | malformed position fault =>
    "Pattern syntax error near position " ++ toString position ++ ": " ++ fault.message
  | unreadable path fault =>
    "attempting to read `" ++ path ++ "` resulted in an error: " ++ fault.message

/-- A path that is being matched: whether it is a folder, and the parts of the pattern that are left
for it, the first of which is meant for its own name. When none is left, it matches. -/
structure Candidate where
  path : String
  isFolder : Bool
  remaining : List (List PatternItem)
  deriving Repr, Inhabited

/-- A path in a folder. The folder where the search begins is not written. -/
def within (folder name : String) : String :=
  if Path.same folder "." then name else Path.join folder name

/-- More steps than any search takes. -/
def searchLimit : Nat := 0x10000000000000000

variable {m : Type → Type} [Monad m]

/-- The candidates in a folder for the parts of a pattern, in the order in which they are looked at.
A part without wildcards is followed without looking around. -/
def candidates (host : Host m) (folder : String) (isFolder : Bool) :
    List (List PatternItem) → m (Except GlobFault (List Candidate))
  | [] => pure (.ok [⟨folder, isFolder, []⟩])
  | items :: rest => do
    if !isFolder then return .ok []
    match plainText items with
    | some name =>
      let name := String.ofList name
      let next := within folder name
      let special := name = "." || name = ".."
      if special || (← host.isThere next) then
        candidates host next (← host.isFolder next) rest
      else pure (.ok [])
    | none =>
      match ← host.list folder with
      | .error fault => pure (.error (.unreadable folder fault))
      | .ok names =>
        let sorted := names.mergeSort fun a b => a ≤ b
        let found ← sorted.mapM fun name => do
          let path := within folder name
          pure (⟨path, ← host.isFolder path, items :: rest⟩ : Candidate)
        let specials := if items.head? = some (.char '.') then ["..", "."] else []
        let matching := specials.filter fun name => matchesName items name.toList
        let further ← matching.mapM fun name => do
          let path := Path.join folder name
          candidates host path (← host.isFolder path) rest
        match further.mapM id with
        | .error fault => pure (.error fault)
        | .ok further => pure (.ok (further.flatten ++ found))

/-- Looks at candidates one by one; `folderOnly` asks for folders. -/
def search (host : Host m) (folderOnly : Bool) :
    Nat → List Candidate → m (Except GlobFault (List String))
  | 0, _ => pure (.ok [])
  | _ + 1, [] => pure (.ok [])
  | fuel + 1, c :: rest => do
    let deeper : Except GlobFault (List Candidate) ←
      if c.remaining.head?.any isAnyFolders && c.isFolder then
        candidates host c.path true ([.anyFolders] :: c.remaining.dropWhile isAnyFolders)
      else pure (.ok [])
    match deeper with
    | .error fault => pure (.error fault)
    | .ok deeper =>
      let emit (more : List Candidate) : m (Except GlobFault (List String)) := do
        let others ← search host folderOnly fuel more
        pure (others.map (c.path :: ·))
      match c.remaining, c.remaining.dropWhile isAnyFolders with
      | [], _ =>
        if folderOnly && !c.isFolder then search host folderOnly fuel rest else emit rest
      | _ :: _, [] => if c.isFolder then emit (deeper ++ rest) else search host folderOnly fuel rest
      | _ :: _, items :: others =>
        let matching := match Path.fileName? c.path with
          | some name => matchesName items name.toList
          | none => false
        if !matching then search host folderOnly fuel (deeper ++ rest)
        else if others.isEmpty then
          if folderOnly && !c.isFolder then search host folderOnly fuel (deeper ++ rest)
          else emit (deeper ++ rest)
        else
          match ← candidates host c.path c.isFolder others with
          | .error fault => pure (.error fault)
          | .ok below => search host folderOnly fuel (below ++ deeper ++ rest)

/-- The files that match a pattern. -/
def glob (host : Host m) (source : String) : m (Except GlobFault (List String)) := do
  let cs := source.toList
  let absolute := cs.head? = some '/'
  match pattern cs, (patternParts (cs.dropWhile (· == '/'))).mapM pattern with
  | .error (position, fault), _ => pure (.error (.malformed position fault))
  | _, .error (position, fault) => pure (.error (.malformed position fault))
  | .ok _, .ok parts =>
    let folderOnly := cs.getLast? = some '/'
    let start := if absolute then "/" else "."
    match ← candidates host start true parts with
    | .error fault => pure (.error fault)
    | .ok found => search host folderOnly searchLimit found

end SchemaClasses.CommandLine
