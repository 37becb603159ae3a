/-
A file system in memory: a tree of files and folders with a working folder in it, and what was
printed.
-/
import SchemaClasses.CommandLine.Host

namespace SchemaClasses.CommandLine

/-- The folder in which relative paths begin. -/
def workFolder : List String := ["tmp", "work"]

/-- A file in which nothing can be kept. -/
def nullFile : List String := ["dev", "null"]

/-- The folders that every tree has. -/
def usualFolders : List (List String) :=
  [["bin"], ["dev"], ["etc"], ["home"], ["lib"], ["opt"], ["proc"], ["root"], ["run"], ["sbin"],
    ["srv"], ["sys"], ["tmp"], ["usr"], ["var"], workFolder]

/-- Files with their texts, and folders, both by the names that lead to them from the root. -/
structure FileTree where
  files : List (List String × String) := [(nullFile, "")]
  folders : List (List String) := usualFolders
  deriving Repr, Inhabited

namespace FileTree

def isFolder (t : FileTree) (place : List String) : Bool := place.isEmpty || t.folders.contains place

def file? (t : FileTree) (place : List String) : Option String := t.files.lookup place

def isThere (t : FileTree) (place : List String) : Bool := t.isFolder place || (t.file? place).isSome

/-! ## Paths -/

/-- The number of bytes that a name may have. -/
def nameLimit : Nat := 255

/-- The number of bytes that a path may have. -/
def pathLimit : Nat := 4095

/-- A path taken apart: where it begins, the names in it, and whether it ends in a slash. -/
structure Route where
  start : List String
  names : List String
  endsInSlash : Bool
  deriving Repr, DecidableEq, Inhabited

/-- The route of a path. Repeated slashes do not count. -/
def route (path : String) : Except FileFault Route :=
  let cs := path.toList
  if cs.contains '\x00' then .error .nullInPath
  else if path = "" then .error .notFound
  else if pathLimit < path.utf8ByteSize then .error .nameTooLong
  else
    let names := ((Text.segments '/' cs).map String.ofList).filter (· != "")
    .ok ⟨if cs.head? = some '/' then [] else workFolder, names, cs.getLast? = some '/'⟩

/-- Where names lead from a place. The root has no folder above it but itself. -/
def follow (t : FileTree) (here : List String) : List String → Except FileFault (List String)
  | [] => .ok here
  | name :: rest =>
    if !t.isFolder here then .error .notDirectory
    else if name = ".." then t.follow here.dropLast rest
    else if name = "." then t.follow here rest
    else if nameLimit < name.utf8ByteSize then .error .nameTooLong
    else if t.isThere (here ++ [name]) then t.follow (here ++ [name]) rest
    else .error .notFound

/-- Where a path leads. -/
def find (t : FileTree) (path : String) : Except FileFault (List String) := do
  let r ← route path
  let place ← t.follow r.start r.names
  if r.endsInSlash && !t.isFolder place then .error .notDirectory else pure place

/-- What the last name of a path is there for. -/
inductive Target where
  /-- The path leads to a folder whatever there is: to the root, or by dots to one passed before. -/
  | passed
  /-- A name in a folder. -/
  | named (folder : List String) (name : String)

/-- The target of a route; all but its last name must be there. -/
def target (t : FileTree) (r : Route) : Except FileFault Target :=
  match r.names.getLast? with
  | none => .ok .passed
  | some name => do
    let folder ← t.follow r.start r.names.dropLast
    if !t.isFolder folder then .error .notDirectory
    else if name = "." || name = ".." then pure .passed
    else pure (.named folder name)

/-! ## Operations -/

/-- The text of a file. -/
def read (t : FileTree) (path : String) : Except FileFault String := do
  let place ← t.find path
  match t.file? place with
  | some text => pure text
  | none => .error .isDirectory

/-- Puts a text under a place. -/
def putText (files : List (List String × String)) (place : List String) (text : String) :
    List (List String × String) :=
  match files with
  | [] => [(place, text)]
  | (p, t) :: rest => if p = place then (p, text) :: rest else (p, t) :: putText rest place text

/-- Puts a text into a file. -/
def write (t : FileTree) (path text : String) : Except FileFault FileTree := do
  let r ← route path
  match ← t.target r with
  | .passed => .error .isDirectory
  | .named folder name =>
    let place := folder ++ [name]
    if r.endsInSlash then .error .isDirectory
    else if nameLimit < name.utf8ByteSize then .error .nameTooLong
    else if t.isFolder place then .error .isDirectory
    else if place = nullFile then pure t
    else pure { t with files := putText t.files place text }

/-- Makes a folder. -/
def makeFolder (t : FileTree) (path : String) : Except FileFault FileTree := do
  match ← t.target (← route path) with
  | .passed => .error .alreadyThere
  | .named folder name =>
    let place := folder ++ [name]
    if nameLimit < name.utf8ByteSize then .error .nameTooLong
    else if t.isThere place then .error .alreadyThere
    else pure { t with folders := t.folders ++ [place] }

/-- The names in a folder. -/
def list (t : FileTree) (path : String) : Except FileFault (List String) := do
  let place ← t.find path
  if !t.isFolder place then .error .notDirectory
  else
    let within (p : List String) : Option String :=
      if p.dropLast = place ∧ p ≠ [] then p.getLast? else none
    pure ((t.files.map Prod.fst ++ t.folders).filterMap within)

/-- The path of a place below the working folder, seen from there. -/
def workPath? (place : List String) : Option String :=
  if place.take workFolder.length = workFolder then
    some ("/".intercalate (place.drop workFolder.length))
  else none

/-- The files below the working folder that are new in a later tree or have another text there, in
the order of their paths. -/
def changes (before after : FileTree) : List (String × String) :=
  let changed := after.files.filter fun entry => before.file? entry.1 != some entry.2
  let shown := changed.filterMap fun entry => (workPath? entry.1).map fun path => (path, entry.2)
  shown.mergeSort fun a b => a.1 ≤ b.1

end FileTree

/-- A file tree and what was printed. -/
structure World where
  tree : FileTree := {}
  output : String := ""
  deriving Repr, Inhabited

namespace World

/-- Changes the tree, or leaves it as it is after a fault. -/
def update (change : FileTree → Except FileFault FileTree) : StateM World (Except FileFault Unit) :=
  fun w => match change w.tree with
    | .ok tree => (.ok (), { w with tree := tree })
    | .error fault => (.error fault, w)

/-- The operations of a file tree. -/
def host : Host (StateM World) where
  read path := do return (← get).tree.read path
  readBytes path := do return ((← get).tree.read path).map fun text => text.toUTF8.toList
  write path text := update fun tree => tree.write path text
  makeFolder path := update fun tree => tree.makeFolder path
  isFolder path := do
    let tree := (← get).tree
    return match tree.find path with
      | .ok place => tree.isFolder place
      | .error _ => false
  isThere path := do return ((← get).tree.find path).toBool
  list path := do return (← get).tree.list path
  say text := modify fun w => { w with output := w.output ++ text }
  remark _ := pure ()

/-- Puts a text into a file whose folders are made first. -/
def place (path text : String) : StateM World (Except FileFault Unit) := do
  match ← host.makeFoldersFor path with
  | .error fault => pure (.error fault)
  | .ok () => host.write path text

end World

end SchemaClasses.CommandLine
