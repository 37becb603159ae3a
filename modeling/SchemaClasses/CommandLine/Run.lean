/-
Carrying out commands: settings and schemas are read, classes are generated, and source files or the
class model are written. What is written before a fault stays.
-/
import SchemaClasses.Class.Document
import SchemaClasses.CommandLine.Arguments
import SchemaClasses.CommandLine.Glob
import SchemaClasses.Generator
import SchemaClasses.Json.Pointer
import SchemaClasses.Json.Reader
import SchemaClasses.Json.Text
import SchemaClasses.Query.Run
import SchemaClasses.Settings.Reader

namespace SchemaClasses.CommandLine

/-! ## Faults -/

/-- Why a command stopped. -/
inductive CommandFault where
  | settings (path : String) (error : GenerateError)
  | unresolved (fault : GlobFault)
  | noMatch (pattern : String)
  | unreadable (path : String) (fault : FileFault)
  | malformed (path : String) (fault : Json.SyntaxFault)
  | nothingSelected (path pointer : String)
  | query (path : String) (fault : Query.QueryFault)
  | generation (rootName : String) (error : GenerateError)
  /-- A source file could not be read for its own members, or could not be written. -/
  | source (error : GenerateError)
  /-- The folder of the class model could not be made. -/
  | folder (fault : FileFault)
  | unwritable (path : String) (fault : FileFault)
  deriving Repr, Inhabited

/-- The wording of a fault: what was tried, and behind it why that failed. -/
def CommandFault.message : CommandFault → String
  | settings path error => "failed to load " ++ path ++ ": " ++ error.chain
  | unresolved fault => "failed to resolve input file paths: " ++ fault.message
  | noMatch pattern =>
    "failed to resolve input file paths: glob pattern matched no files: " ++ pattern
  | unreadable path fault => "failed to read " ++ path ++ ": " ++ fault.message
  | malformed path fault => "failed to parse JSON source file (" ++ path ++ "): " ++ fault.message
  | nothingSelected path pointer =>
    "in " ++ path ++ ": JSON pointer " ++ pointer ++ " selects nothing"
  | query path _ => "failed to apply jq expression to source file (" ++ path ++ ")"
  | generation rootName error =>
    "failed to generate classes for " ++ rootName ++ ": " ++ error.chain
  | source error => error.chain
  | folder fault => fault.message
  | unwritable path fault => "failed to write " ++ path ++ ": " ++ fault.message

/-! ## Settings -/

/-- Settings with what is given as options on top. Flags only ever switch one way. -/
def SettingsChoice.over (choice : SettingsChoice) (s : Settings) : Settings where
  space := choice.space.getD s.space
  rootClass := choice.rootClass.or s.rootClass
  sourceRoot := choice.sourceRoot.getD s.sourceRoot
  typed := s.typed && !choice.untyped
  getters := s.getters && !choice.noGetters
  constants := s.constants || choice.constants
  exceptions := s.exceptions && !choice.noExceptions
  dateTimeFormat := choice.dateTimeFormat.or s.dateTimeFormat

/-- Settings with their source root below an output folder, if there is one. -/
def placeBelow (out : Option String) (s : Settings) : Settings :=
  { s with sourceRoot := out.elim s.sourceRoot fun folder => Path.join folder s.sourceRoot }

/-! ## Schemas -/

/-- A schema document and the name of its top-level type. -/
abbrev NamedSchema := Json × String

/-- The name that the top-level type of a file gets when none is chosen. -/
def rootNameOf (path : String) : String := (Path.stem? path).getD "root"

/-- Whether an input is a pattern. -/
def isPattern (input : String) : Bool :=
  input.toList.any fun c => c == '*' || c == '?' || c == '[' || c == '\x7b'

/-- The documents that the text of a file is chosen to give. -/
def InputChoice.documents (choice : InputChoice) (path text : String) :
    Except CommandFault (List Json) := do
  let document ← (Json.ofText text).mapError (.malformed path)
  let chosen ← match choice.pointer with
    | none => pure document
    | some pointer =>
      match document.choose? pointer with
      | some value => pure value
      | none => .error (.nothingSelected path pointer)
  match choice.query with
  | none => pure [chosen]
  | some query => (Query.run query chosen).mapError (.query path)

variable {m : Type → Type} [Monad m]

/-- An operation of a host, with its faults taken as those of a command. -/
def attempt {ε α : Type} (wrap : ε → CommandFault) (action : m (Except ε α)) :
    ExceptT CommandFault m α :=
  (ExceptT.mk action).adapt wrap

/-- The files that an input stands for. -/
def filesOf (host : Host m) (input : String) : ExceptT CommandFault m (List String) := do
  if isPattern input then
    match ← attempt .unresolved (glob host input) with
    | [] => throw (.noMatch input)
    | paths => pure paths
  else pure [input]

/-- The schemas that are chosen. All inputs are looked up before the first file is read. -/
def loadSchemas (host : Host m) (choice : InputChoice) (rootClass : Option String) :
    ExceptT CommandFault m (List NamedSchema) := do
  let paths := (← choice.inputs.mapM (filesOf host)).flatten
  let schemas ← paths.mapM fun path => do
    let text ← attempt (.unreadable path) (host.read path)
    let documents ← attempt id (pure (choice.documents path text))
    pure (documents.map fun document => (document, rootClass.getD (rootNameOf path)))
  pure schemas.flatten

/-- The settings that are chosen. -/
def loadSettings (host : Host m) (choice : SettingsChoice) : ExceptT CommandFault m Settings := do
  match choice.config with
  | none => pure (choice.over {})
  | some path =>
    let bytes ← attempt (.settings path ∘ .file) (host.readBytes path)
    let s ← attempt (.settings path) (pure (Settings.ofSource (some path) (Text.Source.ofBytes bytes)))
    pure (choice.over s)

/-! ## Classes -/

/-- The least severe level that is told of at a verbosity. -/
def leastLevel (verbose : Nat) : Level :=
  if verbose = 0 then .warn else if verbose = 1 then .info else .debug

/-- The classes of schemas; what is severe enough is remarked. -/
def generateClasses (host : Host m) (verbose : Nat) (g : Generator) (schemas : List NamedSchema) :
    ExceptT CommandFault m Collection := do
  let (result, events) := g.generateAll schemas
  (events.filter (·.reaches (leastLevel verbose))).forM fun event => host.remark event.message
  attempt (fun (rootName, e) => .generation rootName e) (pure result)

/-- What the source files of classes hold so far, by path. -/
def readExisting (host : Host m) (layout : SourceLayout) (c : Collection) :
    m (List (String × Except FileFault String)) :=
  c.toList.mapM fun model => do
    let path := layout.pathOf model
    pure (path, ← host.read path)

/-- The members written by hand in a file as it was read. A file that is not there has none. -/
def membersOfFile : Option (Except FileFault String) → Except GenerateError (List Member)
  | some (.ok text) => .ok (Member.ofSource text)
  | none | some (.error .notFound) => .ok []
  | some (.error fault) => .error (.file fault)

/-- The source files of classes, with the members written by hand when these are to be kept. -/
def renderFiles (host : Host m) (preserve : Bool) (g : Generator) (c : Collection) :
    ExceptT CommandFault m Source.Files := do
  let found ← (if preserve then readExisting host g.layout c else pure [] : m _)
  let existing (_ : ClassModel) (path : String) := membersOfFile (found.lookup path)
  attempt .source (pure (g.render existing c))

/-! ## Commands -/

/-- Writes source files, or prints them when there is no output folder. -/
def putFiles (host : Host m) (toFolder : Bool) (files : Source.Files) :
    ExceptT CommandFault m Unit := do
  if toFolder then
    files.forM fun (path, text) => do
      attempt (.source ∘ .file) (host.makeFoldersFor path)
      attempt (.source ∘ .file) (host.write path text)
    files.forM fun (path, _) => host.remark ("wrote " ++ path)
  else
    files.forM fun (path, text) => host.say ("// " ++ path ++ "\n" ++ text ++ "\n")

/-- The class model as a text. -/
def modelText (c : Collection) : String :=
  (Json.object (c.classes.map fun entry => (entry.1, entry.2.toJson))).pretty

/-- Writes the class model, or prints it when there is no output file. -/
def putModel (host : Host m) (out : Option String) (c : Collection) :
    ExceptT CommandFault m Unit := do
  match out with
  | none => host.say (modelText c ++ "\n")
  | some path =>
    attempt .folder (host.makeFoldersFor path)
    attempt (.unwritable path) (host.write path (modelText c))
    host.remark ("wrote " ++ path)

/-- Carries out a command. -/
def Command.run (host : Host m) (verbose : Nat) : Command → ExceptT CommandFault m Unit
  | .generate input choice out preserve noOp => do
    if noOp then host.remark "nothing done"
    else
      let settings := placeBelow out (← loadSettings host choice)
      let schemas ← loadSchemas host input settings.rootClass
      let g : Generator := { settings := settings }
      let c ← generateClasses host verbose g schemas
      let files ← renderFiles host preserve g c
      putFiles host out.isSome files
  | .inspect input choice out => do
    let settings ← loadSettings host choice
    let schemas ← loadSchemas host input settings.rootClass
    let c ← generateClasses host verbose { settings := settings } schemas
    putModel host out c

/-- Carries out what a command line says. -/
def Invocation.run (host : Host m) (i : Invocation) : m (Except CommandFault Unit) :=
  (i.command.run host i.verbose).run

end SchemaClasses.CommandLine
