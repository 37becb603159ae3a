/-
The words of a command line: options, flags and the two commands. Each command takes its own options;
`--verbose` and `--help` belong to all of them.
-/
import SchemaClasses.Entries

namespace SchemaClasses.CommandLine

/-! ## What can be said -/

/-- Why a command line is not carried out. Asking for help or for the version is one of the reasons. -/
inductive UsageFault where
  | displayHelp
  | displayVersion
  | displayHelpOnMissing
  | invalidSubcommand
  | missingSubcommand
  | missingRequiredArgument
  | unknownArgument
  | invalidValue
  | argumentConflict
  | tooManyValues
  deriving Repr, DecidableEq, Inhabited

/-- The wording of a fault for users. -/
def UsageFault.message : UsageFault → String
  | displayHelp | displayHelpOnMissing =>
    "usage: (generate | inspect) --input FILE... [--out PATH] [OPTION...]"
  | displayVersion => "0.1.0"
  | invalidSubcommand => "there is no such command"
  | missingSubcommand => "a command is needed"
  | missingRequiredArgument => "an input is needed"
  | unknownArgument => "there is an unknown argument"
  | invalidValue => "an option has no value that it can take"
  | argumentConflict => "an option is given twice"
  | tooManyValues => "a flag takes no value"

/-- Whether the user asked for what is then shown. -/
def UsageFault.wasAsked : UsageFault → Bool
  | displayHelp | displayVersion => true
  | _ => false

/-- What an option does. -/
inductive OptionKind where
  /-- Given at most once and without a value. -/
  | flag
  /-- Given at most once and with one value, which may not be empty where it is a path. -/
  | value (isPath : Bool)
  /-- Takes one or more values, as often as it is given. -/
  | values
  /-- Counts how often it is given. -/
  | count
  | help
  | version
  deriving Repr, DecidableEq, Inhabited

/-- Whether an option takes values. -/
def OptionKind.takesValue : OptionKind → Bool
  | value _ | values => true
  | _ => false

/-- An option with its long name and, if it has one, its letter. -/
structure OptionSpec where
  long : String
  short : Option Char := none
  kind : OptionKind
  deriving Repr, DecidableEq, Inhabited

def verboseOption : OptionSpec := ⟨"verbose", some 'v', .count⟩

def helpOption : OptionSpec := ⟨"help", some 'h', .help⟩

/-- The options before a command. -/
def topOptions : List OptionSpec := [verboseOption, helpOption, ⟨"version", some 'V', .version⟩]

/-- The options of both commands. -/
def sharedOptions : List OptionSpec := [
  ⟨"json-pointer", none, .value false⟩,
  ⟨"jq-expr", none, .value false⟩,
  ⟨"input", some 'i', .values⟩,
  ⟨"config", none, .value true⟩,
  ⟨"namespace", none, .value false⟩,
  ⟨"root-class", none, .value false⟩,
  ⟨"src-root", none, .value true⟩,
  ⟨"no-getters", none, .flag⟩,
  ⟨"constants", none, .flag⟩,
  ⟨"no-exceptions", none, .flag⟩,
  ⟨"untyped", none, .flag⟩,
  ⟨"date-time-format", none, .value false⟩,
  ⟨"out", some 'o', .value true⟩,
  verboseOption,
  helpOption]

/-- The options of the command that writes source files. -/
def generateOptions : List OptionSpec :=
  sharedOptions ++ [⟨"preserve", none, .flag⟩, ⟨"no-op", none, .flag⟩]

/-! ## Reading options -/

/-- The values given for each option, an empty list for a flag. -/
abbrev Given := Entries (List String)

/-- How often an option was given. -/
def Given.times (given : Given) (long : String) : Nat :=
  ((given.at? long).getD []).length

/-- The only value of an option. -/
def Given.value? (given : Given) (long : String) : Option String := (given.at? long).bind List.head?

/-- Whether a flag was given. -/
def Given.flag (given : Given) (long : String) : Bool := given.hasName long

/-- The state of reading: what was given, the option that is being read with its values so far,
whether the next word may be one of them, and whether options have ended. -/
structure ArgumentState where
  given : Given := []
  pending : Option (OptionSpec × List String) := none
  taking : Bool := false
  trailing : Bool := false
  deriving Repr, Inhabited

/-- Takes an option with all of its values. -/
def accept (given : Given) (option : OptionSpec) (values : List String) :
    Except UsageFault Given :=
  match option.kind with
  | .help => .error .displayHelp
  | .version => .error .displayVersion
  | .count => .ok (given.put option.long ((given.at? option.long).getD [] ++ [""]))
  | .flag =>
    if given.hasName option.long then .error .argumentConflict else .ok (given.put option.long [])
  | .value isPath =>
    if values.isEmpty then .error .invalidValue
    else if given.hasName option.long then .error .argumentConflict
    else if isPath && values.contains "" then .error .invalidValue
    else .ok (given.put option.long values)
  | .values =>
    if values.isEmpty then .error .invalidValue
    else .ok (given.put option.long ((given.at? option.long).getD [] ++ values))

namespace ArgumentState

/-- Takes the option that is being read. -/
def settle (s : ArgumentState) : Except UsageFault ArgumentState :=
  match s.pending with
  | none => .ok { s with taking := false }
  | some (option, values) => do
    let given ← accept s.given option values
    pure { s with given := given, pending := none, taking := false }

/-- Reads an option with the value that is attached to it, if there is one. -/
def start (s : ArgumentState) (option : OptionSpec) (attached : Option String) :
    Except UsageFault ArgumentState := do
  let s ← s.settle
  match option.kind.takesValue, attached with
  | true, none => pure { s with pending := some (option, []), taking := true }
  | _, attached =>
    let given ← accept s.given option attached.toList
    pure { s with given := given }

/-- Reads a word that stands for itself as a value of the option that is being read. -/
def takeValue (s : ArgumentState) (word : String) : Option ArgumentState :=
  match s.pending with
  | some (option, values) =>
    if s.taking then
      some { s with pending := some (option, values ++ [word]), taking := option.kind == .values }
    else none
  | none => none

/-- Reads the letters behind a hyphen. What follows the letter of an option with values is its
value, with or without an equals sign. -/
def letters (options : List OptionSpec) (s : ArgumentState) :
    List Char → Except UsageFault ArgumentState
  | [] => .ok s
  | c :: rest =>
    match options.find? fun option => option.short == some c with
    | none => .error .unknownArgument
    | some option =>
      if option.kind.takesValue then
        match rest with
        | [] => s.start option none
        | '=' :: value => s.start option (some (String.ofList value))
        | value => s.start option (some (String.ofList value))
      else do
        let s ← s.start option none
        letters options s rest

/-- Reads an option by its long name, with what stands behind an equals sign. -/
def longName (options : List OptionSpec) (s : ArgumentState) (name : String)
    (attached : Option String) : Except UsageFault ArgumentState :=
  match options.find? fun option => option.long == name with
  | none => .error .unknownArgument
  | some option =>
    if attached.isSome && !option.kind.takesValue then .error .tooManyValues
    else s.start option attached

end ArgumentState

/-- What a word looks like. -/
inductive Word where
  /-- Two hyphens alone: options end here. -/
  | escape
  | long (name : String) (attached : Option String)
  | letters (cs : List Char)
  | plain (text : String)
  deriving Repr, DecidableEq, Inhabited

/-- Tells what a word looks like. -/
def Word.ofString (text : String) : Word :=
  match text.toList with
  | ['-', '-'] => .escape
  | '-' :: '-' :: rest =>
    let name := rest.takeWhile (· != '=')
    match rest.dropWhile (· != '=') with
    | _ :: value => .long (String.ofList name) (some (String.ofList value))
    | [] => .long (String.ofList name) none
  | '-' :: c :: rest => .letters (c :: rest)
  | _ => .plain text

/-- Reads the words of a command. Words that are neither options nor values are refused. -/
def readOptions (options : List OptionSpec) :
    List String → ArgumentState → Except UsageFault ArgumentState
  | [], s => s.settle
  | text :: rest, s => do
    if s.trailing then .error .unknownArgument
    match Word.ofString text with
    | .escape => readOptions options rest { s with trailing := true }
    | .long name attached => readOptions options rest (← s.longName options name attached)
    | .letters cs => readOptions options rest (← s.letters options cs)
    | .plain value =>
      match s.takeValue value with
      | some s => readOptions options rest s
      | none => .error .unknownArgument

/-! ## Commands -/

/-- Where schemas come from: files, and what to pick out of them. -/
structure InputChoice where
  pointer : Option String := none
  query : Option String := none
  inputs : List String
  deriving Repr, DecidableEq, Inhabited

/-- The settings that are given as options. -/
structure SettingsChoice where
  config : Option String := none
  space : Option String := none
  rootClass : Option String := none
  sourceRoot : Option String := none
  noGetters : Bool := false
  constants : Bool := false
  noExceptions : Bool := false
  untyped : Bool := false
  dateTimeFormat : Option String := none
  deriving Repr, DecidableEq, Inhabited

/-- A command. -/
inductive Command where
  /-- Writes source files. -/
  | generate (input : InputChoice) (settings : SettingsChoice) (out : Option String)
      (preserve noOp : Bool)
  /-- Writes the class model. -/
  | inspect (input : InputChoice) (settings : SettingsChoice) (out : Option String)
  deriving Repr, DecidableEq, Inhabited

/-- A command line that can be carried out. -/
structure Invocation where
  verbose : Nat
  command : Command
  deriving Repr, DecidableEq, Inhabited

def InputChoice.ofGiven (given : Given) : InputChoice where
  pointer := given.value? "json-pointer"
  query := given.value? "jq-expr"
  inputs := (given.at? "input").getD []

def SettingsChoice.ofGiven (given : Given) : SettingsChoice where
  config := given.value? "config"
  space := given.value? "namespace"
  rootClass := given.value? "root-class"
  sourceRoot := given.value? "src-root"
  noGetters := given.flag "no-getters"
  constants := given.flag "constants"
  noExceptions := given.flag "no-exceptions"
  untyped := given.flag "untyped"
  dateTimeFormat := given.value? "date-time-format"

/-- The commands by name: their options and how they are made from what was given. -/
def commands : Entries (List OptionSpec × (Given → Command)) := [
  ("generate", (generateOptions, fun given =>
    .generate (.ofGiven given) (.ofGiven given) (given.value? "out") (given.flag "preserve")
      (given.flag "no-op"))),
  ("inspect", (sharedOptions, fun given =>
    .inspect (.ofGiven given) (.ofGiven given) (given.value? "out")))]

/-- Reads the words behind a command. Where the command counts verbosity, what stood before it does
not count. -/
def readCommand (options : List OptionSpec) (make : Given → Command) (top : Given)
    (words : List String) : Except UsageFault Invocation := do
  let s ← readOptions options words {}
  if !s.given.hasName "input" then .error .missingRequiredArgument
  let inner := s.given.times "verbose"
  let verbose := if inner = 0 then top.times "verbose" else inner
  pure ⟨min verbose 255, make s.given⟩

/-- The outcome of asking for help on commands. -/
def helpOn : List String → UsageFault
  | [] => .displayHelp
  | [name] =>
    if commands.hasName name || name == "help" then .displayHelp else .invalidSubcommand
  | _ => .invalidSubcommand

/-- Reads the words before a command, and then the command. -/
def readTop : List String → ArgumentState → Except UsageFault Invocation
  | [], s =>
    if s.given.isEmpty then .error .displayHelpOnMissing else .error .missingSubcommand
  | text :: rest, s => do
    if s.trailing then
      .error (if commands.hasName text || text == "help" then .unknownArgument
        else .invalidSubcommand)
    else if text == "help" then .error (helpOn rest)
    else
      match commands.at? text with
      | some (options, make) => readCommand options make s.given rest
      | none =>
        match Word.ofString text with
        | .escape => readTop rest { s with trailing := true }
        | .long name attached => readTop rest (← s.longName topOptions name attached)
        | .letters cs => readTop rest (← s.letters topOptions cs)
        | .plain _ => .error .invalidSubcommand

/-- Reads a command line. -/
def readArguments (words : List String) : Except UsageFault Invocation := readTop words {}

end SchemaClasses.CommandLine
