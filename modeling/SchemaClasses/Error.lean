/-
Everything that can stop a generation. Faults that the generated code finds when it runs are part of
that code and do not show here.
-/
import SchemaClasses.Schema.Fault
import SchemaClasses.Settings.Fault

namespace SchemaClasses

/-- Why something has no class. -/
inductive Unsupported where
  | noTemplate
  | longReferenceChain
  | noRawConversion
  | itemKind
  | noException
  deriving Repr, DecidableEq, Inhabited

/-- The wording of the reason. -/
def Unsupported.message : Unsupported → String
  | noTemplate => "no value object template for this kind"
  | longReferenceChain => "reference chains longer than one hop are not followed"
  | noRawConversion => "class has no raw array conversion"
  | itemKind => "only scalar, object and reference items are supported"
  | noException => "type not supported"

/-- What the file system says when it refuses. -/
inductive FileFault where
  | notFound
  | alreadyThere
  | notDirectory
  | isDirectory
  | nameTooLong
  | nullInPath
  | other (message : String)
  deriving Repr, DecidableEq, Inhabited

/-- The wording of the refusal. -/
def FileFault.message : FileFault → String
  | notFound => "No such file or directory (os error 2)"
  | alreadyThere => "File exists (os error 17)"
  | notDirectory => "Not a directory (os error 20)"
  | isDirectory => "Is a directory (os error 21)"
  | nameTooLong => "File name too long (os error 36)"
  | nullInPath => "file name contained an unexpected NUL byte"
  | other message => message

/-- The cause that stopped a generation. -/
inductive GenerateError where
  /-- Something of a kind for which there is no class. -/
  | unsupported (kind name : String) (reason : Unsupported)
  /-- Another number of types than the one that was needed. -/
  | ambiguousTypes (name : String) (count : Nat)
  /-- A reference that leads nowhere. -/
  | unresolvedReference (pointer : String)
  /-- A malformed schema node and the pointer to it. -/
  | invalidSchema (pointer : String) (fault : SchemaFault)
  /-- Settings that cannot be read, and the file that they stand in. -/
  | settings (origin : Option String) (place : SettingsPlace) (fault : SettingsFault)
  | file (fault : FileFault)
  deriving Repr, Inhabited

/-- A pointer as shown to users: the empty one is written as a slash. -/
def displayPointer (pointer : String) : String := if pointer = "" then "/" else pointer

/-- The wording of an error. -/
def GenerateError.message : GenerateError → String
  | unsupported kind name reason =>
    "unsupported type `" ++ kind ++ "` for `" ++ name ++ "`: " ++ reason.message
  | ambiguousTypes name count =>
    "can only handle one JSON type for `" ++ name ++ "` (got " ++ toString count ++ ")"
  | unresolvedReference pointer => "unresolved reference `" ++ pointer ++ "`"
  | invalidSchema pointer fault =>
    "invalid schema at `" ++ displayPointer pointer ++ "`: " ++ fault.message
  | settings origin place fault =>
    "configuration error: " ++ (origin.elim "" (· ++ ": ")) ++ "at JSON path " ++ place.describe ++
      " → " ++ fault.message
  | file fault => "I/O error: " ++ fault.message

/-- The wording of an error with that of its cause behind it, where it has one of its own. -/
def GenerateError.chain (e : GenerateError) : String :=
  match e with
  | file fault => e.message ++ ": " ++ fault.message
  | _ => e.message

end SchemaClasses
