/-
The command line: the operations of the real file system, and the outcome of a command as an exit
code.
-/
import SchemaClasses.CommandLine.Run

namespace SchemaClasses.CommandLine

/-- What a refusal of the file system means. -/
def faultOf : IO.Error → FileFault
  | .noFileOrDirectory .. => .notFound
  | .alreadyExists .. => .alreadyThere
  | .inappropriateType _ 20 _ => .notDirectory
  | .inappropriateType _ 21 _ => .isDirectory
  | .invalidArgument _ 36 _ => .nameTooLong
  | refusal => .other (toString refusal)

/-- An operation, with a refusal as its result. -/
def refusable {α : Type} (action : IO α) : IO (Except FileFault α) := do
  match ← action.toBaseIO with
  | .ok a => pure (.ok a)
  | .error refusal => pure (.error (faultOf refusal))

/-- A place in the file system, for operations that look around there. -/
def placeOf (path : String) : IO.FS.DirEntry where
  root := path
  fileName := ""

/-- The text that bytes of UTF-8 stand for. -/
def textOfBytes (bytes : ByteArray) : Except FileFault String :=
  match String.fromUTF8? bytes with
  | some text => .ok text
  | none => .error (.other "stream did not contain valid UTF-8")

/-- The real file system and the standard streams. -/
def realHost : Host IO where
  read path := do return (← refusable (IO.FS.readBinFile path)).bind textOfBytes
  readBytes path := do return (← refusable (IO.FS.readBinFile path)).map (·.toList)
  write path text := refusable (IO.FS.writeBinFile path text.toUTF8)
  makeFolder path := refusable (IO.FS.createDir path)
  isFolder path := (placeOf path).root.isDir
  isThere path := (placeOf path).root.pathExists
  list path := do
    return (← refusable (placeOf path).root.readDir).map fun entries =>
      entries.toList.map (·.fileName)
  say text := IO.print text
  remark text := IO.eprintln text

end SchemaClasses.CommandLine

open SchemaClasses.CommandLine in
/-- Carries out the command line. The exit code is 1 when a command fails, and 2 when there is none
to carry out. -/
def main (arguments : List String) : IO UInt32 := do
  match readArguments arguments with
  | .error fault =>
    if fault.wasAsked then
      IO.println fault.message
      return 0
    else
      IO.eprintln fault.message
      return 2
  | .ok invocation =>
    match ← invocation.run realHost with
    | .ok () => return 0
    | .error fault =>
      IO.eprintln fault.message
      return 1
