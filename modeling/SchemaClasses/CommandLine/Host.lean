/-
What a command needs from the place that it runs in: files, folders and somewhere to print.
-/
import SchemaClasses.Error
import SchemaClasses.Source.Path

namespace SchemaClasses.CommandLine

/-- The operations of a file system and of an output, in some monad. -/
structure Host (m : Type → Type) where
  /-- The text of a file. -/
  read : String → m (Except FileFault String)
  /-- The bytes of a file. -/
  readBytes : String → m (Except FileFault (List UInt8))
  /-- Puts a text into a file; its folder must be there. -/
  write : String → String → m (Except FileFault Unit)
  /-- Makes one folder in a folder that is there. -/
  makeFolder : String → m (Except FileFault Unit)
  isFolder : String → m Bool
  isThere : String → m Bool
  /-- The names in a folder. -/
  list : String → m (Except FileFault (List String))
  /-- Prints to the output. -/
  say : String → m Unit
  /-- Prints a remark beside the output. -/
  remark : String → m Unit

namespace Host

variable {m : Type → Type} [Monad m]

/-- Makes the folder with the given parts, the last one first, and all folders above it. -/
def makeFolderChain (host : Host m) (absolute : Bool) : List String → m (Except FileFault Unit)
  | [] => pure (.ok ())
  | part :: above => do
    let path := (Path.Normal.mk absolute (part :: above).reverse).text
    match ← host.makeFolder path with
    | .ok () => pure (.ok ())
    | .error .notFound =>
      match ← host.makeFolderChain absolute above with
      | .error fault => pure (.error fault)
      | .ok () =>
        match ← host.makeFolder path with
        | .ok () => pure (.ok ())
        | .error fault => pure (if ← host.isFolder path then .ok () else .error fault)
    | .error fault => pure (if ← host.isFolder path then .ok () else .error fault)

/-- Makes the folder that a path lies in, and all folders above it. -/
def makeFoldersFor (host : Host m) (path : String) : m (Except FileFault Unit) :=
  let normal := Path.normal path
  host.makeFolderChain normal.absolute normal.parts.dropLast.reverse

end Host

end SchemaClasses.CommandLine
