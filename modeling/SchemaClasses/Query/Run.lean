/-
Running a filter text over a document.
-/
import SchemaClasses.Query.Grammar

namespace SchemaClasses.Query

/-- Why a filter text gave no documents. -/
inductive QueryFault where
  /-- The text is no filter. -/
  | malformed
  /-- The filter mentions a function or variable that there is not. -/
  | undefined
  /-- The filter stopped at a fault, or a value of it is no document. -/
  | failed
  deriving Repr, DecidableEq, Inhabited

/-- The documents that a filter text tells for a document, or what is wrong. A fault leaves no
documents. -/
def run (source : String) (document : Json) : Except QueryFault (List Json) :=
  match Filter.ofText? source with
  | none => .error .malformed
  | some filter =>
    if filter.hasUnknown then .error .undefined
    else
      match (filter.run (.ofJson document)).mapM (·.bind Value.toJson?) with
      | none => .error .failed
      | some documents => .ok documents

end SchemaClasses.Query
