import SourceLens.Breakdown
import SourceLens.ErrorKind
import SourceLens.Outline

/-!
# Failures

The record of an operation that failed: what went wrong, for which path and in which mode, and
what to try instead.
-/
namespace SourceLens

/-- An operation that failed. -/
structure Failure where
  /-- The kind of error. -/
  kind : ErrorKind
  /-- What went wrong. -/
  message : String
  /-- The path it is about. -/
  path : Option String
  /-- The mode of the operation. -/
  mode : String
  /-- What to try instead. -/
  hint : Option String := none
  /-- Whether the record shows the empty outline of a file that could not be parsed. -/
  showsOutline : Bool := false
  deriving DecidableEq, Repr

/-- The failure in results. -/
def Failure.fields (failure : Failure) : Fields :=
  [("success", .bool false), ("error", .text failure.message),
    ("error_type", .text failure.kind.code), ("file_path", .textOrNull failure.path),
    ("mode", .text failure.mode)] ++ Value.optionalField "hint" failure.hint ++
    if failure.showsOutline then
      [("partial_structure", .record Outline.empty.structureFields)]
    else []

/-- The failure of a request that does not fit its fields. -/
def Failure.ofComplaints (complaints : List Complaint) (path : Option String) (mode : String) :
    Failure :=
  { kind := .validation, message := describeComplaints complaints, path, mode }

end SourceLens
