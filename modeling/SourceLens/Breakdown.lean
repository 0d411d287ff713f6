import SourceLens.Check
import SourceLens.FileSystem
import SourceLens.Pattern.Breakdown

/-!
# Breakdowns

What ends an operation without a record. Most failures have a record; a breakdown is an error that
nothing in the program turns into one.
-/
namespace SourceLens

/-- What ends an operation without a record. -/
inductive Breakdown where
  /-- The system refuses to look up the path of a search. -/
  | path (error : SystemError) (path : String)
  /-- A directory to list has a null character in its path. -/
  | nullInPath
  /-- A pattern broke off. -/
  | pattern (why : Pattern.Breakdown)
  /-- A message has a number with too many digits to print. -/
  | digits
  /-- A command made a request that does not fit. -/
  | misfit (complaints : List Complaint)
  deriving DecidableEq, Repr

/-- All complaints about a request in one text. -/
def describeComplaints (complaints : List Complaint) : String :=
  "; ".intercalate (complaints.map Complaint.message)

/-- The breakdown in words. -/
def Breakdown.message : Breakdown → String
  | path error written => error.message written
  | nullInPath => "embedded null byte"
  | pattern why => why.message
  | digits =>
    s!"Exceeds the limit ({Text.maxDigits} digits) for integer string conversion; " ++
      "use sys.set_int_max_str_digits() to increase the limit"
  | misfit complaints => describeComplaints complaints

/-- An operation answers with a record of which something holds. -/
def Answers (outcome : Except Breakdown Fields) (holds : Fields → Prop) : Prop :=
  ∃ record, outcome = .ok record ∧ holds record

end SourceLens
