/-!
# Verdicts

A check either accepts or reports one fault: a category, a context that explains the fault, and
whether the fault lies in a broken document instead of the program that it holds.
-/

namespace RobotCity

/-- A fault as it is reported. -/
structure Report where
  /-- The short label in front. -/
  category : String
  context : String
  /-- Whether the document holds something that no check knows. -/
  internal : Bool
  deriving DecidableEq, Repr

/-- The category of faults that lie in a broken document. -/
def internalCategory : String := "Internal validator error"

namespace Report

/-- A fault of the program. -/
def fault (category context : String) : Report :=
  { category, context, internal := false }

/-- A fault of the document. -/
def broken (context : String) : Report :=
  { category := internalCategory, context, internal := true }

/-- A report as one line. -/
def text (report : Report) : String :=
  report.category ++ ": " ++ report.context

/-- Add to the end of the explanation. -/
def withContext (suffix : String) (report : Report) : Report :=
  { report with context := report.context ++ suffix }

end Report

/-- The outcome of a check: nothing if it accepts, else what it reports. -/
abbrev Verdict := Option Report

/-- Why an expression has no type. -/
structure Complaint where
  message : String
  /-- Whether the document holds something that no check knows. -/
  internal : Bool
  deriving DecidableEq, Repr

/-- A complaint about an expression as a fault of what it is part of.  The part is named only where
the program is to blame. -/
def Complaint.report (category suffix : String) (complaint : Complaint) : Report :=
  if complaint.internal then .broken complaint.message
  else .fault category (complaint.message ++ suffix)

end RobotCity
