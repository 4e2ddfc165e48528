import TransactionHarness.Transaction.Basic
/-!
# Steps

The steps of a run, in which errors are located. A dump names its format, so that the dumps of one
table are told apart.
-/

namespace TransactionHarness

/-- A step of a run. Obtaining a token is a step of its own. -/
inductive Step where
  | auth
  | begin
  | status
  | dump (format : DumpFormat)
  | download
  | load
  | finish (how : Finish)
  deriving DecidableEq, Repr, Inhabited

/-- The spelling of a step. -/
def Step.name : Step → String
  | auth => "auth"
  | begin => "begin"
  | status => "status"
  | dump format => "dump(" ++ format.name ++ ")"
  | download => "download"
  | load => "load"
  | finish how => how.name

end TransactionHarness
