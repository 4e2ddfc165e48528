import TransactionHarness.Session
/-!
# Records and reports

What the service has answered to the steps of a run, and what a finished run leaves behind.
-/

namespace TransactionHarness

/-- A file that was downloaded. -/
structure Download where
  /-- The path that a dump made available. -/
  serverPath : String
  /-- Where the file is kept. -/
  localPath : String
  bytes : Nat
  deriving DecidableEq, Repr, Inhabited

/-- What the service has answered, step by step. -/
structure Record where
  begun : Option Transaction := none
  status : Option Transaction := none
  dumps : List DumpResult := []
  downloads : List Download := []
  loads : List LoadResult := []
  finished : Option Transaction := none
  deriving DecidableEq, Repr, Inhabited

/-- What a finished run leaves behind. -/
structure Report where
  transactionId : TransactionId
  /-- The transaction as it was when it was finished. -/
  finalTransaction : Transaction
  record : Record
  session : Session
  deriving DecidableEq, Repr, Inhabited

end TransactionHarness
