import TransactionHarness.Error
import TransactionHarness.Transaction.Basic
/-!
# Sessions

What a run has to remember: the identifier of its transaction, the paths that its dumps have made
available, and the files that it has downloaded. A run drives one transaction, so the identifier is
set once; the two lists only grow.
-/

namespace TransactionHarness

/-- What a run remembers. -/
structure Session where
  transactionId? : Option TransactionId := none
  /-- The paths of all dumps, in order. -/
  downloadPaths : List String := []
  /-- Where the downloaded files are kept, in order. -/
  files : List String := []
  deriving DecidableEq, Repr, Inhabited

namespace Session

/-- The identifier of the transaction, which has to be there. -/
def requireId (s : Session) : Except Error TransactionId :=
  match s.transactionId? with
  | some id => .ok id
  | none => .error (.invalidState "no transaction has been started")

/-- The session with the identifier of its transaction. A second identifier is refused, even an
equal one. -/
def setId (s : Session) (id : TransactionId) : Except Error Session :=
  match s.transactionId? with
  | some present => .error (.invalidState
      ("transaction id already set to " ++ present ++ ", refusing to replace it with " ++ id))
  | none => .ok { s with transactionId? := some id }

/-- The session after a dump that made the given paths available. -/
def extendPaths (s : Session) (paths : List String) : Session :=
  { s with downloadPaths := s.downloadPaths ++ paths }

/-- The session after a download. -/
def recordFile (s : Session) (file : String) : Session := { s with files := s.files ++ [file] }

/-! ### What each operation does to each part -/

@[simp] theorem transactionId?_extendPaths (s : Session) (paths : List String) :
    (s.extendPaths paths).transactionId? = s.transactionId? := rfl

@[simp] theorem downloadPaths_extendPaths (s : Session) (paths : List String) :
    (s.extendPaths paths).downloadPaths = s.downloadPaths ++ paths := rfl

@[simp] theorem files_extendPaths (s : Session) (paths : List String) :
    (s.extendPaths paths).files = s.files := rfl

@[simp] theorem transactionId?_recordFile (s : Session) (file : String) :
    (s.recordFile file).transactionId? = s.transactionId? := rfl

@[simp] theorem downloadPaths_recordFile (s : Session) (file : String) :
    (s.recordFile file).downloadPaths = s.downloadPaths := rfl

@[simp] theorem files_recordFile (s : Session) (file : String) :
    (s.recordFile file).files = s.files ++ [file] := rfl

end Session

end TransactionHarness
