import TransactionHarness.Error
import TransactionHarness.Expect
/-!
# Step contracts

The contract of a step says which replies the step accepts: a header line that has to be there and
an expectation for the body. `verify` checks the body first, so that a wrong body is reported
whatever the headers are.

The contracts of the steps pin down everything that the run already knows: the type and the
identifier of the transaction, the table, the format, the uploaded file, and the status that the
step leads to.
-/

namespace TransactionHarness

/-- Which replies a step accepts. -/
structure Contract where
  step : Step
  /-- The header line that has to be there. -/
  statusLine? : Option String
  body : Expect
  deriving Inhabited

namespace Contract

/-- The status line of success. -/
def okStatusLine : String := "HTTP/1.1 200 OK"

/-- A contract that asks for success. -/
def ok (step : Step) (body : Expect) : Contract := ⟨step, some okStatusLine, body⟩

/-- Accepts a reply or says what is wrong with it. -/
def verify (contract : Contract) (headers : List String) (body : Json) : Except Error Unit :=
  match contract.body.check body with
  | .error m =>
    .error (.verification contract.step (m.expected ++ " at " ++ m.pathText) m.actual)
  | .ok () =>
    match contract.statusLine? with
    | none => .ok ()
    | some line =>
      if headers.contains line then .ok ()
      else .error (.verification contract.step ("status line '" ++ line ++ "'")
        (headers.head?.getD "<no status line>"))

/-! ### The contracts of the steps -/

/-- The expectation of one text exactly. -/
def text (s : String) : Expect := .exact (.str s)

/-- An open transaction with an identifier as expected. -/
def openTransaction (type : TransactionType) (id : Expect) : Expect :=
  .object [("type", text type.name), ("transactionId", id),
    ("status", text TransactionStatus.available.name), ("startTime", .nullOrString),
    ("endTime", .null)]

/-- The reply to begin is an open transaction of the type asked for. -/
def begin (type : TransactionType) : Contract := ok .begin (openTransaction type .anyString)

/-- The reply to status is the transaction, still open. -/
def status (type : TransactionType) (id : TransactionId) : Contract :=
  ok .status (openTransaction type (text id))

/-- The reply to a dump names the files that were written, of which there is at least one. -/
def dump (id : TransactionId) (table : String) (format : DumpFormat) : Contract :=
  ok (.dump format) (.object [("transactionId", text id), ("table", text table),
    ("format", text format.name), ("downloadPathList", .nonEmptyArray)])

/-- The format that the service reports when it goes by the name of the file. -/
def loadFormat : String := "detect_by_ext"

/-- The reply to a load names the one file that was loaded. -/
def load (id : TransactionId) (table fileName : String) : Contract :=
  ok .load (.object [("transactionId", text id),
    ("dumpFiles", .array [text (id ++ "/" ++ fileName)]),
    ("format", text loadFormat), ("table", text table)])

/-- The reply to finishing is the transaction with the status that it has then. -/
def finish (type : TransactionType) (id : TransactionId) (how : Finish) : Contract :=
  ok (.finish how) (.object [("type", text type.name), ("transactionId", text id),
    ("status", text how.status.name), ("startTime", .nullOrString), ("endTime", .nullOrString)])

end Contract

end TransactionHarness
