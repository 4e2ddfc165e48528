import TransactionHarness.Path.Upload
import TransactionHarness.Record
/-!
# The states of a run

A run goes through states in a fixed order; only dumps and loads repeat. Every state after the first
carries the identifier of the transaction. `Command` says what can be asked of a run. A finished run
can be reported, provided that what it remembers fits the state it is in.
-/

namespace TransactionHarness

/-- How far a run has come. -/
inductive State where
  | initial
  | begun (id : TransactionId)
  | statusChecked (id : TransactionId)
  | dumped (id : TransactionId)
  | downloaded (id : TransactionId)
  | loaded (id : TransactionId)
  | finished (how : Finish) (id : TransactionId)
  deriving DecidableEq, Repr, Inhabited

/-- The identifier of the transaction, once there is one. -/
def State.id? : State → Option TransactionId
  | initial => none
  | begun id => some id
  | statusChecked id => some id
  | dumped id => some id
  | downloaded id => some id
  | loaded id => some id
  | finished _ id => some id

/-- What can be asked of a run. -/
inductive Command where
  | begin (request : BeginRequest)
  | checkStatus
  /-- Without a format the service chooses one. -/
  | dump (table : String) (format? : Option DumpFormat)
  | downloadAll
  | load (table : String) (file : UploadPath)
  | finish (how : Finish)
  deriving DecidableEq, Inhabited

/-- A run: its state, what it remembers, and what the service has answered. -/
structure Lifecycle where
  state : State := .initial
  session : Session := {}
  record : Record := {}
  /-- The type of the transaction, as it was asked for. -/
  type : TransactionType := .readWrite
  deriving DecidableEq, Repr, Inhabited

/-- The report of a finished run. The identifier in the session has to be the one that was finished.
-/
def Lifecycle.report (l : Lifecycle) : Except Error Report :=
  match l.state with
  | .finished _ id =>
    match l.session.requireId with
    | .error e => .error e
    | .ok remembered =>
      if remembered ≠ id then
        .error (.invalidState
          ("session holds transaction " ++ remembered ++ ", run finished " ++ id))
      else
        match l.record.finished with
        | none => .error (.invalidState "finished run has no final transaction")
        | some finalTransaction =>
          .ok { transactionId := id, finalTransaction, record := l.record, session := l.session }
  | _ => .error (.invalidState "the run is not finished")

end TransactionHarness
