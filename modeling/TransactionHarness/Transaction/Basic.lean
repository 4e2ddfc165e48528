/-!
# Transactions

What the transaction service keeps and answers: a transaction of some type with a status, the
results of a dump and of a load, and the two ways to finish. Each closed set of words has its
spelling in one function `name`.
-/

namespace TransactionHarness

/-- The identifier that the service gives a transaction. Any text may be one. -/
abbrev TransactionId := String

/-- What a transaction may do. -/
inductive TransactionType where
  | readWrite
  | readOnly
  deriving DecidableEq, Repr, Inhabited

/-- The spelling of a transaction type. -/
def TransactionType.name : TransactionType → String
  | readWrite => "read_write"
  | readOnly => "read_only"

/-- Where a transaction stands. -/
inductive TransactionStatus where
  | available
  | inUse
  | committed
  | rolledBack
  deriving DecidableEq, Repr, Inhabited

/-- The spelling of a status. -/
def TransactionStatus.name : TransactionStatus → String
  | available => "AVAILABLE"
  | inUse => "IN_USE"
  | committed => "COMMITED"
  | rolledBack => "ROLLBACK_COMPLETED"

/-- The file format of a dump. -/
inductive DumpFormat where
  | parquet
  | csv
  deriving DecidableEq, Repr, Inhabited

/-- The spelling of a dump format. -/
def DumpFormat.name : DumpFormat → String
  | parquet => "parquet"
  | csv => "csv"

/-- The format that the service dumps in when none is asked for. -/
def DumpFormat.standard : DumpFormat := parquet

/-- How a transaction is finished. -/
inductive Finish where
  | commit
  | rollback
  deriving DecidableEq, Repr, Inhabited

/-- The spelling of a way to finish, which is also its segment in the address. -/
def Finish.name : Finish → String
  | commit => "commit"
  | rollback => "rollback"

/-- The status that a transaction has once it is finished. -/
def Finish.status : Finish → TransactionStatus
  | commit => .committed
  | rollback => .rolledBack

/-- What is asked for when a transaction begins. -/
structure BeginRequest where
  type : TransactionType
  /-- After how many minutes the service may give the transaction up. -/
  timeoutMinutes : Nat
  /-- The tables that the transaction works on. -/
  tables : List String
  deriving DecidableEq, Repr, Inhabited

/-- A read-write transaction of one minute on the table `demo`. -/
def BeginRequest.standard : BeginRequest := ⟨.readWrite, 1, ["demo"]⟩

/-- What is asked for when a table is dumped in a given format. -/
structure DumpRequest where
  format : DumpFormat
  deriving DecidableEq, Repr, Inhabited

/-- A transaction as the service reports it. -/
structure Transaction where
  type : TransactionType
  id : TransactionId
  status : TransactionStatus
  startTime : Option String
  endTime : Option String
  deriving DecidableEq, Repr, Inhabited

/-- What the service answers to a dump. -/
structure DumpResult where
  id : TransactionId
  table : String
  format : DumpFormat
  /-- The paths under which the dumped files can be downloaded. -/
  downloadPaths : List String
  deriving DecidableEq, Repr, Inhabited

/-- What the service answers to a load. -/
structure LoadResult where
  id : TransactionId
  dumpFiles : List String
  format : String
  table : String
  deriving DecidableEq, Repr, Inhabited

end TransactionHarness
