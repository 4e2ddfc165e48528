import TransactionHarness.Json.Decode
import TransactionHarness.Transaction.Basic
/-!
# The JSON form of transactions

For each type `ofJson` reads a value and `toJson` writes one. A written record is an object that
names every field, with null for an absent text; a read one may also be an array (`Json.Record`).
-/

namespace TransactionHarness

open Json

/-! ### Alternatives -/

def TransactionType.ofJson : Decoder TransactionType :=
  asAlternative [("read_write", .readWrite), ("read_only", .readOnly)]

def TransactionType.toJson (t : TransactionType) : Json := .str t.name

def TransactionStatus.ofJson : Decoder TransactionStatus :=
  asAlternative [("AVAILABLE", .available), ("IN_USE", .inUse), ("COMMITED", .committed),
    ("ROLLBACK_COMPLETED", .rolledBack)]

def TransactionStatus.toJson (s : TransactionStatus) : Json := .str s.name

def DumpFormat.ofJson : Decoder DumpFormat :=
  asAlternative [("parquet", .parquet), ("csv", .csv)]

def DumpFormat.toJson (f : DumpFormat) : Json := .str f.name

/-! ### Requests -/

namespace BeginRequest

def typeField : RecordField TransactionType := .required "type" TransactionType.ofJson
def timeoutField : RecordField Nat := .required "timeoutMin" (asNat Text.max32 "u32")
def tablesField : RecordField (List String) := .required "tables" (asList asString)

def ofJson : Decoder BeginRequest := fun v ↦ do
  let name := "struct BeginRequest"
  let record ← Record.ofJson name v
  record.precheck [Record.check typeField, Record.check timeoutField, Record.check tablesField]
  let type ← record.get name 3 0 typeField
  let timeoutMinutes ← record.get name 3 1 timeoutField
  let tables ← record.get name 3 2 tablesField
  record.finish 3
  return { type, timeoutMinutes, tables }

def toJson (r : BeginRequest) : Json :=
  .obj [("tables", .arr (r.tables.map .str)), ("timeoutMin", .ofNat r.timeoutMinutes),
    ("type", r.type.toJson)]

end BeginRequest

namespace DumpRequest

def formatField : RecordField DumpFormat := .required "format" DumpFormat.ofJson

def ofJson : Decoder DumpRequest := fun v ↦ do
  let name := "struct DumpRequest"
  let record ← Record.ofJson name v
  record.precheck [Record.check formatField]
  let format ← record.get name 1 0 formatField
  record.finish 1
  return { format }

def toJson (r : DumpRequest) : Json := .obj [("format", r.format.toJson)]

end DumpRequest

/-! ### Answers -/

namespace Transaction

def typeField : RecordField TransactionType := .required "type" TransactionType.ofJson
def idField : RecordField TransactionId := .required "transactionId" asString
def statusField : RecordField TransactionStatus := .required "status" TransactionStatus.ofJson
def startTimeField : RecordField (Option String) := .nullable "startTime" asString
def endTimeField : RecordField (Option String) := .nullable "endTime" asString

def ofJson : Decoder Transaction := fun v ↦ do
  let name := "struct Transaction"
  let record ← Record.ofJson name v
  record.precheck [Record.check typeField, Record.check idField, Record.check statusField,
    Record.check startTimeField, Record.check endTimeField]
  let type ← record.get name 5 0 typeField
  let id ← record.get name 5 1 idField
  let status ← record.get name 5 2 statusField
  let startTime ← record.get name 5 3 startTimeField
  let endTime ← record.get name 5 4 endTimeField
  record.finish 5
  return { type, id, status, startTime, endTime }

def toJson (t : Transaction) : Json :=
  .obj [("endTime", .ofString? t.endTime), ("startTime", .ofString? t.startTime),
    ("status", t.status.toJson), ("transactionId", .str t.id), ("type", t.type.toJson)]

end Transaction

namespace DumpResult

def idField : RecordField TransactionId := .required "transactionId" asString
def tableField : RecordField String := .required "table" asString
def formatField : RecordField DumpFormat := .required "format" DumpFormat.ofJson
def downloadPathsField : RecordField (List String) := .required "downloadPathList" (asList asString)

def ofJson : Decoder DumpResult := fun v ↦ do
  let name := "struct DumpResult"
  let record ← Record.ofJson name v
  record.precheck [Record.check idField, Record.check tableField, Record.check formatField,
    Record.check downloadPathsField]
  let id ← record.get name 4 0 idField
  let table ← record.get name 4 1 tableField
  let format ← record.get name 4 2 formatField
  let downloadPaths ← record.get name 4 3 downloadPathsField
  record.finish 4
  return { id, table, format, downloadPaths }

def toJson (r : DumpResult) : Json :=
  .obj [("downloadPathList", .arr (r.downloadPaths.map .str)), ("format", r.format.toJson),
    ("table", .str r.table), ("transactionId", .str r.id)]

end DumpResult

namespace LoadResult

def idField : RecordField TransactionId := .required "transactionId" asString
def dumpFilesField : RecordField (List String) := .required "dumpFiles" (asList asString)
def formatField : RecordField String := .required "format" asString
def tableField : RecordField String := .required "table" asString

def ofJson : Decoder LoadResult := fun v ↦ do
  let name := "struct LoadResult"
  let record ← Record.ofJson name v
  record.precheck [Record.check idField, Record.check dumpFilesField, Record.check formatField,
    Record.check tableField]
  let id ← record.get name 4 0 idField
  let dumpFiles ← record.get name 4 1 dumpFilesField
  let format ← record.get name 4 2 formatField
  let table ← record.get name 4 3 tableField
  record.finish 4
  return { id, dumpFiles, format, table }

def toJson (r : LoadResult) : Json :=
  .obj [("dumpFiles", .arr (r.dumpFiles.map .str)), ("format", .str r.format),
    ("table", .str r.table), ("transactionId", .str r.id)]

end LoadResult

end TransactionHarness
