import TransactionHarness.Config.Basic
import TransactionHarness.Lifecycle.Basic
/-!
# Scenarios

A scenario says what a run does: which transaction it begins, which table it dumps and in which
formats, which files it loads, and how it finishes. It needs a table, a dump and a file to load.
-/

namespace TransactionHarness

/-- What a run does. -/
structure Scenario where
  begin : BeginRequest
  table : String
  /-- One entry for each dump; without a format the service chooses one. -/
  dumpFormats : List (Option DumpFormat)
  /-- One entry for each load. -/
  loadFiles : List UploadPath
  finish : Finish
  deriving DecidableEq, Inhabited

namespace Scenario

/-- A file in the directory of the files to load. -/
def loadFile (cfg : Config) (name : String) : UploadPath :=
  .text (String.ofList (Path.join cfg.loadDir.toList name.toList))

/-- The scenario of the reference run: two dumps and two loads of the table `demo`, and a commit. -/
def standard (cfg : Config) : Scenario :=
  { begin := .standard
    table := "demo"
    dumpFormats := [none, some .csv]
    loadFiles := [loadFile cfg "dump1.parquet", loadFile cfg "dump2.csv"]
    finish := .commit }

/-- Refuses a scenario that lacks something. -/
def validate (s : Scenario) : Except Error Unit :=
  if s.dumpFormats.isEmpty then
    .error (.config "scenario needs at least one dump" (some "dump_formats"))
  else if s.loadFiles.isEmpty then
    .error (.config "scenario needs at least one load file" (some "load_files"))
  else if s.table.isEmpty then
    .error (.config "scenario table is empty" (some "table"))
  else .ok ()

/-- The commands of a scenario, in order. -/
def commands (s : Scenario) : List Command :=
  [.begin s.begin, .checkStatus] ++ s.dumpFormats.map (.dump s.table ·) ++ [.downloadAll] ++
    s.loadFiles.map (.load s.table ·) ++ [.finish s.finish]

end Scenario

end TransactionHarness
