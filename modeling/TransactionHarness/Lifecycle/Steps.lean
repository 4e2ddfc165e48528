import TransactionHarness.Contract
import TransactionHarness.Lifecycle.Basic
import TransactionHarness.Path.Artifact
import TransactionHarness.Token.Provider
import TransactionHarness.Transaction.Codec
/-!
# The steps of a run

Each step obtains a token, sends its request, reads the response, holds it against the contract of
the step, and only then changes the run. Nothing is tried twice. Downloads share one token among all
files and have no contract but success.

`perform` carries out a command where the state of the run allows it; `drive` carries out several.
-/

namespace TransactionHarness

/-! ### Requests -/

namespace Config

/-- The request that begins a transaction. -/
def beginRequest (cfg : Config) (request : BeginRequest) : Request :=
  (Request.post (cfg.endpoint "/transaction/begin")).withJson request.toJson

/-- The request for the status of a transaction. -/
def statusRequest (cfg : Config) (id : TransactionId) : Request :=
  Request.get (cfg.endpoint ("/transaction/status/" ++ id))

/-- The request to dump a table. Without a format it has no body. -/
def dumpRequest (cfg : Config) (id : TransactionId) (table : String) (format? : Option DumpFormat) :
    Request :=
  let request := Request.post (cfg.endpoint ("/transaction/dump/" ++ id ++ "/" ++ table))
  match format? with
  | some format => request.withJson (DumpRequest.mk format).toJson
  | none => request

/-- The request for a dumped file. -/
def downloadRequest (cfg : Config) (path : String) : Request :=
  Request.get (cfg.endpoint ("/download/" ++ Artifact.segment path))

/-- The form field in which a file is uploaded. -/
def uploadField : String := "file"

/-- The request to load a file into a table. -/
def loadRequest (cfg : Config) (id : TransactionId) (table : String) (file : UploadPath) :
    Request :=
  let request := Request.post (cfg.endpoint ("/transaction/load/" ++ id ++ "/" ++ table))
  request.withFile uploadField file

/-- The request that finishes a transaction. -/
def finishRequest (cfg : Config) (id : TransactionId) (how : Finish) : Request :=
  Request.post (cfg.endpoint ("/transaction/" ++ how.name ++ "/" ++ id))

end Config

namespace Context

variable {σ : Type}

/-- Sends the request of a step with a token and gives the response, if the contract accepts it. -/
def call (ctx : Context σ) (step : Step) (request : Request) (contract : Contract) :
    Action σ Response := do
  let token ← ctx.ensureToken
  let text ← ctx.execute (request.withBearer token)
  let response ← Action.of (Response.parse step text)
  Action.of (contract.verify response.headers response.body)
  return response

/-- Sends the request of a step and gives the typed value in the response. -/
def callAs {α : Type} (ctx : Context σ) (decode : Json.Decoder α) (step : Step) (request : Request)
    (contract : Contract) : Action σ α := do
  let response ← ctx.call step request contract
  Action.of (response.bodyAs decode step)

/-! ### Steps -/

/-- Begins a transaction. -/
def begin (ctx : Context σ) (request : BeginRequest) (l : Lifecycle) : Action σ Lifecycle := do
  let transaction ← ctx.callAs Transaction.ofJson .begin (ctx.config.beginRequest request)
    (.begin request.type)
  let session ← Action.of (l.session.setId transaction.id)
  return { state := .begun transaction.id
           session
           record := { l.record with begun := some transaction }
           type := request.type }

/-- Checks that the transaction is still open. -/
def checkStatus (ctx : Context σ) (id : TransactionId) (l : Lifecycle) : Action σ Lifecycle := do
  let transaction ← ctx.callAs Transaction.ofJson .status (ctx.config.statusRequest id)
    (.status l.type id)
  return { l with
           state := .statusChecked id
           record := { l.record with status := some transaction } }

/-- Dumps a table. -/
def dump (ctx : Context σ) (id : TransactionId) (table : String) (format? : Option DumpFormat)
    (l : Lifecycle) : Action σ Lifecycle := do
  let format := format?.getD .standard
  let result ← ctx.callAs DumpResult.ofJson (.dump format) (ctx.config.dumpRequest id table format?)
    (.dump id table format)
  return { l with
           state := .dumped id
           session := l.session.extendPaths result.downloadPaths
           record := { l.record with dumps := l.record.dumps ++ [result] } }

/-- Downloads one file with a token. -/
def downloadOne (ctx : Context σ) (token : String) (l : Lifecycle) (path : String) :
    Action σ Lifecycle := do
  let place ← Action.of (Artifact.localPath ctx.config.downloadDir path)
  let outcome ← ctx.download ((ctx.config.downloadRequest path).withBearer token) place
  if outcome.isSuccess then
    return { l with
             session := l.session.recordFile place
             record := { l.record with
                         downloads := l.record.downloads ++ [⟨path, place, outcome.bytes⟩] } }
  else
    throw (.verification .download ("2xx status for '" ++ path ++ "'") (toString outcome.status))

/-- Downloads the files of all dumps. -/
def downloadAll (ctx : Context σ) (id : TransactionId) (l : Lifecycle) : Action σ Lifecycle := do
  let token ← ctx.ensureToken
  let l ← l.session.downloadPaths.foldlM (ctx.downloadOne token) l
  return { l with state := .downloaded id }

/-- Loads a file into a table. -/
def load (ctx : Context σ) (id : TransactionId) (table : String) (file : UploadPath)
    (l : Lifecycle) : Action σ Lifecycle := do
  let name ← Action.of file.fileName
  let result ← ctx.callAs LoadResult.ofJson .load (ctx.config.loadRequest id table file)
    (.load id table name)
  return { l with
           state := .loaded id
           record := { l.record with loads := l.record.loads ++ [result] } }

/-- Finishes the transaction. -/
def finish (ctx : Context σ) (id : TransactionId) (how : Finish) (l : Lifecycle) :
    Action σ Lifecycle := do
  let transaction ← ctx.callAs Transaction.ofJson (.finish how) (ctx.config.finishRequest id how)
    (.finish l.type id how)
  return { l with
           state := .finished how id
           record := { l.record with finished := some transaction } }

/-! ### Commands -/

/-- Carries out a command, if the state of the run allows it. -/
def perform (ctx : Context σ) (command : Command) (l : Lifecycle) : Option (Action σ Lifecycle) :=
  match command, l.state with
  | .begin request, .initial => some (ctx.begin request l)
  | .checkStatus, .begun id => some (ctx.checkStatus id l)
  | .dump table format?, .statusChecked id => some (ctx.dump id table format? l)
  | .dump table format?, .dumped id => some (ctx.dump id table format? l)
  | .downloadAll, .dumped id => some (ctx.downloadAll id l)
  | .load table file, .downloaded id => some (ctx.load id table file l)
  | .load table file, .loaded id => some (ctx.load id table file l)
  | .finish how, .loaded id => some (ctx.finish id how l)
  | _, _ => none

/-- Carries out commands in order. A command that the state does not allow ends the run. -/
def drive (ctx : Context σ) : List Command → Lifecycle → Action σ Lifecycle
  | [], l => pure l
  | command :: rest, l =>
    match ctx.perform command l with
    | some act => act >>= ctx.drive rest
    | none => throw (.invalidState "the run does not allow this step")

end Context

end TransactionHarness
