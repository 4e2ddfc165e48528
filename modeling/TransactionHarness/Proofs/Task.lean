import TransactionHarness.Proofs.Advance
/-!
# Tasks

The requests that a scenario should send, in order, make up its plan. The plan depends on replies:
on the identifier in the reply to begin, and on the paths in the replies to the dumps. A `Task` is
one request of a plan together with what it has to be answered for the run to go on.

* `Task.sent`, `Task.Accepts`: what a task sends, and which answers it accepts.
* `Task.Rejects`: which error a reply is rejected with. There is one for each reply that is not
  accepted (`Task.rejects_of_receive`), and it names the step of the task.
* `Task.fault?`: why a task cannot be sent.
* `Scenario.plan`: the plan of a scenario, for an identifier and for the paths of each dump.
-/

namespace TransactionHarness

/-- The same without the token. -/
def Sent.bare : Sent → Sent
  | execute request => execute { request with bearer? := none }
  | download request place => download { request with bearer? := none } place

/-- A request of a plan, and what its answer has to say. -/
inductive Task where
  /-- The reply gives the transaction its identifier. -/
  | begin (request : BeginRequest) (id : TransactionId)
  | checkStatus (type : TransactionType) (id : TransactionId)
  /-- The reply makes the paths available. -/
  | dump (table : String) (id : TransactionId) (format? : Option DumpFormat) (paths : List String)
  | fetch (path : String)
  | load (table : String) (id : TransactionId) (file : UploadPath)
  | finish (type : TransactionType) (id : TransactionId) (how : Finish)

namespace Task

/-- What the task sends. -/
def sent (cfg : Config) : Task → Sent
  | begin request _ =>
    .execute
      { method := .post
        url := cfg.endpoint "/transaction/begin"
        body := .json request.toJson }
  | checkStatus _ id =>
    .execute { method := .get, url := cfg.endpoint ("/transaction/status/" ++ id) }
  | dump table id none _ =>
    .execute { method := .post, url := cfg.endpoint ("/transaction/dump/" ++ id ++ "/" ++ table) }
  | dump table id (some format) _ =>
    .execute
      { method := .post
        url := cfg.endpoint ("/transaction/dump/" ++ id ++ "/" ++ table)
        body := .json (.obj [("format", .str format.name)]) }
  | fetch path =>
    .download { method := .get, url := cfg.endpoint ("/download/" ++ Artifact.segment path) }
      (String.ofList (Path.join cfg.downloadDir.toList (Artifact.lastSegment path.toList)))
  | load table id file =>
    .execute
      { method := .post
        url := cfg.endpoint ("/transaction/load/" ++ id ++ "/" ++ table)
        body := .multipart "file" file }
  | finish _ id how =>
    .execute { method := .post, url := cfg.endpoint ("/transaction/" ++ how.name ++ "/" ++ id) }

/-- The event is an answer with which the task is done: the service has sent a reply that can be
read, that the contract of the step accepts and that has the expected values in it, or has let the
file be downloaded. -/
def Accepts : Task → Event → Prop
  | begin request id, .answered _ (.ok text) => ∃ transaction,
    (Contract.begin request.type).receive Transaction.ofJson .begin text = .ok transaction ∧
      transaction.id = id
  | checkStatus type id, .answered _ (.ok text) => ∃ transaction,
    (Contract.status type id).receive Transaction.ofJson .status text = .ok transaction
  | dump table id format? paths, .answered _ (.ok text) => ∃ result,
    (Contract.dump id table (format?.getD .standard)).receive DumpResult.ofJson
        (.dump (format?.getD .standard)) text = .ok result ∧
      result.downloadPaths = paths
  | fetch _, .fetched _ _ (.ok outcome) => outcome.isSuccess = true
  | load table id file, .answered _ (.ok text) => ∃ name result, file.fileName = .ok name ∧
    (Contract.load id table name).receive LoadResult.ofJson .load text = .ok result
  | finish type id how, .answered _ (.ok text) => ∃ transaction,
    (Contract.finish type id how).receive Transaction.ofJson (.finish how) text = .ok transaction
  | _, _ => False

end Task

/-- What a scenario should send, when begin is answered with the identifier and the dumps are
answered with these lists of paths. -/
def Scenario.plan (scenario : Scenario) (id : TransactionId) (lists : List (List String)) :
    List Task :=
  [.begin scenario.begin id, .checkStatus scenario.begin.type id] ++
    List.zipWith (.dump scenario.table id) scenario.dumpFormats lists ++
    lists.flatten.map .fetch ++
    scenario.loadFiles.map (.load scenario.table id) ++
    [.finish scenario.begin.type id scenario.finish]

/-! ### Replies that are rejected -/

namespace Task

/-- The step that the task belongs to. -/
def step : Task → Step
  | begin _ _ => .begin
  | checkStatus _ _ => .status
  | dump _ _ format? _ => .dump (format?.getD .standard)
  | fetch _ => .download
  | load _ _ _ => .load
  | finish _ _ how => .finish how

theorem step_ne_auth (task : Task) : task.step ≠ .auth := by
  cases task <;> exact Step.noConfusion

/-- What the contract for the reply is made from. There is none for a download, and none for a file
without a name. -/
def terms? : Task → Option Contract.Terms
  | begin request _ => some (.begin request.type)
  | checkStatus type id => some (.status type id)
  | dump table id format? _ => some (.dump id table (format?.getD .standard))
  | fetch _ => none
  | load table id file => file.fileName?.map (.load id table)
  | finish type id how => some (.finish type id how)

theorem step_of_terms {task : Task} {terms : Contract.Terms} (h : task.terms? = some terms) :
    terms.contract.step = task.step := by
  cases task with
  | begin | checkStatus | dump | finish =>
    cases h
    rfl
  | fetch => cases h
  | load =>
    obtain ⟨name, -, rfl⟩ := Option.map_eq_some_iff.1 h
    rfl

/-- The answer is a reply to the task that is rejected with the error. -/
inductive Rejects (task : Task) : Event → Error → Prop where
  /-- The text is no response with a body. -/
  | unreadable {terms : Contract.Terms} {request : Request} {text : String}
      {fault : Response.Fault} (replies : task.terms? = some terms)
      (unreadable : Response.read text.toList = .error fault) :
      Rejects task (.answered request (.ok text)) (.malformedResponse task.step fault.reason)
  /-- The contract does not accept the response. -/
  | refused {terms : Contract.Terms} {request : Request} {text : String} {response : Response}
      {expected actual : String} (replies : task.terms? = some terms)
      (read : Response.read text.toList = .ok response)
      (refused : terms.contract.verify response.headers response.body =
        .error (.verification task.step expected actual)) :
      Rejects task (.answered request (.ok text)) (.verification task.step expected actual)
  /-- The contract accepts the response, but its body is not a typed value. -/
  | mistyped {terms : Contract.Terms} {request : Request} {text : String} {response : Response}
      {misfit : Json.Misfit} (replies : task.terms? = some terms)
      (read : Response.read text.toList = .ok response)
      (accepted : terms.contract.verify response.headers response.body = .ok ())
      (mistyped : terms.decode response.body = .error misfit) :
      Rejects task (.answered request (.ok text))
        (.malformedResponse task.step ("unexpected body structure: " ++ misfit.message))
  /-- The service does not let the file be downloaded. -/
  | undelivered {path place : String} {request : Request} {outcome : DownloadOutcome}
      (download : task = .fetch path) (failure : outcome.isSuccess = false) :
      Rejects task (.fetched request place (.ok outcome))
        (.verification task.step ("2xx status for '" ++ path ++ "'") (toString outcome.status))

theorem Rejects.step? {task : Task} {e : Event} {error : Error} (rejects : task.Rejects e error) :
    error.step? = some task.step := by
  cases rejects <;> rfl

end Task

/-- A contract refuses a reply in the name of its step. -/
theorem Contract.exists_of_verify {contract : Contract} {headers : List String} {body : Json}
    {e : Error} (refused : contract.verify headers body = .error e) :
    ∃ expected actual, e = .verification contract.step expected actual := by
  unfold verify at refused
  split at refused
  · exact ⟨_, _, (Except.error.inj refused).symm⟩
  split at refused
  · cases refused
  split at refused
  · cases refused
  · exact ⟨_, _, (Except.error.inj refused).symm⟩

/-- A reply that gives no typed value is rejected. -/
theorem Task.rejects_of_receive {task : Task} {terms : Contract.Terms} {text : String} {e : Error}
    (replies : task.terms? = some terms) (request : Request)
    (rejected : terms.contract.receive terms.decode task.step text = .error e) :
    task.Rejects (.answered request (.ok text)) e := by
  unfold Contract.receive Response.parse at rejected
  rcases hread : Response.read text.toList with fault | response
  · simp only [hread, error_bind] at rejected
    exact Except.error.inj rejected ▸ .unreadable replies hread
  simp only [hread, ok_bind] at rejected
  rcases hverify : terms.contract.verify response.headers response.body with e' | ⟨⟩
  · rw [hverify, error_bind] at rejected
    obtain ⟨expected, actual, rfl⟩ := Contract.exists_of_verify hverify
    rw [step_of_terms replies] at hverify rejected
    exact Except.error.inj rejected ▸ .refused replies hread hverify
  · rw [hverify, ok_bind] at rejected
    obtain ⟨misfit, hdecode, rfl⟩ := Response.bodyAs_eq_error_iff.1 rejected
    exact .mistyped replies hread hverify hdecode

namespace Task

variable {task : Task} {request : Request} {text : String} {e : Event} {error : Error}

/-- No typed value is received from a reply that is rejected. -/
theorem Rejects.exists_receive (rejects : task.Rejects (.answered request (.ok text)) error) :
    ∃ terms, task.terms? = some terms ∧
      terms.contract.receive terms.decode task.step text = .error error := by
  cases rejects with
  | unreadable replies unreadable =>
    refine ⟨_, replies, ?_⟩
    simp only [Contract.receive, Response.parse, unreadable, error_bind]
  | refused replies read refused =>
    refine ⟨_, replies, ?_⟩
    simp only [Contract.receive, Response.parse, read, ok_bind, refused, error_bind]
  | mistyped replies read accepted mistyped =>
    refine ⟨_, replies, ?_⟩
    simp only [Contract.receive, Response.parse, read, ok_bind, accepted]
    exact Response.bodyAs_eq_error_iff.2 ⟨_, mistyped, rfl⟩

/-- The typed value is received from a reply that is accepted. -/
theorem exists_receive_of_accepts {terms : Contract.Terms}
    (accepts : task.Accepts (.answered request (.ok text))) (replies : task.terms? = some terms) :
    ∃ x, terms.contract.receive terms.decode task.step text = .ok x := by
  cases task with
  | begin | dump =>
    cases replies
    obtain ⟨x, hreceive, -⟩ := accepts
    exact ⟨x, hreceive⟩
  | checkStatus | finish =>
    cases replies
    exact accepts
  | fetch => cases replies
  | load table id file =>
    obtain ⟨name, x, hnamed, hreceive⟩ := accepts
    rw [terms?, UploadPath.fileName_eq_ok_iff.1 hnamed] at replies
    cases replies
    exact ⟨x, hreceive⟩

/-- No answer is both accepted and rejected. -/
theorem Rejects.not_accepts (rejects : task.Rejects e error) : ¬ task.Accepts e := by
  intro accepts
  cases e with
  | answered request answer =>
    rcases answer with lost | text
    · cases rejects
    · obtain ⟨terms, hreplies, hrejected⟩ := rejects.exists_receive
      obtain ⟨x, haccepted⟩ := exists_receive_of_accepts accepts hreplies
      rw [hrejected] at haccepted
      cases haccepted
  | fetched =>
    cases rejects with
    | undelivered download failure =>
      subst download
      exact Bool.false_ne_true (failure.symm.trans accepts)
  | clock => cases rejects

/-- There is one error for an answer that is rejected. -/
theorem Rejects.unique {error' : Error} (rejects : task.Rejects e error)
    (rejects' : task.Rejects e error') : error = error' := by
  cases e with
  | answered request answer =>
    rcases answer with lost | text
    · cases rejects
    · obtain ⟨terms, hreplies, hrejected⟩ := rejects.exists_receive
      obtain ⟨terms', hreplies', hrejected'⟩ := rejects'.exists_receive
      obtain rfl := Option.some.inj (hreplies.symm.trans hreplies')
      exact Except.error.inj (hrejected.symm.trans hrejected')
  | fetched =>
    cases rejects with
    | undelivered download =>
      cases rejects' with
      | undelivered download' =>
        obtain rfl := Task.fetch.inj (download.symm.trans download')
        rfl
  | clock => cases rejects

end Task

/-! ### Tasks that cannot be sent -/

namespace Task

/-- Why the file to load cannot be sent, if it cannot. -/
def uploadFault? : Task → Option Error
  | load _ _ file => match file.fileName with
    | .error e => some e
    | .ok _ => none
  | _ => none

/-- Why the task cannot be sent, if it cannot: the file to load has no name, or the file to download
has no place. -/
def fault? (cfg : Config) : Task → Option Error
  | fetch path => match Artifact.localPath cfg.downloadDir path with
    | .error e => some e
    | .ok _ => none
  | task => task.uploadFault?

/-- An upload that cannot be sent is a task that cannot be sent. -/
theorem fault?_of_uploadFault? {cfg : Config} {task : Task} {e : Error}
    (fault : task.uploadFault? = some e) : task.fault? cfg = some e := by
  cases task with
  | fetch => cases fault
  | begin | checkStatus | dump | load | finish => exact fault

/-- A task that can be sent is no upload that cannot. -/
theorem uploadFault?_of_fault? {cfg : Config} {task : Task} (usable : task.fault? cfg = none) :
    task.uploadFault? = none := by
  cases task with
  | fetch => rfl
  | begin | checkStatus | dump | load | finish => exact usable

end Task

end TransactionHarness
