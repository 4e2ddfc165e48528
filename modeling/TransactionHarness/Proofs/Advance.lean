import TransactionHarness.Proofs.Places
import TransactionHarness.Proofs.Reply
/-!
# Commands that succeed

What a successful command makes of a run. `Config.Performs` says how a command can go, in terms of
the texts that the service has sent; `Lifecycle.Advances` says what a run is after it, in terms of
the typed values that were read from those texts, with all that the contracts assure of them. The
texts are gone from there on.

* `Config.Performs.advances`: a command that succeeds advances the run.
* `Config.Arrives`: commands in order, each of which has advanced the run, from the start.
* `Config.Drives.arrives`: a course of commands without a failure.

`Arrives` grows at its end, as the lists in a record do, so that an invariant of it is proved by
looking at the last command only.
-/

namespace TransactionHarness

/-! ### Sessions and files -/

/-- An identifier is set exactly where there is none. -/
theorem Session.setId_eq_ok_iff {s s' : Session} {id : TransactionId} :
    s.setId id = .ok s' ↔ s.transactionId? = none ∧ s' = { s with transactionId? := some id } := by
  unfold setId
  rcases s.transactionId? with - | present
  · simp [eq_comm]
  · simp

/-- A file is kept in the directory, under the last segment of its path. -/
theorem Artifact.eq_of_localPath {directory path place : String}
    (h : localPath directory path = .ok place) :
    place = String.ofList (Path.join directory.toList (lastSegment path.toList)) := by
  obtain ⟨name, -, hends, hplace⟩ := localPath_eq_ok_iff.1 h
  rw [hplace, hends.lastSegment_eq]

theorem UploadPath.fileName_eq_ok_iff {file : UploadPath} {name : String} :
    file.fileName = .ok name ↔ file.fileName? = some name := by
  unfold fileName
  cases file.fileName? <;> simp

namespace Lifecycle

/-- The run after the downloads of some files. -/
def afterFetches (l : Lifecycle) (downloads : List Download) : Lifecycle :=
  { l with
    session := { l.session with files := l.session.files ++ downloads.map Download.localPath }
    record := { l.record with downloads := l.record.downloads ++ downloads } }

@[simp] theorem afterFetches_nil (l : Lifecycle) : l.afterFetches [] = l := by
  simp [afterFetches]

theorem afterFetches_cons (l : Lifecycle) (d : Download) (ds : List Download) :
    l.afterFetches (d :: ds) = (l.afterFetch d).afterFetches ds := by
  simp [afterFetches, afterFetch, Session.recordFile]

/-- What a successful command makes of a run. -/
inductive Advances (cfg : Config) (l : Lifecycle) : Command → Lifecycle → Prop where
  | begin {request : BeginRequest} {transaction : Transaction} (state : l.state = .initial)
      (fresh : l.session.transactionId? = none) (isOpen : transaction.IsOpen request.type) :
      Advances cfg l (.begin request)
        { state := .begun transaction.id
          session := { l.session with transactionId? := some transaction.id }
          record := { l.record with begun := some transaction }
          type := request.type }
  | checkStatus {id : TransactionId} {transaction : Transaction} (state : l.state = .begun id)
      (isOpen : transaction.IsOpen l.type) (same : transaction.id = id) :
      Advances cfg l .checkStatus (l.afterStatus id transaction)
  | dump {id : TransactionId} {table : String} {format? : Option DumpFormat} {result : DumpResult}
      (state : l.state = .statusChecked id ∨ l.state = .dumped id)
      (fits : result.Fits id table (format?.getD .standard)) :
      Advances cfg l (.dump table format?) (l.afterDump id result)
  | downloadAll {id : TransactionId} {downloads : List Download} (state : l.state = .dumped id)
      (paths : downloads.map Download.serverPath = l.session.downloadPaths)
      (places : ∀ d ∈ downloads,
        Artifact.localPath cfg.downloadDir d.serverPath = .ok d.localPath) :
      Advances cfg l .downloadAll ((l.afterFetches downloads).afterDownloads id)
  | load {id : TransactionId} {table name : String} {file : UploadPath} {result : LoadResult}
      (state : l.state = .downloaded id ∨ l.state = .loaded id)
      (named : file.fileName? = some name) (fits : result.Fits id table name) :
      Advances cfg l (.load table file) (l.afterLoad id result)
  | finish {id : TransactionId} {how : Finish} {transaction : Transaction}
      (state : l.state = .loaded id) (isFinished : transaction.IsFinished l.type id how) :
      Advances cfg l (.finish how) (l.afterFinish id how transaction)

end Lifecycle

namespace Config

variable {cfg : Config}

/-- The commands, each of which succeeds, lead from the start to the run. -/
inductive Arrives (cfg : Config) : List Command → Lifecycle → Prop where
  | start : Arrives cfg [] {}
  | step {commands : List Command} {command : Command} {l l' : Lifecycle}
      (arrives : Arrives cfg commands l) (advances : l.Advances cfg command l') :
      Arrives cfg (commands ++ [command]) l'

/-- A request whose reply is accepted advances the run. -/
theorem advances_of_sends {l l' : Lifecycle} {command : Command} {request : Request}
    {receive : String → Except Error Lifecycle} {text : String}
    (sends : l.Sends cfg command request receive) (accepted : receive text = .ok l') :
    l.Advances cfg command l' := by
  cases sends with
  | begin request state =>
    obtain ⟨transaction, hreceive, hafter⟩ := bind_eq_ok_iff.1 accepted
    -- the only command whose reply can still be refused once it has been read
    obtain ⟨session, hset, hl'⟩ := bind_eq_ok_iff.1 hafter
    obtain ⟨hfresh, rfl⟩ := Session.setId_eq_ok_iff.1 hset
    cases Except.ok.inj hl'
    exact .begin state hfresh (Contract.isOpen_of_receive_begin hreceive)
  | checkStatus state =>
    obtain ⟨transaction, hreceive, rfl⟩ := map_eq_ok_iff.1 accepted
    obtain ⟨hopen, hid⟩ := Contract.isOpen_of_receive_status hreceive
    exact .checkStatus state hopen hid
  | dump table format? state =>
    obtain ⟨result, hreceive, rfl⟩ := map_eq_ok_iff.1 accepted
    exact .dump state (Contract.fits_of_receive_dump hreceive)
  | load table file state named =>
    obtain ⟨result, hreceive, rfl⟩ := map_eq_ok_iff.1 accepted
    exact .load state (UploadPath.fileName_eq_ok_iff.1 named)
      (Contract.fits_of_receive_load hreceive)
  | finish how state =>
    obtain ⟨transaction, hreceive, rfl⟩ := map_eq_ok_iff.1 accepted
    exact .finish state (Contract.isFinished_of_receive_finish hreceive)

/-- Downloads that succeed are recorded, one for each path, with the places that belong to the
paths. -/
theorem Fetches.afterFetches {token : String} {l : Lifecycle} {paths : List String}
    {h : List Event} {r : Except Error Lifecycle} (fetches : cfg.Fetches token l paths h r) :
    ∀ l', r = .ok l' → ∃ downloads : List Download, l' = l.afterFetches downloads ∧
      downloads.map Download.serverPath = paths ∧
      ∀ d ∈ downloads, Artifact.localPath cfg.downloadDir d.serverPath = .ok d.localPath := by
  induction fetches with
  | done l => exact fun l' hl' ↦ ⟨[], by simp [Except.ok.inj hl'], rfl, by simp⟩
  | unnamed | failed | refused => rintro _ ⟨⟩
  | @next l path place paths outcome h r named success rest ih =>
    intro l' hl'
    obtain ⟨downloads, rfl, hpaths, hplaces⟩ := ih l' hl'
    refine ⟨⟨path, place, outcome.bytes⟩ :: downloads, (l.afterFetches_cons _ _).symm, ?_, ?_⟩
    · rw [List.map_cons, hpaths]
    · exact List.forall_mem_cons.2 ⟨named, hplaces⟩

/-- A command that succeeds advances the run. -/
theorem Performs.advances {l l' : Lifecycle} {kept kept' : Option AccessToken} {command : Command}
    {h : List Event} (performs : cfg.Performs l kept command h (.ok l') kept') :
    l.Advances cfg command l' := by
  cases performs with
  | call sends calls =>
    cases calls with
    | answered _ outcome =>
      obtain ⟨text, -, haccepted⟩ := bind_eq_ok_iff.1 outcome
      exact advances_of_sends sends haccepted
  | downloads state _ fetches outcome =>
    obtain ⟨fetched, rfl, rfl⟩ := map_eq_ok_iff.1 outcome
    obtain ⟨downloads, rfl, hpaths, hplaces⟩ := fetches.afterFetches fetched rfl
    exact .downloadAll state hpaths hplaces

/-- A course of commands without a failure leads from where the run is to where it ends. -/
theorem Drives.arrives {l : Lifecycle} {kept kept' : Option AccessToken}
    {commands before : List Command} {h : List Event} {r : Except Error Lifecycle}
    (drives : cfg.Drives l kept commands h r kept') (arrives : cfg.Arrives before l) :
    ∀ l', r = .ok l' → cfg.Arrives (before ++ commands) l' := by
  induction drives generalizing before with
  | done l => exact fun l' hl' ↦ by rwa [List.append_nil, ← Except.ok.inj hl']
  | refused | failed => rintro _ ⟨⟩
  | next performs _ ih =>
    intro l' hl'
    have hnext := ih (arrives.step performs.advances) l' hl'
    rwa [List.append_assoc] at hnext

end Config

end TransactionHarness
