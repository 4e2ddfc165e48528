import TransactionHarness.Proofs.Bearer
import TransactionHarness.Proofs.Reachable
import TransactionHarness.Proofs.Task
/-!
# Progress through a plan

A run goes through the tasks of its plan until one of them goes wrong, and how it goes wrong is the
error that the run ends with: the task cannot be sent, no token can be obtained for it, its request
is lost, or its reply is rejected.

* `Proceeds`: a history that goes through tasks up to an error, with one constructor for each way in
  which a task can go wrong.
* `Config.Drives.proceeds_plan`: the commands of a valid scenario proceed through its plan.

`Proceeds` is composed backwards along the commands: what is left of a plan is gone through from
whatever the run has become (`Config.Drives.proceeds_loads` and its siblings).
-/

namespace TransactionHarness

variable {α : Type}

/-- The error that an outcome is, if it is one. -/
def failure? : Except Error α → Option Error
  | .ok _ => none
  | .error e => some e

theorem failure?_eq_some_iff {r : Except Error α} {e : Error} :
    failure? r = some e ↔ r = .error e := by
  cases r <;> simp [failure?]

theorem isNone_failure? (r : Except Error α) : (failure? r).isNone = r.isOk := by
  cases r <;> rfl

/-- The error that an answer is, if it is one: the request was lost. -/
def Event.failure? : Event → Option Error
  | answered _ answer => TransactionHarness.failure? answer
  | fetched _ _ answer => TransactionHarness.failure? answer
  | clock _ => none

/-- The event is the request of the task, which can be sent. -/
structure Task.IsSentAs (cfg : Config) (task : Task) (e : Event) : Prop where
  step : cfg.isStep e = true
  sent : e.sent?.map Sent.bare = some (task.sent cfg)
  usable : task.fault? cfg = none

/-- With the answer, the task is done or has failed, as the outcome says. -/
def Task.Settles (task : Task) (e : Event) : Except Error Lifecycle → Prop
  | .ok _ => task.Accepts e
  | .error error => task.Rejects e error

/-- The event is one on the way to a token: it is not the end, and a refresh that fails has a login
behind it. -/
inductive Event.IsAside (cfg : Config) : Event → List Event → Prop where
  | clock (now : Instant) (later : List Event) : IsAside cfg (.clock now) later
  | login {answer : Except Error String} {token : AccessToken} (later : List Event)
      (reply : AccessToken.ofReceived answer = .ok token) :
      IsAside cfg (.answered cfg.loginRequest answer) later
  | refresh {refreshToken : String} {answer : Except Error String} {token : AccessToken}
      (later : List Event) (reply : AccessToken.ofReceived answer = .ok token) :
      IsAside cfg (.answered (cfg.refreshRequest refreshToken) answer) later
  | replaced (refreshToken : String) (answer answer' : Except Error String) (later : List Event) :
      IsAside cfg (.answered (cfg.refreshRequest refreshToken) answer)
        (.answered cfg.loginRequest answer' :: later)

/-- The history goes through the tasks in order: through all of them, or up to the error. -/
inductive Proceeds (cfg : Config) : List Task → List Event → Option Error → Prop where
  | done : Proceeds cfg [] [] none
  /-- The next task cannot be sent. -/
  | unusable {task : Task} {tasks : List Task} {e : Error} (fault : task.fault? cfg = some e) :
      Proceeds cfg (task :: tasks) [] (some e)
  /-- In front of a task, tokens are obtained, but not in front of an upload that cannot be sent. -/
  | aside {task : Task} {tasks : List Task} {e : Event} {h : List Event} {error? : Option Error}
      (usable : task.uploadFault? = none) (aside : e.IsAside cfg h)
      (rest : Proceeds cfg (task :: tasks) h error?) : Proceeds cfg (task :: tasks) (e :: h) error?
  /-- There is no token for the next task. -/
  | noToken {task : Task} {tasks : List Task} {answer : Except Error String} {e : Error}
      (usable : task.uploadFault? = none) (refused : AccessToken.ofReceived answer = .error e) :
      Proceeds cfg (task :: tasks) [.answered cfg.loginRequest answer] (some e)
  | lost {task : Task} {tasks : List Task} {e : Event} {error : Error} (sent : task.IsSentAs cfg e)
      (lost : e.failure? = some error) : Proceeds cfg (task :: tasks) [e] (some error)
  | rejected {task : Task} {tasks : List Task} {e : Event} {error : Error}
      (sent : task.IsSentAs cfg e) (rejects : task.Rejects e error) :
      Proceeds cfg (task :: tasks) [e] (some error)
  | accepted {task : Task} {tasks : List Task} {e : Event} {h : List Event} {error? : Option Error}
      (sent : task.IsSentAs cfg e) (accepts : task.Accepts e)
      (rest : Proceeds cfg tasks h error?) : Proceeds cfg (task :: tasks) (e :: h) error?

namespace Event.IsAside

variable {cfg : Config} {e : Event} {later : List Event}

theorem isStep (aside : e.IsAside cfg later) : cfg.isStep e = false := by
  cases aside with
  | clock => rfl
  | login => exact cfg.isStep_login _
  | refresh | replaced => exact cfg.isStep_refresh _ _

theorem append (aside : e.IsAside cfg later) (more : List Event) :
    e.IsAside cfg (later ++ more) := by
  cases aside with
  | clock now => exact .clock now _
  | login _ reply => exact .login _ reply
  | refresh _ reply => exact .refresh _ reply
  | replaced refreshToken answer answer' => exact .replaced refreshToken answer answer' _

end Event.IsAside

namespace Proceeds

variable {cfg : Config} {task : Task} {tasks rest : List Task} {h h' : List Event} {e : Event}
  {error? : Option Error} {error : Error}

theorem append (first : Proceeds cfg tasks h none) (second : Proceeds cfg rest h' error?) :
    Proceeds cfg (tasks ++ rest) (h ++ h') error? := by
  -- the first part has no error, and the induction has to know
  generalize hnone : (none : Option Error) = first? at first
  induction first with
  | done => exact second
  | unusable | noToken | lost | rejected => cases hnone
  | aside usable aside _ ih => exact .aside usable (aside.append h') (ih hnone)
  | accepted sent accepts _ ih => exact .accepted sent accepts (ih hnone)

/-- A task whose answer settles it is all that is gone through. -/
theorem of_settles {r : Except Error Lifecycle} (sent : task.IsSentAs cfg e)
    (settles : task.Settles e r) : Proceeds cfg [task] [e] (failure? r) := by
  rcases r with error | l
  · exact .rejected sent settles
  · exact .accepted sent settles .done

/-- Tasks behind the one that goes wrong are not reached. -/
theorem weaken (first : Proceeds cfg tasks h (some error)) :
    Proceeds cfg (tasks ++ rest) h (some error) := by
  generalize hsome : some error = error? at first
  induction first with
  | done => cases hsome
  | unusable fault => exact .unusable fault
  | aside usable aside _ ih => exact .aside usable aside (ih hsome)
  | noToken usable refused => exact .noToken usable refused
  | lost sent lost => exact .lost sent lost
  | rejected sent rejects => exact .rejected sent rejects
  | accepted sent accepts _ ih => exact .accepted sent accepts (ih hsome)

end Proceeds

/-! ### Commands under way -/

/-- The run is in the transaction. -/
structure Lifecycle.Within (l : Lifecycle) (type : TransactionType) (id : TransactionId) :
    Prop where
  id : l.state.id? = some id
  type : l.type = type

/-- The state of the run has no other identifier. -/
theorem Lifecycle.Within.id_eq {l : Lifecycle} {type : TransactionType} {id id' : TransactionId}
    {state : State} (within : l.Within type id) (here : l.state = state)
    (known : state.id? = some id') : id' = id := by
  have hid := within.id
  rw [here, known] at hid
  exact Option.some.inj hid

/-- The state after the command, in the given transaction. -/
def Command.leadsTo (id : TransactionId) : Command → State
  | begin _ => .begun id
  | checkStatus => .statusChecked id
  | dump _ _ => .dumped id
  | downloadAll => .downloaded id
  | load _ _ => .loaded id
  | finish how => .finished how id

/-- A valid scenario has dumps and files to load. -/
theorem Scenario.ne_nil_of_validate {scenario : Scenario} (valid : scenario.validate = .ok ()) :
    scenario.dumpFormats ≠ [] ∧ scenario.loadFiles ≠ [] := by
  unfold validate at valid
  split at valid
  · cases valid
  split at valid
  · cases valid
  · next hformats hfiles =>
    exact ⟨fun h ↦ hformats (List.isEmpty_iff.2 h), fun h ↦ hfiles (List.isEmpty_iff.2 h)⟩

namespace Config

variable {cfg : Config} {l l' : Lifecycle} {type : TransactionType} {id : TransactionId}
  {kept kept' : Option AccessToken} {h h' : List Event} {r : Except Error Lifecycle}
  {task : Task} {tasks : List Task} {error? : Option Error}

theorem Performs.within {command : Command}
    (performs : cfg.Performs l kept command h (.ok l') kept') (within : l.Within type id) :
    l'.Within type id := by
  have hlater : l.state ≠ .initial := fun hinitial ↦ by
    have hid := within.id
    rw [hinitial] at hid
    cases hid
  obtain ⟨-, hid, -, htype⟩ := performs.advances.begun_eq hlater
  exact ⟨hid.trans within.id, htype.trans within.type⟩

/-- Which state a command leads to does not depend on where it comes from. -/
theorem Performs.state_eq {command : Command}
    (performs : cfg.Performs l kept command h (.ok l') kept') (within : l'.Within type id) :
    l'.state = command.leadsTo id := by
  cases performs.advances <;> exact congrArg _ (within.id_eq rfl rfl)

/-! ### Tokens for a task -/

/-- A token is obtained in front of the next task. -/
theorem Obtains.proceeds {token : AccessToken} (obtains : cfg.Obtains kept h (.ok token) kept')
    (usable : task.uploadFault? = none) (rest : Proceeds cfg (task :: tasks) h' error?) :
    Proceeds cfg (task :: tasks) (h ++ h') error? := by
  cases obtains with
  | perStep _ reply | absent _ _ reply => exact .aside usable (.login _ reply) rest
  | reused => exact .aside usable (.clock _ _) rest
  | unrefreshable _ _ _ _ reply =>
    exact .aside usable (.clock _ _) (.aside usable (.login _ reply) rest)
  | refreshed _ _ _ _ reply =>
    exact .aside usable (.clock _ _) (.aside usable (.refresh _ reply) rest)
  | replaced _ _ _ _ _ reply =>
    exact .aside usable (.clock _ _) (.aside usable (.replaced _ _ _ _)
      (.aside usable (.login _ reply) rest))

/-- Where there is no token, the last login was refused. -/
theorem Obtains.proceeds_noToken {e : Error} (obtains : cfg.Obtains kept h (.error e) kept')
    (usable : task.uploadFault? = none) : Proceeds cfg (task :: tasks) h (some e) := by
  cases obtains with
  | perStep _ reply | absent _ _ reply => exact .noToken usable reply
  | unrefreshable _ _ _ _ reply => exact .aside usable (.clock _ _) (.noToken usable reply)
  | replaced _ _ _ _ _ reply =>
    exact .aside usable (.clock _ _) (.aside usable (.replaced _ _ _ _) (.noToken usable reply))

/-! ### Steps proceed through their tasks -/

theorem isStep_withBearer {request : Request} (step : cfg.isTokenUrl request.url = false)
    (token : String) (answer : Except Error String) :
    cfg.isStep (.answered (request.withBearer token) answer) = true := by
  simp [isStep, Event.request?, Request.withBearer, step]

/-- A step with one request proceeds through its task, if the texts that settle the step settle the
task. -/
theorem Calls.proceeds {request : Request} {receive : String → Except Error Lifecycle}
    (calls : cfg.Calls kept request receive h r kept') (step : cfg.isTokenUrl request.url = false)
    (sent : Sent.bare (.execute request) = task.sent cfg) (usable : task.fault? cfg = none)
    (settles : ∀ request text, receive text = r → task.Settles (.answered request (.ok text)) r) :
    Proceeds cfg [task] h (failure? r) := by
  have husable := Task.uploadFault?_of_fault? usable
  cases calls with
  | noToken obtains => exact obtains.proceeds_noToken husable
  | @answered h token _ answer r obtains outcome =>
    refine obtains.proceeds husable ?_
    -- the token does not show in what a plan says
    have hsent : task.IsSentAs cfg (.answered (request.withBearer token.accessToken) answer) :=
      ⟨isStep_withBearer step _ _, congrArg some sent, usable⟩
    rcases answer with e | text
    · obtain rfl : r = .error e := outcome.symm
      exact .lost hsent rfl
    · exact .of_settles hsent (settles _ text outcome)

/-- What is made of the typed value does not decide what becomes of the task. -/
theorem settles_of_map (task : Task) (terms : Contract.Terms) {f : terms.Result → Lifecycle}
    {text : String} (replies : task.terms? = some terms)
    (accepts : ∀ a request, terms.contract.receive terms.decode task.step text = .ok a →
      r = .ok (f a) → task.Accepts (.answered request (.ok text)))
    (outcome : f <$> terms.contract.receive terms.decode task.step text = r) (request : Request) :
    task.Settles (.answered request (.ok text)) r := by
  rcases hreceive : terms.contract.receive terms.decode task.step text with e | a
  · obtain rfl : r = .error e := by rw [← outcome, hreceive]; rfl
    exact Task.rejects_of_receive replies request hreceive
  · obtain rfl : r = .ok (f a) := by rw [← outcome, hreceive]; rfl
    exact accepts a request hreceive rfl

theorem Performs.proceeds_checkStatus (performs : cfg.Performs l kept .checkStatus h r kept')
    (within : l.Within type id) : Proceeds cfg [.checkStatus type id] h (failure? r) := by
  cases performs with
  | call sends calls =>
    have hstep := cfg.isTokenUrl_of_sends sends
    cases sends with
    | checkStatus state =>
      obtain rfl := within.id_eq state rfl
      obtain rfl := within.type
      refine calls.proceeds hstep rfl rfl fun request text outcome ↦ ?_
      exact settles_of_map (.checkStatus l.type _) (.status l.type _) rfl (fun a _ h _ ↦ ⟨a, h⟩)
        outcome request

theorem Performs.proceeds_finish {how : Finish}
    (performs : cfg.Performs l kept (.finish how) h r kept') (within : l.Within type id) :
    Proceeds cfg [.finish type id how] h (failure? r) := by
  cases performs with
  | call sends calls =>
    have hstep := cfg.isTokenUrl_of_sends sends
    cases sends with
    | finish _ state =>
      obtain rfl := within.id_eq state rfl
      obtain rfl := within.type
      refine calls.proceeds hstep rfl rfl fun request text outcome ↦ ?_
      exact settles_of_map (.finish l.type _ how) (.finish l.type _ how) rfl (fun a _ h _ ↦ ⟨a, h⟩)
        outcome request

theorem Performs.proceeds_load {table : String} {file : UploadPath}
    (performs : cfg.Performs l kept (.load table file) h r kept') (within : l.Within type id) :
    Proceeds cfg [.load table id file] h (failure? r) := by
  cases performs with
  | nameless _ nameless =>
    refine .unusable ?_
    simp [Task.fault?, Task.uploadFault?, nameless]
  | call sends calls =>
    have hstep := cfg.isTokenUrl_of_sends sends
    cases sends with
    | @load id' _ _ name state named =>
      obtain rfl : id' = id := state.elim (within.id_eq · rfl) (within.id_eq · rfl)
      have husable : (Task.load table id' file).fault? cfg = none := by
        simp [Task.fault?, Task.uploadFault?, named]
      have hreplies : (Task.load table id' file).terms? = some (.load id' table name) := by
        rw [Task.terms?, UploadPath.fileName_eq_ok_iff.1 named]
        rfl
      refine calls.proceeds hstep rfl husable fun request text outcome ↦ ?_
      exact settles_of_map _ _ hreplies (fun a _ h _ ↦ ⟨name, a, named, h⟩) outcome request

/-- The reply to a dump that succeeds makes its paths available. -/
theorem Performs.proceeds_dump {table : String} {format? : Option DumpFormat}
    (performs : cfg.Performs l kept (.dump table format?) h r kept') (within : l.Within type id) :
    ∃ paths, Proceeds cfg [.dump table id format? paths] h (failure? r) ∧
      ∀ l', r = .ok l' →
        l'.session.downloadPaths = l.session.downloadPaths ++ paths ∧ paths ≠ [] := by
  have hsent (paths : List String) : Sent.bare (.execute (cfg.dumpRequest id table format?)) =
      Task.sent cfg (.dump table id format? paths) := by
    cases format? <;> rfl
  -- the paths are those in the reply, and any others if there is no accepted one
  have hpaths : ∃ paths, ∀ l', r = .ok l' →
      l'.session.downloadPaths = l.session.downloadPaths ++ paths ∧ paths ≠ [] := by
    rcases r with e | l'
    · refine ⟨[], ?_⟩
      rintro _ ⟨⟩
    · cases performs.advances with
      | @dump _ _ _ result _ fits =>
        exact ⟨result.downloadPaths, fun l' hl' ↦ Except.ok.inj hl' ▸ ⟨rfl, fits.paths⟩⟩
  obtain ⟨paths, hpaths⟩ := hpaths
  refine ⟨paths, ?_, hpaths⟩
  cases performs with
  | call sends calls =>
    have hstep := cfg.isTokenUrl_of_sends sends
    cases sends with
    | @dump id' _ _ state =>
      obtain rfl : id' = id := state.elim (within.id_eq · rfl) (within.id_eq · rfl)
      refine calls.proceeds hstep (hsent paths) rfl fun request text outcome ↦ ?_
      refine settles_of_map _ (.dump id' table (format?.getD .standard)) rfl ?_ outcome request
      intro result _ hreceive hr
      exact ⟨result, hreceive, List.append_cancel_left (hpaths _ hr).1⟩

/-- The reply to begin gives the identifier. -/
theorem Performs.proceeds_begin {request : BeginRequest}
    (performs : cfg.Performs {} kept (.begin request) h r kept') :
    ∃ id, Proceeds cfg [.begin request id] h (failure? r) ∧
      ∀ l', r = .ok l' → l'.state = .begun id ∧ l'.type = request.type ∧
        l'.session.downloadPaths = [] := by
  have hbegun : ∃ id, ∀ l', r = .ok l' → l'.state = .begun id ∧ l'.type = request.type ∧
      l'.session.downloadPaths = [] := by
    rcases r with e | l'
    · refine ⟨"", ?_⟩
      rintro _ ⟨⟩
    · cases performs.advances with
      | @begin _ transaction =>
        exact ⟨transaction.id, fun l' hl' ↦ Except.ok.inj hl' ▸ ⟨rfl, rfl, rfl⟩⟩
  obtain ⟨id, hbegun⟩ := hbegun
  refine ⟨id, ?_, hbegun⟩
  cases performs with
  | call sends calls =>
    have hstep := cfg.isTokenUrl_of_sends sends
    cases sends with
    | begin =>
      refine calls.proceeds hstep rfl rfl fun request' text outcome ↦ ?_
      rcases hreceive : (Contract.begin request.type).receive Transaction.ofJson .begin text with
        e | transaction
      · obtain rfl : r = .error e := by rw [← outcome, hreceive]; rfl
        have hreplies : (Task.begin request id).terms? = some (.begin request.type) := rfl
        exact Task.rejects_of_receive hreplies request' hreceive
      · -- at the start any identifier can be set
        rw [hreceive, ok_bind] at outcome
        subst outcome
        exact ⟨transaction, hreceive, State.begun.inj (hbegun _ rfl).1⟩

/-- The downloads proceed through their tasks. -/
theorem Fetches.proceeds {token : String} {paths : List String}
    (fetches : cfg.Fetches token l paths h r) :
    Proceeds cfg (paths.map .fetch) h (failure? r) := by
  have hsent {path place : String} (answer : Except Error DownloadOutcome)
      (named : Artifact.localPath cfg.downloadDir path = .ok place) :
      (Task.fetch path).IsSentAs cfg (.fetched (cfg.fetchRequest token path) place answer) := by
    refine ⟨by simp [isStep, Event.request?, isTokenUrl_fetchRequest], ?_,
      by simp [Task.fault?, named]⟩
    rw [Artifact.eq_of_localPath named]
    rfl
  induction fetches with
  | done => exact .done
  | unnamed nameless =>
    refine .unusable ?_
    simp [Task.fault?, nameless]
  | failed named => exact .lost (hsent _ named) rfl
  | refused named failure => exact .rejected (hsent _ named) (.undelivered rfl failure)
  | next named success _ ih => exact .accepted (hsent _ named) success ih

/-! ### Runs proceed through the plan -/

/-- Commands of which the first is allowed. -/
theorem Drives.performs {command : Command} {commands : List Command}
    (drives : cfg.Drives l kept (command :: commands) h r kept')
    (allowed : cfg.replaying.perform command l ≠ none) :
    (∃ e, r = .error e ∧ cfg.Performs l kept command h r kept') ∨
      ∃ h₁ h₂ l' kept₁, h = h₁ ++ h₂ ∧ cfg.Performs l kept command h₁ (.ok l') kept₁ ∧
        cfg.Drives l' kept₁ commands h₂ r kept' := by
  cases drives with
  | refused refused =>
    -- an allowed command takes its course in any world
    obtain ⟨act, hact⟩ := Option.ne_none_iff_exists'.1 allowed
    obtain ⟨h, r, y, -, hperforms⟩ :=
      cfg.replaying.exists_gives_perform hact { world := [], token? := kept }
    exact absurd hperforms (refused h r y.token?)
  | failed performs => exact .inl ⟨_, rfl, performs⟩
  | next performs drives => exact .inr ⟨_, _, _, _, rfl, performs, drives⟩

/-- A command with one task, and then the commands behind it with what is left of the plan. -/
theorem Drives.proceeds_cons {command : Command} {commands : List Command} {rest : List Task}
    (drives : cfg.Drives l kept (command :: commands) h r kept')
    (allowed : cfg.replaying.perform command l ≠ none)
    (first : ∀ h r kept', cfg.Performs l kept command h r kept' →
      Proceeds cfg [task] h (failure? r))
    (later : ∀ h l' kept₁ t, cfg.Performs l kept command h (.ok l') kept₁ →
      cfg.Drives l' kept₁ commands t r kept' → Proceeds cfg rest t (failure? r)) :
    Proceeds cfg (task :: rest) h (failure? r) := by
  rcases drives.performs allowed with ⟨e, rfl, performs⟩ | ⟨_, _, l', _, rfl, performs, drives⟩
  · exact (first _ _ _ performs).weaken
  · exact (first _ _ _ performs).append (later _ _ _ _ performs drives)

theorem Drives.proceeds_finish {how : Finish} (drives : cfg.Drives l kept [.finish how] h r kept')
    (within : l.Within type id) (state : l.state = .loaded id) :
    Proceeds cfg [.finish type id how] h (failure? r) := by
  refine drives.proceeds_cons (by simp [Context.perform, state])
    (fun _ _ _ performs ↦ performs.proceeds_finish within) ?_
  intro _ _ _ _ _ drives
  cases drives
  exact .done

theorem Drives.proceeds_loads {table : String} {files : List UploadPath} {how : Finish}
    (drives : cfg.Drives l kept (files.map (.load table) ++ [.finish how]) h r kept')
    (within : l.Within type id)
    (state : l.state = .loaded id ∨ l.state = .downloaded id ∧ files ≠ []) :
    Proceeds cfg (files.map (.load table id) ++ [.finish type id how]) h (failure? r) := by
  induction files generalizing l kept h with
  | nil => exact drives.proceeds_finish within (state.resolve_right fun h ↦ h.2 rfl)
  | cons file files ih =>
    have hallowed : cfg.replaying.perform (.load table file) l ≠ none := by
      rcases state with state | ⟨state, -⟩ <;> simp [Context.perform, state]
    refine drives.proceeds_cons hallowed (fun _ _ _ performs ↦ performs.proceeds_load within) ?_
    intro _ l' _ _ performs drives
    have hwithin := performs.within within
    exact ih drives hwithin (.inl (performs.state_eq hwithin))

theorem Drives.proceeds_downloads {table : String} {files : List UploadPath} {how : Finish}
    (drives : cfg.Drives l kept (.downloadAll :: (files.map (.load table) ++ [.finish how])) h r
      kept')
    (within : l.Within type id) (state : l.state = .dumped id)
    (paths_ne : l.session.downloadPaths ≠ []) (files_ne : files ≠ []) :
    Proceeds cfg (l.session.downloadPaths.map .fetch ++
      (files.map (.load table id) ++ [.finish type id how])) h (failure? r) := by
  obtain ⟨path, paths, hpaths⟩ := List.exists_cons_of_ne_nil paths_ne
  rcases drives.performs (by simp [Context.perform, state]) with
    ⟨e, rfl, performs⟩ | ⟨_, _, l', _, rfl, performs, drives⟩
  · cases performs with
    | call sends => cases sends
    | noToken _ obtains =>
      rw [hpaths]
      exact obtains.proceeds_noToken rfl
    | @downloads _ _ _ _ _ r' _ _ obtains fetches outcome =>
      rcases r' with e' | l'
      · obtain rfl : e' = e := Except.error.inj outcome
        have hfetches : Proceeds cfg (l.session.downloadPaths.map .fetch ++
            (files.map (.load table id) ++ [.finish type id how])) _ (some e') :=
          fetches.proceeds.weaken
        rw [hpaths] at hfetches ⊢
        exact obtains.proceeds rfl hfetches
      · cases outcome
  · have hwithin := performs.within within
    have hrest := drives.proceeds_loads hwithin (.inr ⟨performs.state_eq hwithin, files_ne⟩)
    cases performs with
    | call sends calls => cases sends
    | @downloads _ _ _ _ _ r' _ _ obtains fetches outcome =>
      rcases r' with e | l'
      · cases outcome
      · have hfetches := fetches.proceeds.append hrest
        rw [hpaths] at hfetches ⊢
        rw [List.append_assoc]
        exact obtains.proceeds rfl hfetches

/-- The lists of paths are those in the replies. Where a dump fails, any others will do. -/
theorem Drives.proceeds_dumps {table : String} {formats : List (Option DumpFormat)}
    {files : List UploadPath} {how : Finish}
    (drives : cfg.Drives l kept (formats.map (.dump table ·) ++
      .downloadAll :: (files.map (.load table) ++ [.finish how])) h r kept')
    (within : l.Within type id)
    (state : (l.state = .dumped id ∧ l.session.downloadPaths ≠ []) ∨
      l.state = .statusChecked id ∧ formats ≠ [])
    (files_ne : files ≠ []) :
    ∃ lists : List (List String), lists.length = formats.length ∧
      Proceeds cfg (List.zipWith (.dump table id) formats lists ++
        ((l.session.downloadPaths ++ lists.flatten).map .fetch ++
          (files.map (.load table id) ++ [.finish type id how]))) h (failure? r) := by
  induction formats generalizing l kept h with
  | nil =>
    refine ⟨[], rfl, ?_⟩
    obtain ⟨hstate, hpaths⟩ := state.resolve_right fun h ↦ h.2 rfl
    rw [List.flatten_nil, List.append_nil]
    exact drives.proceeds_downloads within hstate hpaths files_ne
  | cons format? formats ih =>
    have hallowed : cfg.replaying.perform (.dump table format?) l ≠ none := by
      rcases state with ⟨state, -⟩ | ⟨state, -⟩ <;> simp [Context.perform, state]
    rcases drives.performs hallowed with ⟨e, rfl, performs⟩ | ⟨_, _, l', _, rfl, performs, drives⟩
    · obtain ⟨paths, hproceeds, -⟩ := performs.proceeds_dump within
      exact ⟨paths :: List.replicate formats.length [], by simp, hproceeds.weaken⟩
    · obtain ⟨paths, hproceeds, hafter⟩ := performs.proceeds_dump within
      obtain ⟨hpaths, hne⟩ := hafter l' rfl
      have hwithin := performs.within within
      obtain ⟨lists, hlength, hrest⟩ :=
        ih drives hwithin (.inl ⟨performs.state_eq hwithin, by simp [hpaths, hne]⟩)
      refine ⟨paths :: lists, by rw [List.length_cons, hlength, List.length_cons], ?_⟩
      rw [hpaths, List.append_assoc] at hrest
      exact hproceeds.append hrest

theorem Drives.proceeds_checkStatus {table : String} {formats : List (Option DumpFormat)}
    {files : List UploadPath} {how : Finish}
    (drives : cfg.Drives l kept (.checkStatus :: (formats.map (.dump table ·) ++
      .downloadAll :: (files.map (.load table) ++ [.finish how]))) h r kept')
    (within : l.Within type id) (state : l.state = .begun id) (formats_ne : formats ≠ [])
    (files_ne : files ≠ []) :
    ∃ lists : List (List String), lists.length = formats.length ∧
      Proceeds cfg (.checkStatus type id :: (List.zipWith (.dump table id) formats lists ++
        ((l.session.downloadPaths ++ lists.flatten).map .fetch ++
          (files.map (.load table id) ++ [.finish type id how])))) h (failure? r) := by
  rcases drives.performs (by simp [Context.perform, state]) with
    ⟨e, rfl, performs⟩ | ⟨_, _, l', _, rfl, performs, drives⟩
  · exact ⟨List.replicate formats.length [], List.length_replicate,
      (performs.proceeds_checkStatus within).weaken⟩
  · have hwithin := performs.within within
    obtain ⟨lists, hlength, hrest⟩ :=
      drives.proceeds_dumps hwithin (.inr ⟨performs.state_eq hwithin, formats_ne⟩) files_ne
    have hpaths : l'.session.downloadPaths = l.session.downloadPaths := by
      cases performs.advances with
      | checkStatus => rfl
    rw [hpaths] at hrest
    exact ⟨lists, hlength, (performs.proceeds_checkStatus within).append hrest⟩

/-- The commands of a valid scenario proceed through its plan. Where begin fails, any identifier
will do. -/
theorem Drives.proceeds_plan {scenario : Scenario} (valid : scenario.validate = .ok ())
    (drives : cfg.Drives {} kept scenario.commands h r kept') :
    ∃ id lists, lists.length = scenario.dumpFormats.length ∧
      Proceeds cfg (scenario.plan id lists) h (failure? r) := by
  obtain ⟨hformats, hfiles⟩ := scenario.ne_nil_of_validate valid
  have hcommands : scenario.commands = .begin scenario.begin :: .checkStatus ::
      (scenario.dumpFormats.map (.dump scenario.table ·) ++
        .downloadAll :: (scenario.loadFiles.map (.load scenario.table) ++
          [.finish scenario.finish])) := by
    simp [Scenario.commands]
  have hplan (id : TransactionId) (lists : List (List String)) : scenario.plan id lists =
      [.begin scenario.begin id] ++ .checkStatus scenario.begin.type id ::
        (List.zipWith (.dump scenario.table id) scenario.dumpFormats lists ++
          (lists.flatten.map .fetch ++ (scenario.loadFiles.map (.load scenario.table id) ++
            [.finish scenario.begin.type id scenario.finish]))) := by
    simp [Scenario.plan]
  rw [hcommands] at drives
  rcases drives.performs (by simp [Context.perform]) with
    ⟨e, rfl, performs⟩ | ⟨_, _, l', _, rfl, performs, drives⟩
  · obtain ⟨id, hproceeds, -⟩ := performs.proceeds_begin
    exact ⟨id, List.replicate scenario.dumpFormats.length [], List.length_replicate,
      hplan _ _ ▸ hproceeds.weaken⟩
  · obtain ⟨id, hproceeds, hbegun⟩ := performs.proceeds_begin
    obtain ⟨hstate, htype, hnone⟩ := hbegun l' rfl
    have hwithin : l'.Within scenario.begin.type id := ⟨by rw [hstate]; rfl, htype⟩
    obtain ⟨lists, hlength, hrest⟩ := drives.proceeds_checkStatus hwithin hstate hformats hfiles
    rw [hnone] at hrest
    exact ⟨id, lists, hlength, hplan id lists ▸ hproceeds.append hrest⟩

end Config

end TransactionHarness
