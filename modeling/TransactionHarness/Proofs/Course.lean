import TransactionHarness.Proofs.History
import TransactionHarness.Run
/-!
# Courses

How a run can go, said without a world: a course relates what a run asks and is answered to what
comes of it, for any answers whatever. There is one relation for each level of a run, with one
constructor for each way in which that level can end.

* `Config.Obtains`: obtaining a token.
* `Config.Calls`: a step with one request.
* `Config.Fetches`: the downloads behind each other.
* `Config.Performs`, `Config.Drives`: a command, and commands in order.

The kept token stands in the relations as it is before and after; of an exchange nothing else
matters to a run. The main statement is `exists_gives_drive`: whatever the world, what a run does is
a course. Everything about runs is proved from courses, so that no world occurs there.
-/

namespace TransactionHarness

variable {σ α β : Type}

/-- The token in the answer to a request for one. -/
def AccessToken.ofReceived (answer : Except Error String) : Except Error AccessToken :=
  answer >>= ofAnswer

/-- The typed value in the text of a reply that the contract accepts. -/
def Contract.receive (contract : Contract) (decode : Json.Decoder α) (step : Step) (text : String) :
    Except Error α := do
  let response ← Response.parse step text
  contract.verify response.headers response.body
  response.bodyAs decode step

/-! ### What a run is after each answer -/

namespace Lifecycle

/-- The run after the reply to begin. -/
def afterBegin (l : Lifecycle) (request : BeginRequest) (transaction : Transaction) :
    Except Error Lifecycle := do
  let session ← l.session.setId transaction.id
  return { state := .begun transaction.id
           session
           record := { l.record with begun := some transaction }
           type := request.type }

/-- The run after the reply to status. -/
def afterStatus (l : Lifecycle) (id : TransactionId) (transaction : Transaction) : Lifecycle :=
  { l with
    state := .statusChecked id
    record := { l.record with status := some transaction } }

/-- The run after the reply to a dump. -/
def afterDump (l : Lifecycle) (id : TransactionId) (result : DumpResult) : Lifecycle :=
  { l with
    state := .dumped id
    session := l.session.extendPaths result.downloadPaths
    record := { l.record with dumps := l.record.dumps ++ [result] } }

/-- The run after the download of one file. -/
def afterFetch (l : Lifecycle) (download : Download) : Lifecycle :=
  { l with
    session := l.session.recordFile download.localPath
    record := { l.record with downloads := l.record.downloads ++ [download] } }

/-- The run after all downloads. -/
def afterDownloads (l : Lifecycle) (id : TransactionId) : Lifecycle :=
  { l with state := .downloaded id }

/-- The run after the reply to a load. -/
def afterLoad (l : Lifecycle) (id : TransactionId) (result : LoadResult) : Lifecycle :=
  { l with
    state := .loaded id
    record := { l.record with loads := l.record.loads ++ [result] } }

/-- The run after the reply to finishing. -/
def afterFinish (l : Lifecycle) (id : TransactionId) (how : Finish) (transaction : Transaction) :
    Lifecycle :=
  { l with
    state := .finished how id
    record := { l.record with finished := some transaction } }

end Lifecycle

/-- The error of a download that the service has not answered with success. -/
def DownloadOutcome.refusal (outcome : DownloadOutcome) (path : String) : Error :=
  .verification .download ("2xx status for '" ++ path ++ "'") (toString outcome.status)

/-! ### The relations -/

/-- In the state of the run, the command that is not a download sends this request, and the text of
the reply makes the run into this one. -/
inductive Lifecycle.Sends (cfg : Config) (l : Lifecycle) :
    Command → Request → (String → Except Error Lifecycle) → Prop where
  | begin (request : BeginRequest) (state : l.state = .initial) :
      Sends cfg l (.begin request) (cfg.beginRequest request) fun text ↦
        (Contract.begin request.type).receive Transaction.ofJson .begin text >>=
          l.afterBegin request
  | checkStatus {id : TransactionId} (state : l.state = .begun id) :
      Sends cfg l .checkStatus (cfg.statusRequest id) fun text ↦
        l.afterStatus id <$> (Contract.status l.type id).receive Transaction.ofJson .status text
  | dump {id : TransactionId} (table : String) (format? : Option DumpFormat)
      (state : l.state = .statusChecked id ∨ l.state = .dumped id) :
      Sends cfg l (.dump table format?) (cfg.dumpRequest id table format?) fun text ↦
        l.afterDump id <$> (Contract.dump id table (format?.getD .standard)).receive
          DumpResult.ofJson (.dump (format?.getD .standard)) text
  | load {id : TransactionId} (table : String) (file : UploadPath) {name : String}
      (state : l.state = .downloaded id ∨ l.state = .loaded id) (named : file.fileName = .ok name) :
      Sends cfg l (.load table file) (cfg.loadRequest id table file) fun text ↦
        l.afterLoad id <$> (Contract.load id table name).receive LoadResult.ofJson .load text
  | finish {id : TransactionId} (how : Finish) (state : l.state = .loaded id) :
      Sends cfg l (.finish how) (cfg.finishRequest id how) fun text ↦
        l.afterFinish id how <$> (Contract.finish l.type id how).receive Transaction.ofJson
          (.finish how) text

namespace Config

variable (cfg : Config)

/-- Obtaining a token where `kept` is the kept one: what is asked, what comes of it, and which token
is kept then. -/
inductive Obtains (kept : Option AccessToken) :
    List Event → Except Error AccessToken → Option AccessToken → Prop where
  /-- A login for every step. -/
  | perStep {answer : Except Error String} {r : Except Error AccessToken}
      (policy : cfg.tokenPolicy = .perStep) (reply : AccessToken.ofReceived answer = r) :
      Obtains kept [.answered cfg.loginRequest answer] r (r.toOption.or kept)
  /-- Nothing is kept. -/
  | absent {margin : Span} {answer : Except Error String} {r : Except Error AccessToken}
      (policy : cfg.tokenPolicy = .cached margin) (absent : kept = none)
      (reply : AccessToken.ofReceived answer = r) :
      Obtains kept [.answered cfg.loginRequest answer] r r.toOption
  /-- The kept token is still good. -/
  | reused {margin : Span} {now : Instant} {token : AccessToken}
      (policy : cfg.tokenPolicy = .cached margin) (present : kept = some token)
      (good : token.needsRenewal now margin = false) :
      Obtains kept [.clock now] (.ok token) (some token)
  /-- The kept token has to be renewed and cannot be refreshed. -/
  | unrefreshable {margin : Span} {now : Instant} {token : AccessToken}
      {answer : Except Error String} {r : Except Error AccessToken}
      (policy : cfg.tokenPolicy = .cached margin) (present : kept = some token)
      (stale : token.needsRenewal now margin = true) (without : token.refreshToken? = none)
      (reply : AccessToken.ofReceived answer = r) :
      Obtains kept [.clock now, .answered cfg.loginRequest answer] r r.toOption
  /-- The kept token has to be renewed and is refreshed. -/
  | refreshed {margin : Span} {now : Instant} {token fresh : AccessToken} {refreshToken : String}
      {answer : Except Error String} (policy : cfg.tokenPolicy = .cached margin)
      (present : kept = some token) (stale : token.needsRenewal now margin = true)
      (given : token.refreshToken? = some refreshToken)
      (reply : AccessToken.ofReceived answer = .ok fresh) :
      Obtains kept [.clock now, .answered (cfg.refreshRequest refreshToken) answer] (.ok fresh)
        (some fresh)
  /-- The kept token has to be renewed, and its refresh fails. -/
  | replaced {margin : Span} {now : Instant} {token : AccessToken} {refreshToken : String}
      {answer answer' : Except Error String} {e : Error} {r : Except Error AccessToken}
      (policy : cfg.tokenPolicy = .cached margin) (present : kept = some token)
      (stale : token.needsRenewal now margin = true)
      (given : token.refreshToken? = some refreshToken)
      (refused : AccessToken.ofReceived answer = .error e)
      (reply : AccessToken.ofReceived answer' = r) :
      Obtains kept [.clock now, .answered (cfg.refreshRequest refreshToken) answer,
        .answered cfg.loginRequest answer'] r r.toOption

/-- A step with one request: no token can be obtained, or the request is sent with one and its
answer decides. -/
inductive Calls (kept : Option AccessToken) (request : Request)
    (receive : String → Except Error α) :
    List Event → Except Error α → Option AccessToken → Prop where
  | noToken {h : List Event} {e : Error} {kept' : Option AccessToken}
      (obtains : cfg.Obtains kept h (.error e) kept') :
      Calls kept request receive h (.error e) kept'
  | answered {h : List Event} {token : AccessToken} {kept' : Option AccessToken}
      {answer : Except Error String} {r : Except Error α}
      (obtains : cfg.Obtains kept h (.ok token) kept') (outcome : answer >>= receive = r) :
      Calls kept request receive (h ++ [.answered (request.withBearer token.accessToken) answer]) r
        kept'

/-- What is made of the typed value in the reply belongs to the step. -/
theorem Calls.bind {cfg : Config} {kept kept' : Option AccessToken} {request : Request}
    {receive : String → Except Error α} {h : List Event} {r : Except Error α}
    (calls : cfg.Calls kept request receive h r kept') (k : α → Except Error β) :
    cfg.Calls kept request (fun text ↦ receive text >>= k) h (r >>= k) kept' := by
  cases calls with
  | noToken obtains => exact .noToken obtains
  | @answered h token _ answer r obtains outcome =>
    refine .answered obtains ?_
    rw [← outcome, bind_assoc]

/-- The request for a dumped file, authorised by a token. -/
def fetchRequest (token path : String) : Request := (cfg.downloadRequest path).withBearer token

/-- The downloads of files with one token, one behind the other. -/
inductive Fetches (token : String) :
    Lifecycle → List String → List Event → Except Error Lifecycle → Prop where
  | done (l : Lifecycle) : Fetches token l [] [] (.ok l)
  /-- A path that names no file ends the run before its request is sent. -/
  | unnamed {l : Lifecycle} {path : String} {paths : List String} {e : Error}
      (nameless : Artifact.localPath cfg.downloadDir path = .error e) :
      Fetches token l (path :: paths) [] (.error e)
  | failed {l : Lifecycle} {path place : String} {paths : List String} {e : Error}
      (named : Artifact.localPath cfg.downloadDir path = .ok place) :
      Fetches token l (path :: paths) [.fetched (cfg.fetchRequest token path) place (.error e)]
        (.error e)
  | refused {l : Lifecycle} {path place : String} {paths : List String} {outcome : DownloadOutcome}
      (named : Artifact.localPath cfg.downloadDir path = .ok place)
      (failure : outcome.isSuccess = false) :
      Fetches token l (path :: paths) [.fetched (cfg.fetchRequest token path) place (.ok outcome)]
        (.error (outcome.refusal path))
  | next {l : Lifecycle} {path place : String} {paths : List String} {outcome : DownloadOutcome}
      {h : List Event} {r : Except Error Lifecycle}
      (named : Artifact.localPath cfg.downloadDir path = .ok place)
      (success : outcome.isSuccess = true)
      (rest : Fetches token (l.afterFetch ⟨path, place, outcome.bytes⟩) paths h r) :
      Fetches token l (path :: paths)
        (.fetched (cfg.fetchRequest token path) place (.ok outcome) :: h) r

/-- A command that the state of the run allows. -/
inductive Performs (l : Lifecycle) (kept : Option AccessToken) :
    Command → List Event → Except Error Lifecycle → Option AccessToken → Prop where
  | call {command : Command} {request : Request} {receive : String → Except Error Lifecycle}
      {h : List Event} {r : Except Error Lifecycle} {kept' : Option AccessToken}
      (sends : l.Sends cfg command request receive)
      (calls : cfg.Calls kept request receive h r kept') :
      Performs l kept command h r kept'
  /-- A file to load whose name is no text ends the run before a token is obtained. -/
  | nameless {id : TransactionId} {table : String} {file : UploadPath} {e : Error}
      (state : l.state = .downloaded id ∨ l.state = .loaded id)
      (nameless : file.fileName = .error e) :
      Performs l kept (.load table file) [] (.error e) kept
  | noToken {id : TransactionId} {h : List Event} {e : Error} {kept' : Option AccessToken}
      (state : l.state = .dumped id) (obtains : cfg.Obtains kept h (.error e) kept') :
      Performs l kept .downloadAll h (.error e) kept'
  /-- All downloads share one token. -/
  | downloads {id : TransactionId} {h h' : List Event} {token : AccessToken}
      {kept' : Option AccessToken} {r r' : Except Error Lifecycle} (state : l.state = .dumped id)
      (obtains : cfg.Obtains kept h (.ok token) kept')
      (fetches : cfg.Fetches token.accessToken l l.session.downloadPaths h' r)
      (outcome : r.map (·.afterDownloads id) = r') :
      Performs l kept .downloadAll (h ++ h') r' kept'

/-- Commands in order, up to the first that fails or is not allowed. -/
inductive Drives :
    Lifecycle → Option AccessToken → List Command → List Event → Except Error Lifecycle →
      Option AccessToken → Prop where
  | done (l : Lifecycle) (kept : Option AccessToken) : Drives l kept [] [] (.ok l) kept
  | refused {l : Lifecycle} {kept : Option AccessToken} {command : Command} {rest : List Command}
      (refused : ∀ h r kept', ¬ cfg.Performs l kept command h r kept') :
      Drives l kept (command :: rest) []
        (.error (.invalidState "the run does not allow this step")) kept
  | failed {l : Lifecycle} {kept kept' : Option AccessToken} {command : Command}
      {rest : List Command} {h : List Event} {e : Error}
      (performs : cfg.Performs l kept command h (.error e) kept') :
      Drives l kept (command :: rest) h (.error e) kept'
  | next {l l' : Lifecycle} {kept kept' kept'' : Option AccessToken} {command : Command}
      {rest : List Command} {h h' : List Event} {r : Except Error Lifecycle}
      (performs : cfg.Performs l kept command h (.ok l') kept')
      (drives : Drives l' kept' rest h' r kept'') :
      Drives l kept (command :: rest) (h ++ h') r kept''

end Config

/-! ### Obtaining a token -/

namespace Context

variable (ctx : Context σ)

theorem exists_gives_requestToken (request : Request) (x : Exchange σ) :
    ∃ answer y, ctx.Gives (ctx.requestToken request) x [.answered request answer]
      (AccessToken.ofReceived answer) y ∧ y.token? = x.token? := by
  obtain ⟨answer, y, hgives, hkept⟩ := ctx.exists_gives_execute request x
  exact ⟨answer, y, hgives.bind_of AccessToken.ofAnswer, hkept⟩

theorem exists_gives_login (x : Exchange σ) :
    ∃ answer y, ctx.Gives ctx.login x [.answered ctx.config.loginRequest answer]
      (AccessToken.ofReceived answer) y ∧ y.token? = x.token? :=
  ctx.exists_gives_requestToken ctx.config.loginRequest x

/-- Replacing a token that has to be renewed. The clock has been read before. -/
theorem exists_gives_renew {token : AccessToken} {margin : Span} {now : Instant} (x : Exchange σ)
    (policy : ctx.config.tokenPolicy = .cached margin)
    (stale : token.needsRenewal now margin = true) (empty : x.token? = none) :
    ∃ h r y, ctx.Gives (ctx.renew token) x h r y ∧
      ctx.config.Obtains (some token) (.clock now :: h) r r.toOption ∧ y.token? = none := by
  rcases hgiven : token.refreshToken? with - | refreshToken
  · obtain ⟨answer, y, hgives, hkept⟩ := ctx.exists_gives_login x
    refine ⟨[.answered ctx.config.loginRequest answer], AccessToken.ofReceived answer, y, ?_,
      .unrefreshable policy rfl stale hgiven rfl, hkept.trans empty⟩
    simpa only [renew, hgiven] using hgives
  · obtain ⟨answer, y, hgives, hkept⟩ :=
      ctx.exists_gives_requestToken (ctx.config.refreshRequest refreshToken) x
    rcases hreply : AccessToken.ofReceived answer with e | fresh
    · -- a refresh that fails is attempted only, and a login comes behind it
      obtain ⟨answer', z, hgives', hkept'⟩ := ctx.exists_gives_login y
      refine ⟨[.answered (ctx.config.refreshRequest refreshToken) answer] ++
          [.answered ctx.config.loginRequest answer'], AccessToken.ofReceived answer', z, ?_,
        .replaced policy rfl stale hgiven hreply rfl, hkept'.trans (hkept.trans empty)⟩
      simp only [renew, hgiven]
      exact hgives.attempt.bind_ok (by rw [hreply]; exact hgives')
    · refine ⟨[.answered (ctx.config.refreshRequest refreshToken) answer] ++ [], .ok fresh, y, ?_,
        .refreshed policy rfl stale hgiven hreply, hkept.trans empty⟩
      simp only [renew, hgiven]
      exact hgives.attempt.bind_ok (by rw [hreply]; exact .pure fresh y)

theorem exists_gives_keptOrFreshToken {margin : Span}
    (policy : ctx.config.tokenPolicy = .cached margin) (x : Exchange σ) :
    ∃ h r y, ctx.Gives (ctx.keptOrFreshToken margin) x h r y ∧
      ctx.config.Obtains x.token? h r r.toOption ∧ y.token? = none := by
  -- taking the kept token leaves none, so a failure further on keeps none either
  have htake : ctx.Gives Action.takeToken x [] _ _ := .takeToken x
  rcases hkept : x.token? with - | token
  · obtain ⟨answer, y, hgives, hnone⟩ := ctx.exists_gives_login { x with token? := none }
    refine ⟨[.answered ctx.config.loginRequest answer], AccessToken.ofReceived answer, y, ?_,
      .absent policy rfl rfl, hnone⟩
    exact htake.bind_ok (by rw [hkept]; exact hgives)
  · obtain ⟨now, y, hclock, hnone⟩ := ctx.exists_gives_now { x with token? := none }
    rcases hstale : token.needsRenewal now margin with - | -
    · refine ⟨[.clock now], .ok token, y, ?_, .reused policy rfl hstale, hnone⟩
      refine htake.bind_ok (t := [.clock now]) ?_
      rw [hkept]
      exact hclock.bind_ok (by rw [hstale]; exact .pure token y)
    · obtain ⟨h, r, z, hrenew, hobtains, hnone'⟩ := ctx.exists_gives_renew y policy hstale hnone
      refine ⟨.clock now :: h, r, z, ?_, hobtains, hnone'⟩
      refine htake.bind_ok (t := .clock now :: h) ?_
      rw [hkept]
      exact hclock.bind_ok (by rw [hstale]; exact hrenew)

theorem exists_gives_nextToken (x : Exchange σ) :
    ∃ h r y, ctx.Gives ctx.nextToken x h r y ∧
      ctx.config.Obtains x.token? h r (r.toOption.or y.token?) := by
  rcases hpolicy : ctx.config.tokenPolicy with - | margin
  · obtain ⟨answer, y, hgives, hkept⟩ := ctx.exists_gives_login x
    refine ⟨[.answered ctx.config.loginRequest answer], AccessToken.ofReceived answer, y, ?_, ?_⟩
    · simpa only [nextToken, hpolicy] using hgives
    · rw [hkept]
      exact .perStep hpolicy rfl
  · obtain ⟨h, r, y, hgives, hobtains, hnone⟩ := ctx.exists_gives_keptOrFreshToken hpolicy x
    refine ⟨h, r, y, ?_, ?_⟩
    · simpa only [nextToken, hpolicy] using hgives
    · simpa only [hnone, Option.or_none] using hobtains

/-- The token for the next request is obtained as `Config.Obtains` says, and kept if there is
one. -/
theorem exists_gives_ensureToken (x : Exchange σ) :
    ∃ h r y, ctx.Gives ctx.ensureToken x h (r.map AccessToken.accessToken) y ∧
      ctx.config.Obtains x.token? h r y.token? := by
  obtain ⟨h, r, y, hgives, hobtains⟩ := ctx.exists_gives_nextToken x
  rcases r with e | token
  · exact ⟨h, .error e, y, hgives.bind_error, hobtains⟩
  · refine ⟨h, .ok token, { y with token? := some token }, ?_, hobtains⟩
    have hgives' := hgives.bind_ok (f := fun token ↦ do
        Action.keepToken token
        return token.accessToken)
      ((Gives.keepToken token y).bind_ok (.pure token.accessToken _))
    rwa [List.append_nil, List.append_nil] at hgives'

/-! ### Steps -/

/-- A step is: obtain a token, send the request, and judge the reply. -/
theorem callAs_eq (decode : Json.Decoder α) (step : Step) (request : Request)
    (contract : Contract) :
    ctx.callAs decode step request contract = (do
      let token ← ctx.ensureToken
      let text ← ctx.execute (request.withBearer token)
      Action.of (contract.receive decode step text)) := by
  simp only [callAs, call, Contract.receive, Action.of_bind, bind_assoc, pure_bind]

/-- Beginning is a step that ends in what the run is after the reply to begin. -/
theorem begin_eq (request : BeginRequest) (l : Lifecycle) :
    ctx.begin request l = (do
      let transaction ← ctx.callAs Transaction.ofJson .begin (ctx.config.beginRequest request)
        (.begin request.type)
      Action.of (l.afterBegin request transaction)) := by
  simp only [begin, Lifecycle.afterBegin, Action.of_bind]
  rfl

theorem exists_gives_callAs (decode : Json.Decoder α) (step : Step) (request : Request)
    (contract : Contract) (x : Exchange σ) :
    ∃ h r y, ctx.Gives (ctx.callAs decode step request contract) x h r y ∧
      ctx.config.Calls x.token? request (contract.receive decode step) h r y.token? := by
  rw [callAs_eq]
  obtain ⟨h, r, y, htoken, hobtains⟩ := ctx.exists_gives_ensureToken x
  rcases r with e | token
  · exact ⟨h, .error e, y, htoken.bind_error, .noToken hobtains⟩
  · obtain ⟨answer, z, hexecute, hkept⟩ :=
      ctx.exists_gives_execute (request.withBearer token.accessToken) y
    refine ⟨h ++ [.answered (request.withBearer token.accessToken) answer], _, z,
      htoken.bind_ok (hexecute.bind_of _), ?_⟩
    rw [hkept]
    exact .answered hobtains rfl

/-- A step that ends in `k` takes the course of its request. -/
theorem exists_gives_call {decode : Json.Decoder α} {step : Step} {request : Request}
    {contract : Contract} {k : α → Except Error Lifecycle} {l : Lifecycle} {command : Command}
    (sends : l.Sends ctx.config command request fun text ↦
      contract.receive decode step text >>= k) (x : Exchange σ) :
    ∃ h r y,
      ctx.Gives (ctx.callAs decode step request contract >>= fun a ↦ Action.of (k a)) x h r y ∧
        ctx.config.Performs l x.token? command h r y.token? := by
  obtain ⟨h, r, y, hgives, hcalls⟩ := ctx.exists_gives_callAs decode step request contract x
  exact ⟨h, r >>= k, y, hgives.bind_of k, .call sends (hcalls.bind k)⟩

theorem exists_gives_call_map {decode : Json.Decoder α} {step : Step} {request : Request}
    {contract : Contract} {f : α → Lifecycle} {l : Lifecycle} {command : Command}
    (sends : l.Sends ctx.config command request fun text ↦
      f <$> contract.receive decode step text) (x : Exchange σ) :
    ∃ h r y,
      ctx.Gives (ctx.callAs decode step request contract >>= fun a ↦ pure (f a)) x h r y ∧
        ctx.config.Performs l x.token? command h r y.token? := by
  simp only [map_eq_pure_bind] at sends
  exact ctx.exists_gives_call sends x

/-- The downloads take the course that `Config.Fetches` describes, and leave the kept token. -/
theorem exists_gives_fetches (token : String) (paths : List String) (l : Lifecycle)
    (x : Exchange σ) :
    ∃ h r y, ctx.Gives (paths.foldlM (ctx.downloadOne token) l) x h r y ∧
      ctx.config.Fetches token l paths h r ∧ y.token? = x.token? := by
  induction paths generalizing l x with
  | nil => exact ⟨[], .ok l, x, .pure l x, .done l, rfl⟩
  | cons path paths ih =>
    rw [List.foldlM_cons]
    -- a path is given its place before its request, so one without a place asks for nothing
    rcases hnamed : Artifact.localPath ctx.config.downloadDir path with e | place
    · exact ⟨[], .error e, x, (Gives.of_eq hnamed x).bind_error.bind_error, .unnamed hnamed, rfl⟩
    have hplace : ctx.Gives (Action.of _) x [] _ x := .of_eq hnamed x
    obtain ⟨answer, y, hdownload, hkept⟩ :=
      ctx.exists_gives_download (ctx.config.fetchRequest token path) place x
    rcases answer with e | outcome
    · exact ⟨_, .error e, y, (hplace.bind_ok hdownload.bind_error).bind_error, .failed hnamed,
        hkept⟩
    rcases hsuccess : outcome.isSuccess with - | -
    · refine ⟨[.fetched (ctx.config.fetchRequest token path) place (.ok outcome)],
        .error (outcome.refusal path), y, ?_, .refused hnamed hsuccess, hkept⟩
      refine (hplace.bind_ok (hdownload.bind_ok (t := []) ?_)).bind_error
      rw [hsuccess]
      exact .of (.error (outcome.refusal path)) y
    · have hone : ctx.Gives (ctx.downloadOne token l path) x
          [.fetched (ctx.config.fetchRequest token path) place (.ok outcome)]
          (.ok (l.afterFetch ⟨path, place, outcome.bytes⟩)) y := by
        refine hplace.bind_ok (hdownload.bind_ok (t := []) ?_)
        rw [hsuccess]
        exact .pure _ y
      obtain ⟨h, r, z, hrest, hfetches, hkept'⟩ := ih (l.afterFetch ⟨path, place, outcome.bytes⟩) y
      exact ⟨_, r, z, hone.bind_ok hrest, .next hnamed hsuccess hfetches, hkept'.trans hkept⟩

theorem exists_gives_downloadAll {l : Lifecycle} {id : TransactionId} (state : l.state = .dumped id)
    (x : Exchange σ) :
    ∃ h r y, ctx.Gives (ctx.downloadAll id l) x h r y ∧
      ctx.config.Performs l x.token? .downloadAll h r y.token? := by
  obtain ⟨h, r, y, htoken, hobtains⟩ := ctx.exists_gives_ensureToken x
  rcases r with e | token
  · exact ⟨h, .error e, y, htoken.bind_error, .noToken state hobtains⟩
  · obtain ⟨h', r, z, hgives, hfetches, hkept⟩ :=
      ctx.exists_gives_fetches token.accessToken l.session.downloadPaths l y
    refine ⟨h ++ h', r.map (·.afterDownloads id), z, htoken.bind_ok ?_, ?_⟩
    · have hafter := hgives.bind_of fun l' ↦ .ok (l'.afterDownloads id)
      cases r <;> exact hafter
    · rw [hkept]
      exact .downloads state hobtains hfetches rfl

theorem exists_gives_load {l : Lifecycle} {id : TransactionId} {table : String} {file : UploadPath}
    (state : l.state = .downloaded id ∨ l.state = .loaded id) (x : Exchange σ) :
    ∃ h r y, ctx.Gives (ctx.load id table file l) x h r y ∧
      ctx.config.Performs l x.token? (.load table file) h r y.token? := by
  rcases hnamed : file.fileName with e | name
  · exact ⟨[], .error e, x, (Gives.of_eq hnamed x).bind_error, .nameless state hnamed⟩
  · obtain ⟨h, r, y, hgives, hperforms⟩ :=
      ctx.exists_gives_call_map (.load table file state hnamed) x
    exact ⟨h, r, y, (Gives.of_eq hnamed x).bind_ok hgives, hperforms⟩

/-- An allowed command takes its course. -/
theorem exists_gives_perform {l : Lifecycle} {command : Command} {act : Action σ Lifecycle}
    (allowed : ctx.perform command l = some act) (x : Exchange σ) :
    ∃ h r y, ctx.Gives act x h r y ∧ ctx.config.Performs l x.token? command h r y.token? := by
  unfold perform at allowed
  split at allowed <;> cases allowed
  case h_1 request state =>
    rw [begin_eq]
    exact ctx.exists_gives_call (.begin request state) x
  case h_2 id state => exact ctx.exists_gives_call_map (.checkStatus state) x
  case h_3 table format? id state =>
    exact ctx.exists_gives_call_map (.dump table format? (.inl state)) x
  case h_4 table format? id state =>
    exact ctx.exists_gives_call_map (.dump table format? (.inr state)) x
  case h_5 id state => exact ctx.exists_gives_downloadAll state x
  case h_6 table file id state => exact ctx.exists_gives_load (.inl state) x
  case h_7 table file id state => exact ctx.exists_gives_load (.inr state) x
  case h_8 how id state => exact ctx.exists_gives_call_map (.finish how state) x

/-- What has a course is allowed. -/
theorem perform_ne_none {l : Lifecycle} {kept kept' : Option AccessToken} {command : Command}
    {h : List Event} {r : Except Error Lifecycle}
    (performs : ctx.config.Performs l kept command h r kept') : ctx.perform command l ≠ none := by
  cases performs with
  | call sends _ =>
    cases sends with
    | begin _ state => simp [perform, state]
    | checkStatus state => simp [perform, state]
    | dump _ _ state => rcases state with state | state <;> simp [perform, state]
    | load _ _ state _ => rcases state with state | state <;> simp [perform, state]
    | finish _ state => simp [perform, state]
  | nameless state _ => rcases state with state | state <;> simp [perform, state]
  | noToken state _ => simp [perform, state]
  | downloads state _ _ _ => simp [perform, state]

/-- What a run does is a course, whatever the world answers. -/
theorem exists_gives_drive (commands : List Command) (l : Lifecycle) (x : Exchange σ) :
    ∃ h r y, ctx.Gives (ctx.drive commands l) x h r y ∧
      ctx.config.Drives l x.token? commands h r y.token? := by
  induction commands generalizing l x with
  | nil => exact ⟨[], .ok l, x, .pure l x, .done l _⟩
  | cons command rest ih =>
    rcases hallowed : ctx.perform command l with - | act
    · refine ⟨[], .error _, x, ?_, .refused fun h r kept' performs ↦
        ctx.perform_ne_none performs hallowed⟩
      simp only [drive, hallowed]
      exact .of (.error (.invalidState "the run does not allow this step")) x
    · obtain ⟨h, r, y, hgives, hperforms⟩ := ctx.exists_gives_perform hallowed x
      simp only [drive, hallowed]
      rcases r with e | l'
      · exact ⟨h, .error e, y, hgives.bind_error, .failed hperforms⟩
      · obtain ⟨h', r, z, hgives', hdrives⟩ := ih l' y
        exact ⟨h ++ h', r, z, hgives.bind_ok hgives', .next hperforms hdrives⟩

/-- A scenario is refused before anything happens, or its commands take their course and are
reported. -/
theorem exists_gives_runScenario (scenario : Scenario) (x : Exchange σ) :
    ∃ h r y, ctx.Gives (ctx.runScenario scenario) x h r y ∧
      ((∃ e, scenario.validate = .error e ∧ h = [] ∧ r = .error e) ∨
        (scenario.validate = .ok () ∧ ∃ r', r = r' >>= Lifecycle.report ∧
          ctx.config.Drives {} x.token? scenario.commands h r' y.token?)) := by
  rcases hvalid : scenario.validate with e | ⟨⟩
  · exact ⟨[], .error e, x, (Gives.of_eq hvalid x).bind_error, .inl ⟨e, rfl, rfl, rfl⟩⟩
  · obtain ⟨h, r, y, hgives, hdrives⟩ := ctx.exists_gives_drive scenario.commands {} x
    exact ⟨h, r >>= Lifecycle.report, y, (Gives.of_eq hvalid x).bind_ok (hgives.bind_of _),
      .inr ⟨rfl, r, rfl, hdrives⟩⟩

end Context

end TransactionHarness
