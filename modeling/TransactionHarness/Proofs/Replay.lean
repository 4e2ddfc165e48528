import TransactionHarness.Playback
import TransactionHarness.Proofs.Reply
/-!
# Replays

Every course is the course of a run. Where the world answers as a history says, a run takes any
course that has this history, and one world answers as a history says, whatever it is
(`World.replay`).

* `Context.Plays`: what an action does where the world answers as a history says.
* `Config.Drives.plays`: commands take each of their courses there.
* `Config.Drives.exists_runScenario`: so does a whole scenario in the world that replays the course.

Together with `Context.exists_gives_drive`, courses and runs are the same, and a run with a wanted
end is found by writing down its course.
-/

namespace TransactionHarness

variable {σ α β : Type}

/-- The world that answers as a history says. Asked for something else, it has no reply. -/
def World.replay : World (List Event) where
  execute _
    | .answered _ answer :: rest => (answer, rest)
    | rest => (.error .network, rest)
  download _ _
    | .fetched _ _ answer :: rest => (answer, rest)
    | rest => (.error .network, rest)
  now
    | .clock now :: rest => (now, rest)
    | rest => (default, rest)

theorem World.answers_replay (h rest : List Event) : World.replay.Answers (h ++ rest) h rest := by
  induction h with
  | nil => rfl
  | cons e h ih =>
    have hreacts : World.replay.Reacts (e :: (h ++ rest)) (h ++ rest) e := by cases e <;> rfl
    exact ⟨_, hreacts, ih⟩

/-- The settings in the world that answers as a history says. -/
def Config.replaying (cfg : Config) : Context (List Event) := ⟨cfg, World.replay⟩

/-- The settings in the world that plays back replies. -/
def Config.playing (cfg : Config) : Context Playback := ⟨cfg, Playback.world default⟩

namespace Context

variable (ctx : Context σ)

/-- Where the world answers as the history says, the action goes through the history and has the
outcome `r`; the kept token is `kept` before and `kept'` after. -/
def Plays (act : Action σ α) (kept : Option AccessToken) (h : List Event) (r : Except Error α)
    (kept' : Option AccessToken) : Prop :=
  ∀ x w, ctx.world.Answers x.world h w → x.token? = kept →
    ∃ y, ctx.Gives act x h r y ∧ y.world = w ∧ y.token? = kept'

variable {ctx}

namespace Plays

variable {act : Action σ α} {f : α → Action σ β} {kept kept' kept'' : Option AccessToken}
  {h t : List Event}

theorem of (r : Except Error α) (kept : Option AccessToken) :
    ctx.Plays (Action.of r) kept [] r kept := by
  intro x w hanswers hkept
  exact ⟨x, .of r x, (show w = x.world from hanswers).symm, hkept⟩

theorem of_eq {r r' : Except Error α} (h : r = r') (kept : Option AccessToken) :
    ctx.Plays (Action.of r) kept [] r' kept :=
  h ▸ of r kept

theorem takeToken (kept : Option AccessToken) :
    ctx.Plays Action.takeToken kept [] (.ok kept) none := by
  intro x w hanswers hkept
  have hw : w = x.world := hanswers
  exact ⟨{ x with token? := none }, hkept ▸ .takeToken x, hw.symm, rfl⟩

theorem keepToken (token : AccessToken) (kept : Option AccessToken) :
    ctx.Plays (Action.keepToken token) kept [] (.ok ()) (some token) := by
  intro x w hanswers _
  have hw : w = x.world := hanswers
  exact ⟨_, .keepToken token x, hw.symm, rfl⟩

theorem execute (request : Request) (answer : Except Error String) (kept : Option AccessToken) :
    ctx.Plays (ctx.execute request) kept [.answered request answer] answer kept := by
  rintro x w ⟨u, hreacts, hw⟩ hkept
  obtain rfl : w = u := hw
  have hworld : ctx.world.execute request x.world = (answer, w) := hreacts
  refine ⟨{ x with world := w, sent := x.sent ++ [.execute request] }, ⟨?_, ?_, rfl⟩, rfl, hkept⟩
  · cases answer <;> simp [Action.attempt, Context.execute, hworld]
  · exact World.answers_singleton _ hworld

theorem download (request : Request) (place : String) (answer : Except Error DownloadOutcome)
    (kept : Option AccessToken) :
    ctx.Plays (ctx.download request place) kept [.fetched request place answer] answer kept := by
  rintro x w ⟨u, hreacts, hw⟩ hkept
  obtain rfl : w = u := hw
  have hworld : ctx.world.download request place x.world = (answer, w) := hreacts
  refine ⟨{ x with world := w, sent := x.sent ++ [.download request place] }, ⟨?_, ?_, rfl⟩, rfl,
    hkept⟩
  · cases answer <;> simp [Action.attempt, Context.download, hworld]
  · exact World.answers_singleton _ hworld

theorem now (now : Instant) (kept : Option AccessToken) :
    ctx.Plays ctx.now kept [.clock now] (.ok now) kept := by
  rintro x w ⟨u, hreacts, hw⟩ hkept
  obtain rfl : w = u := hw
  have hworld : ctx.world.now x.world = (now, w) := hreacts
  refine ⟨{ x with world := w }, ⟨?_, ?_, (List.append_nil _).symm⟩, rfl, hkept⟩
  · simp [Action.attempt, Context.now, hworld]
  · exact World.answers_singleton _ hworld

theorem bind_ok {a : α} {r : Except Error β} (first : ctx.Plays act kept h (.ok a) kept')
    (rest : ctx.Plays (f a) kept' t r kept'') : ctx.Plays (act >>= f) kept (h ++ t) r kept'' := by
  intro x w hanswers hkept
  obtain ⟨u, hfirst, hrest⟩ := World.answers_append_iff.1 hanswers
  obtain ⟨y, hgives, hworld, hkept'⟩ := first x u hfirst hkept
  obtain ⟨z, hgives', hworld', hkept''⟩ := rest y w (hworld ▸ hrest) hkept'
  exact ⟨z, hgives.bind_ok hgives', hworld', hkept''⟩

theorem bind_error {e : Error} (first : ctx.Plays act kept h (.error e) kept') :
    ctx.Plays (act >>= f) kept h (.error e) kept' := by
  intro x w hanswers hkept
  obtain ⟨y, hgives, hworld, hkept'⟩ := first x w hanswers hkept
  exact ⟨y, hgives.bind_error, hworld, hkept'⟩

theorem bind_of {r : Except Error α} (k : α → Except Error β)
    (first : ctx.Plays act kept h r kept') :
    ctx.Plays (act >>= fun a ↦ Action.of (k a)) kept h (r >>= k) kept' := by
  intro x w hanswers hkept
  obtain ⟨y, hgives, hworld, hkept'⟩ := first x w hanswers hkept
  exact ⟨y, hgives.bind_of k, hworld, hkept'⟩

theorem attempt {r : Except Error α} (first : ctx.Plays act kept h r kept') :
    ctx.Plays act.attempt kept h (.ok r) kept' := by
  intro x w hanswers hkept
  obtain ⟨y, hgives, hworld, hkept'⟩ := first x w hanswers hkept
  exact ⟨y, hgives.attempt, hworld, hkept'⟩

/-- What asks for nothing can stand before an action. -/
theorem bind_nil {a : α} {r : Except Error β} (first : ctx.Plays act kept [] (.ok a) kept')
    (rest : ctx.Plays (f a) kept' t r kept'') : ctx.Plays (act >>= f) kept t r kept'' :=
  first.bind_ok rest

end Plays

end Context

namespace Config

variable {ctx : Context σ}

/-! ### Obtaining a token -/

theorem plays_requestToken (request : Request) (answer : Except Error String)
    (kept : Option AccessToken) :
    ctx.Plays (ctx.requestToken request) kept [.answered request answer]
      (AccessToken.ofReceived answer) kept :=
  (Context.Plays.execute request answer kept).bind_of AccessToken.ofAnswer

/-- The token that comes next is kept. -/
theorem plays_ensureToken {kept kept' : Option AccessToken} {h : List Event}
    {r : Except Error AccessToken} (next : ctx.Plays ctx.nextToken kept h r kept') :
    ctx.Plays ctx.ensureToken kept h (r.map AccessToken.accessToken)
      (r.toOption.or kept') := by
  rcases r with e | token
  · exact next.bind_error
  · have hkeep := next.bind_ok (f := fun token ↦ do
        Action.keepToken token
        return token.accessToken)
      ((Context.Plays.keepToken token kept').bind_nil (.of (.ok token.accessToken) _))
    rwa [List.append_nil] at hkeep

/-- Under the cached policy the kept token is taken out first, so that an error leaves none. -/
theorem plays_of_cached {margin : Span} {kept : Option AccessToken} {h : List Event}
    {r : Except Error AccessToken} (policy : ctx.config.tokenPolicy = .cached margin)
    (next : ctx.Plays (ctx.keptOrFreshToken margin) kept h r none) :
    ctx.Plays ctx.ensureToken kept h (r.map AccessToken.accessToken) r.toOption := by
  have hnext : ctx.nextToken = ctx.keptOrFreshToken margin := by
    rw [Context.nextToken, policy]
  rw [← Option.or_none (o := r.toOption)]
  exact plays_ensureToken (hnext ▸ next)

/-- A kept token that is too old at the time that is read is renewed. -/
theorem plays_of_stale {margin : Span} {token : AccessToken} {now : Instant} {h : List Event}
    {r : Except Error AccessToken} (stale : token.needsRenewal now margin = true)
    (renews : ctx.Plays (ctx.renew token) none h r none) :
    ctx.Plays (ctx.keptOrFreshToken margin) (some token) (.clock now :: h) r none := by
  refine (Context.Plays.takeToken (some token)).bind_nil ?_
  refine (Context.Plays.now now none).bind_ok (t := h) ?_
  rw [stale]
  exact renews

/-- A token is obtained as the policy says, from the answers of the history. -/
theorem Obtains.plays {kept kept' : Option AccessToken} {h : List Event}
    {r : Except Error AccessToken} (obtains : ctx.config.Obtains kept h r kept') :
    ctx.Plays ctx.ensureToken kept h (r.map AccessToken.accessToken) kept' := by
  cases obtains with
  | @perStep answer r policy reply =>
    refine plays_ensureToken ?_
    have hnext : ctx.nextToken = ctx.login := by
      rw [Context.nextToken, policy]
    rw [hnext, ← reply]
    exact plays_requestToken ctx.config.loginRequest answer kept
  | @absent margin answer r policy absent reply =>
    refine plays_of_cached policy ((Context.Plays.takeToken kept).bind_nil ?_)
    rw [absent, ← reply]
    exact plays_requestToken ctx.config.loginRequest answer none
  | @reused margin now token policy present good =>
    refine plays_of_cached policy ((Context.Plays.takeToken kept).bind_nil ?_)
    rw [present]
    refine (Context.Plays.now now none).bind_ok (t := []) ?_
    rw [good]
    exact .of (.ok token) none
  | @unrefreshable margin now token answer r policy present stale without reply =>
    rw [present, ← reply]
    refine plays_of_cached policy (plays_of_stale stale ?_)
    simp only [Context.renew, without]
    exact plays_requestToken ctx.config.loginRequest answer none
  | @refreshed margin now token fresh refreshToken answer policy present stale given reply =>
    rw [present]
    refine plays_of_cached policy (plays_of_stale stale ?_)
    simp only [Context.renew, given]
    refine (plays_requestToken _ answer none).attempt.bind_ok (t := []) ?_
    rw [reply]
    exact .of (.ok fresh) none
  | @replaced margin now token refreshToken answer answer' e r policy present stale given refused
      reply =>
    rw [present, ← reply]
    refine plays_of_cached policy (plays_of_stale stale ?_)
    simp only [Context.renew, given]
    refine (plays_requestToken _ answer none).attempt.bind_ok (t := [_]) ?_
    rw [refused]
    exact plays_requestToken ctx.config.loginRequest answer' none

/-! ### Steps -/

/-- A step that ends in `k` goes through the course of its request. -/
theorem Calls.plays {decode : Json.Decoder α} {step : Step} {request : Request}
    {contract : Contract} {k : α → Except Error β} {kept kept' : Option AccessToken}
    {h : List Event} {r : Except Error β}
    (calls : ctx.config.Calls kept request (fun text ↦ contract.receive decode step text >>= k) h r
      kept') :
    ctx.Plays (ctx.callAs decode step request contract >>= fun a ↦ Action.of (k a)) kept
      h r kept' := by
  rw [Context.callAs_eq]
  cases calls with
  | noToken obtains => exact obtains.plays.bind_error.bind_error
  | answered obtains outcome =>
    rw [← bind_assoc] at outcome
    exact outcome ▸ (obtains.plays.bind_ok ((Context.Plays.execute _ _ _).bind_of _)).bind_of k

theorem Calls.plays_map {decode : Json.Decoder α} {step : Step} {request : Request}
    {contract : Contract} {f : α → β} {kept kept' : Option AccessToken} {h : List Event}
    {r : Except Error β}
    (calls : ctx.config.Calls kept request (fun text ↦ f <$> contract.receive decode step text) h r
      kept') :
    ctx.Plays (ctx.callAs decode step request contract >>= fun a ↦ pure (f a)) kept
      h r kept' := by
  simp only [map_eq_pure_bind] at calls
  exact calls.plays

/-- The downloads go through their course, and leave the kept token. -/
theorem Fetches.plays {token : String} {l : Lifecycle} {paths : List String} {h : List Event}
    {r : Except Error Lifecycle} (fetches : ctx.config.Fetches token l paths h r)
    (kept : Option AccessToken) :
    ctx.Plays (paths.foldlM (ctx.downloadOne token) l) kept h r kept := by
  induction fetches with
  | done l => exact .of (.ok l) kept
  | unnamed nameless =>
    rw [List.foldlM_cons]
    exact (Context.Plays.of_eq nameless kept).bind_error.bind_error
  | failed named =>
    rw [List.foldlM_cons]
    refine Context.Plays.bind_error ((Context.Plays.of_eq named kept).bind_nil ?_)
    exact (Context.Plays.download _ _ _ kept).bind_error
  | @refused _ path _ _ outcome named failure =>
    rw [List.foldlM_cons]
    refine Context.Plays.bind_error ((Context.Plays.of_eq named kept).bind_nil ?_)
    refine (Context.Plays.download _ _ _ kept).bind_ok (t := []) ?_
    rw [failure]
    exact .of (.error (outcome.refusal path)) kept
  | @next l path place _ outcome _ _ named success _ ih =>
    rw [List.foldlM_cons]
    have hone : ctx.Plays (ctx.downloadOne token l path) kept
        [.fetched (ctx.config.fetchRequest token path) place (.ok outcome)]
        (.ok (l.afterFetch ⟨path, place, outcome.bytes⟩)) kept := by
      refine (Context.Plays.of_eq named kept).bind_nil ?_
      refine (Context.Plays.download _ _ _ kept).bind_ok (t := []) ?_
      rw [success]
      exact .of (.ok _) kept
    exact hone.bind_ok ih

/-- A command that has a course is allowed, and goes through it. -/
theorem Performs.plays {l : Lifecycle} {kept kept' : Option AccessToken} {command : Command}
    {h : List Event} {r : Except Error Lifecycle}
    (performs : ctx.config.Performs l kept command h r kept') :
    ∃ act, ctx.perform command l = some act ∧ ctx.Plays act kept h r kept' := by
  cases performs with
  | call sends calls =>
    cases sends with
    | begin request state =>
      refine ⟨ctx.begin request l, by simp [Context.perform, state], ?_⟩
      exact Context.begin_eq .. ▸ calls.plays
    | @checkStatus id state =>
      exact ⟨ctx.checkStatus id l, by simp [Context.perform, state], calls.plays_map⟩
    | @dump id table format? state =>
      refine ⟨ctx.dump id table format? l, ?_, calls.plays_map⟩
      rcases state with state | state <;> simp [Context.perform, state]
    | @load id table file name state named =>
      refine ⟨ctx.load id table file l, ?_, ?_⟩
      · rcases state with state | state <;> simp [Context.perform, state]
      · exact (Context.Plays.of_eq named kept).bind_nil calls.plays_map
    | @finish id how state =>
      exact ⟨ctx.finish id how l, by simp [Context.perform, state], calls.plays_map⟩
  | @nameless id table file e state nameless =>
    refine ⟨ctx.load id table file l, ?_, ?_⟩
    · rcases state with state | state <;> simp [Context.perform, state]
    · exact (Context.Plays.of_eq nameless kept).bind_error
  | @noToken id _ _ _ state obtains =>
    exact ⟨ctx.downloadAll id l, by simp [Context.perform, state],
      obtains.plays.bind_error⟩
  | @downloads id _ _ token kept' r _ state obtains fetches outcome =>
    refine ⟨ctx.downloadAll id l, by simp [Context.perform, state], ?_⟩
    refine obtains.plays.bind_ok (outcome ▸ ?_)
    have hafter := (fetches.plays kept').bind_of fun l' ↦ .ok (l'.afterDownloads id)
    cases r <;> exact hafter

/-- Commands go through each of their courses in the world that answers as it says. -/
theorem Drives.plays {l : Lifecycle} {kept kept' : Option AccessToken} {commands : List Command}
    {h : List Event} {r : Except Error Lifecycle}
    (drives : ctx.config.Drives l kept commands h r kept') :
    ctx.Plays (ctx.drive commands l) kept h r kept' := by
  induction drives with
  | done l kept => exact .of (.ok l) kept
  | @refused l kept command rest refused =>
    intro x w hanswers hkept
    -- an allowed command has a course, here as anywhere
    have hnone : ctx.perform command l = none := by
      rcases hallowed : ctx.perform command l with - | act
      · rfl
      · obtain ⟨h, r, y, -, hperforms⟩ := ctx.exists_gives_perform hallowed x
        exact absurd (hkept ▸ hperforms) (refused h r _)
    simp only [Context.drive, hnone]
    exact Context.Plays.of (.error _) kept x w hanswers hkept
  | failed performs =>
    obtain ⟨act, hallowed, hplays⟩ := performs.plays
    simp only [Context.drive, hallowed]
    exact hplays.bind_error
  | next performs _ ih =>
    obtain ⟨act, hallowed, hplays⟩ := performs.plays
    simp only [Context.drive, hallowed]
    exact hplays.bind_ok ih

/-- A scenario that is not refused goes through each course of its commands, and is reported if they
succeed. -/
theorem Drives.plays_runScenario {scenario : Scenario} {kept kept' : Option AccessToken}
    {h : List Event} {r : Except Error Lifecycle} (valid : scenario.validate = .ok ())
    (drives : ctx.config.Drives {} kept scenario.commands h r kept') :
    ctx.Plays (ctx.runScenario scenario) kept h (r >>= Lifecycle.report) kept' :=
  (Context.Plays.of_eq valid kept).bind_nil (drives.plays.bind_of Lifecycle.report)

/-! ### The world that replays -/

variable {cfg : Config}

/-- In the world that replays the history, the action goes through it and has the outcome `r`; the
kept token is `kept` before and `kept'` after. -/
def Replays (cfg : Config) (act : Action (List Event) α) (kept : Option AccessToken)
    (h : List Event) (r : Except Error α) (kept' : Option AccessToken) : Prop :=
  ∀ x rest, x.world = h ++ rest → x.token? = kept →
    ∃ y, cfg.replaying.Gives act x h r y ∧ y.world = rest ∧ y.token? = kept'

theorem replays_of_plays {act : Action (List Event) α} {kept kept' : Option AccessToken}
    {h : List Event} {r : Except Error α} (plays : cfg.replaying.Plays act kept h r kept') :
    cfg.Replays act kept h r kept' := by
  intro x rest hworld hkept
  have hanswers : World.replay.Answers x.world h rest := hworld ▸ World.answers_replay h rest
  exact plays x rest hanswers hkept

theorem Performs.replays {l : Lifecycle} {kept kept' : Option AccessToken} {command : Command}
    {h : List Event} {r : Except Error Lifecycle}
    (performs : cfg.Performs l kept command h r kept') :
    ∃ act, cfg.replaying.perform command l = some act ∧ cfg.Replays act kept h r kept' := by
  have hperforms : cfg.replaying.config.Performs l kept command h r kept' := performs
  obtain ⟨act, hallowed, hplays⟩ := hperforms.plays
  exact ⟨act, hallowed, replays_of_plays hplays⟩

/-- A run is found by writing down its course. -/
theorem Drives.exists_drive {commands : List Command} {h : List Event} {l : Lifecycle}
    {kept : Option AccessToken} (drives : cfg.Drives {} none commands h (.ok l) kept) :
    ∃ y, cfg.replaying.drive commands {} (.start h) = .ok l y := by
  have hplays : cfg.replaying.Plays (cfg.replaying.drive commands {}) none h (.ok l) kept :=
    drives.plays
  obtain ⟨y, hgives, -⟩ := replays_of_plays hplays (.start h) [] (List.append_nil h).symm rfl
  exact ⟨y, hgives.apply_eq_ok⟩

end Config

/-! ### A rehearsal

A scenario with one dump, of one file, and one load, and a course in which everything succeeds. -/

/-- A value is received from the characters of a text. -/
theorem Contract.receive_of_read {contract : Contract} {decode : Json.Decoder α} {step : Step}
    {text : String} {cs : List Char} {a : α} (chars : text.toList = cs)
    (received : ((Response.read cs).toOption.bind fun response ↦
      (contract.verify response.headers response.body).toOption.bind fun _ ↦
        (decode response.body).toOption) = some a) :
    contract.receive decode step text = .ok a := by
  obtain ⟨response, hread, h⟩ := Option.bind_eq_some_iff.1 received
  obtain ⟨⟨⟩, hverify, hdecode⟩ := Option.bind_eq_some_iff.1 h
  simp only [receive, Response.parse, Response.bodyAs, chars, toOption_eq_some_iff.1 hread]
  show contract.verify _ _ >>= _ = _
  rw [toOption_eq_some_iff.1 hverify, toOption_eq_some_iff.1 hdecode]
  rfl

/-- A token is received from the characters of a text. -/
theorem AccessToken.ofReceived_of_read {text : String} {cs : List Char} {token : AccessToken}
    (chars : text.toList = cs)
    (received : ((Response.read cs).toOption.bind fun response ↦
      (TokenReply.ofJson response.body).toOption.bind fun reply ↦ (ofReply reply).toOption) =
        some token) :
    ofReceived (.ok text) = .ok token := by
  obtain ⟨response, hread, h⟩ := Option.bind_eq_some_iff.1 received
  obtain ⟨reply, hdecode, hreply⟩ := Option.bind_eq_some_iff.1 h
  show ofAnswer text = .ok token
  simp only [ofAnswer, Response.parse, chars, toOption_eq_some_iff.1 hread,
    toOption_eq_some_iff.1 hdecode]
  exact toOption_eq_some_iff.1 hreply

namespace Rehearsal

/-- The head of a reply. -/
def head : String := "HTTP/1.1 200 OK\n\n"

/-- A reply with the status line of success. -/
def success (body : String) : String := head ++ body

theorem toList_head : head.toList =
    ['H', 'T', 'T', 'P', '/', '1', '.', '1', ' ', '2', '0', '0', ' ', 'O', 'K', '\n', '\n'] :=
  String.toList_ofList

theorem toList_success (s t : List Char) :
    (success (String.ofList s ++ String.ofList t)).toList =
      ['H', 'T', 'T', 'P', '/', '1', '.', '1', ' ', '2', '0', '0', ' ', 'O', 'K', '\n', '\n'] ++
        (s ++ t) := by
  rw [success, String.toList_append, toList_head, String.toList_append, String.toList_ofList,
    String.toList_ofList]

def loginText : String := success ("\x7b\"accessToken\":" ++ "\"a\"\x7d")

/-- The reply to a login with another token. -/
def otherLoginText : String := success ("\x7b\"accessToken\":" ++ "\"b\"\x7d")

def openText : String :=
  success ("\x7b\"type\":\"read_only\",\"transactionId\":\"T\"," ++
    "\"status\":\"AVAILABLE\",\"startTime\":null,\"endTime\":null\x7d")

def dumpText : String :=
  success ("\x7b\"transactionId\":\"T\",\"table\":\"t\"," ++
    "\"format\":\"csv\",\"downloadPathList\":[\"a\"]\x7d")

def loadText : String :=
  success ("\x7b\"transactionId\":\"T\",\"dumpFiles\":[\"T/f\"]," ++
    "\"format\":\"detect_by_ext\",\"table\":\"t\"\x7d")

def commitText : String :=
  success ("\x7b\"type\":\"read_only\",\"transactionId\":\"T\"," ++
    "\"status\":\"COMMITED\",\"startTime\":null,\"endTime\":null\x7d")

def token : AccessToken := ⟨"a", none, none⟩
def otherToken : AccessToken := ⟨"b", none, none⟩
def opened : Transaction := ⟨.readOnly, "T", .available, none, none⟩
def dumped : DumpResult := ⟨"T", "t", .csv, ["a"]⟩
def fetched : Download := ⟨"a", "fs/dl/a", 1⟩
def loaded : LoadResult := ⟨"T", ["T/f"], "detect_by_ext", "t"⟩
def committed : Transaction := ⟨.readOnly, "T", .committed, none, none⟩

def scenario : Scenario := ⟨⟨.readOnly, 1, []⟩, "t", [some .csv], [.text "f"], .commit⟩

/-- The run of the scenario when it is finished. -/
def last : Lifecycle :=
  { state := .finished .commit "T"
    session := ⟨some "T", ["a"], ["fs/dl/a"]⟩
    record := ⟨some opened, some opened, [dumped], [fetched], [loaded], some committed⟩
    type := .readOnly }

theorem ofReceived_login : AccessToken.ofReceived (.ok loginText) = .ok token :=
  AccessToken.ofReceived_of_read (toList_success _ _) (by decide +kernel)

theorem ofReceived_otherLogin : AccessToken.ofReceived (.ok otherLoginText) = .ok otherToken :=
  AccessToken.ofReceived_of_read (toList_success _ _) (by decide +kernel)

/-- The transaction that the reply to begin tells of is received. -/
theorem receive_begin :
    (Contract.begin .readOnly).receive Transaction.ofJson .begin openText = .ok opened :=
  Contract.receive_of_read (toList_success _ _) (by decide +kernel)

/-- So are the transaction, the dump and the load that the replies to the later steps tell of. -/
theorem receive_later :
    (Contract.status .readOnly "T").receive Transaction.ofJson .status openText = .ok opened ∧
      (Contract.dump "T" "t" .csv).receive DumpResult.ofJson (.dump .csv) dumpText = .ok dumped ∧
      (Contract.load "T" "t" "f").receive LoadResult.ofJson .load loadText = .ok loaded ∧
      (Contract.finish .readOnly "T" .commit).receive Transaction.ofJson (.finish .commit)
        commitText = .ok committed := by
  refine ⟨?_, ?_, ?_, ?_⟩
  all_goals exact Contract.receive_of_read (toList_success _ _) (by decide +kernel)

theorem localPath_fetched : Artifact.localPath "fs/dl" "a" = .ok "fs/dl/a" := rfl

theorem fileName_loaded : (UploadPath.text "f").fileName = .ok "f" := rfl

/-- A request whose reply is accepted, behind a login. -/
theorem exists_performs (l l' : Lifecycle) {command : Command} {request : Request}
    {receive : String → Except Error Lifecycle} (kept : Option AccessToken) (text : String)
    (sends : l.Sends {} command request receive) (accepted : receive text = .ok l') :
    ∃ h, ({} : Config).Performs l kept command h (.ok l') (some token) := by
  have hanswer : (Except.ok text >>= receive) = .ok l' := accepted
  exact ⟨_, .call sends (.answered (.perStep rfl ofReceived_login) hanswer)⟩

/-- The run of the scenario after the first command. -/
def begun : Lifecycle :=
  { state := .begun "T"
    session := { transactionId? := some "T" }
    record := { begun := some opened }
    type := .readOnly }

def statusChecked : Lifecycle := begun.afterStatus "T" opened

def dumpedOnce : Lifecycle := statusChecked.afterDump "T" dumped

/-- The run of the scenario after its downloads, and after what comes behind them. -/
def afterLast (l : Lifecycle) : Lifecycle :=
  ((l.afterDownloads "T").afterLoad "T" loaded).afterFinish "T" .commit committed

/-- Whatever the dump makes available, the scenario has a course in which everything succeeds, if
the downloads have. -/
theorem exists_drives_of_fetches {text : String} {result : DumpResult} {h : List Event}
    {l : Lifecycle} (received : (Contract.dump "T" "t" .csv).receive DumpResult.ofJson (.dump .csv)
      text = .ok result)
    (fetches : ({} : Config).Fetches token.accessToken (statusChecked.afterDump "T" result)
      (statusChecked.afterDump "T" result).session.downloadPaths h (.ok l))
    (type : l.type = .readOnly) :
    ∃ h, ({} : Config).Drives {} none scenario.commands h (.ok (afterLast l)) (some token) := by
  obtain ⟨receive_status, -, receive_load, receive_commit⟩ := receive_later
  obtain ⟨h₁, hbegin⟩ := exists_performs {} begun none openText (.begin ⟨.readOnly, 1, []⟩ rfl)
    (bind_eq_ok_iff.2 ⟨opened, receive_begin, rfl⟩)
  obtain ⟨h₂, hstatus⟩ := exists_performs begun statusChecked (some token) openText
    (.checkStatus rfl) (map_eq_ok_iff.2 ⟨opened, receive_status, rfl⟩)
  obtain ⟨h₃, hdump⟩ := exists_performs statusChecked (statusChecked.afterDump "T" result)
    (some token) text (.dump "t" (some .csv) (.inl rfl)) (map_eq_ok_iff.2 ⟨result, received, rfl⟩)
  have hdownloads : ({} : Config).Performs (statusChecked.afterDump "T" result) (some token)
      .downloadAll _ (.ok (l.afterDownloads "T")) (some token) :=
    .downloads rfl (.perStep rfl ofReceived_login) fetches rfl
  obtain ⟨h₅, hload⟩ := exists_performs (l.afterDownloads "T")
    ((l.afterDownloads "T").afterLoad "T" loaded) (some token) loadText
    (.load "t" (.text "f") (.inl rfl) fileName_loaded) (map_eq_ok_iff.2 ⟨loaded, receive_load, rfl⟩)
  have hcommit : (Contract.finish l.type "T" .commit).receive Transaction.ofJson (.finish .commit)
      commitText = .ok committed := type ▸ receive_commit
  obtain ⟨h₆, hfinish⟩ := exists_performs ((l.afterDownloads "T").afterLoad "T" loaded)
    (afterLast l) (some token) commitText (.finish .commit rfl)
    (map_eq_ok_iff.2 ⟨committed, hcommit, rfl⟩)
  exact ⟨_, .next hbegin (.next hstatus (.next hdump (.next hdownloads (.next hload
    (.next hfinish (.done (afterLast l) _))))))⟩

/-- The scenario has a course in which everything succeeds. -/
theorem exists_drives :
    ∃ h, ({} : Config).Drives {} none scenario.commands h (.ok last) (some token) := by
  obtain ⟨-, receive_dump, -⟩ := receive_later
  have hfetches : ({} : Config).Fetches token.accessToken dumpedOnce ["a"] _
      (.ok (dumpedOnce.afterFetch fetched)) :=
    .next localPath_fetched (show DownloadOutcome.isSuccess ⟨200, 1⟩ = true from rfl) (.done _)
  exact exists_drives_of_fetches receive_dump hfetches rfl

end Rehearsal

end TransactionHarness
