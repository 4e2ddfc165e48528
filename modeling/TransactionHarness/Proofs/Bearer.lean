import Mathlib.Data.List.Forall2
import TransactionHarness.Proofs.Address
import TransactionHarness.Proofs.Grants
/-!
# Who bears which token

The token of a request is not chosen by the step that sends it: it is the one in the latest reply in
which the service has given a token, whether that was the reply to a login or to a refresh, and
whether it came before this step or before an earlier one. A run keeps at most that token
(`Config.Obtains.heeds`), so a kept token and a fresh one need not be told apart.

* `lastToken`: the token that the service has given last.
* `Request.Heeds`: what a request has to look like behind a history.
* `Heeds`: a history in which each request does, and which ends when a login is refused.
* `Command.Asks`, `Command.LogsIn`: what a command asks, under the policy of one login for each
  step.
* `Context.heeds_tokens`: every run heeds its tokens.
-/

namespace TransactionHarness

variable {σ α : Type}

/-- The token that the service gives in an event, if it is a request for one. -/
def Event.token? (cfg : Config) : Event → Option AccessToken
  | answered request answer =>
    if cfg.isTokenUrl request.url then (AccessToken.ofReceived answer).toOption else none
  | _ => none

/-- The token that the service has given last. -/
def lastToken (cfg : Config) (h : List Event) : Option AccessToken :=
  (h.filterMap (Event.token? cfg)).getLast?

section LastToken

variable {cfg : Config}

theorem lastToken_append (h t : List Event) :
    lastToken cfg (h ++ t) = (lastToken cfg t).or (lastToken cfg h) := by
  rw [lastToken, List.filterMap_append, List.getLast?_append]
  rfl

/-- An event that gives a token gives the last one, and any other event leaves it. -/
theorem lastToken_concat (h : List Event) (e : Event) :
    lastToken cfg (h ++ [e]) = (e.token? cfg).or (lastToken cfg h) := by
  rw [lastToken_append, lastToken, List.filterMap_cons]
  cases e.token? cfg <;> rfl

/-- Steps give no token. -/
theorem lastToken_append_of_steps {h t : List Event} (steps : ∀ e ∈ t, cfg.isStep e = true) :
    lastToken cfg (h ++ t) = lastToken cfg h := by
  induction t generalizing h with
  | nil => rw [List.append_nil]
  | cons e t ih =>
    obtain ⟨he, ht⟩ := List.forall_mem_cons.1 steps
    have hnone : e.token? cfg = none := by
      cases e with
      | answered request answer =>
        have hurl : cfg.isTokenUrl request.url = false := cfg.isTokenUrl_of_isStep he rfl
        simp [Event.token?, hurl]
      | fetched | clock => rfl
    rw [List.append_cons, ih ht, lastToken_concat, hnone, Option.none_or]

/-- A token that the service gives is a text that is not empty. -/
theorem accessToken_ne_of_ofReceived {answer : Except Error String} {token : AccessToken}
    (given : AccessToken.ofReceived answer = .ok token) : token.accessToken ≠ "" := by
  obtain ⟨text, -, hanswer⟩ := bind_eq_ok_iff.1 given
  obtain ⟨reply, -, grants⟩ := AccessToken.ofAnswer_eq_ok_iff.1 hanswer
  exact grants.ne

theorem accessToken_ne_of_lastToken {h : List Event} {token : AccessToken}
    (last : lastToken cfg h = some token) : token.accessToken ≠ "" := by
  obtain ⟨e, -, he⟩ := List.mem_filterMap.1 (List.mem_of_getLast? last)
  cases e with
  | answered request answer =>
    rw [Event.token?] at he
    split at he
    · have hgiven : AccessToken.ofReceived answer = .ok token := toOption_eq_some_iff.1 he
      exact accessToken_ne_of_ofReceived hgiven
    · cases he
  | fetched | clock => cases he

end LastToken

/-- What a request has to look like, with the token that has been given last. -/
structure Request.Heeds (cfg : Config) (last : Option AccessToken) (request : Request) : Prop where
  /-- A login has the user and the password, and no token. -/
  login : request.url = cfg.endpoint "/auth" → request =
    { method := .post
      url := cfg.endpoint "/auth"
      bearer? := none
      body := .form [("uid", cfg.credentials.uid), ("pw", cfg.credentials.pw)] }
  refresh : request.url = cfg.endpoint "/refresh" → request.bearer? = none
  /-- Every other request has the token. -/
  step : cfg.isTokenUrl request.url = false → ∃ token, last = some token ∧
    token.accessToken ≠ "" ∧ request.bearer? = some token.accessToken

/-- The event is a login to which the service has not given a token. -/
def Event.RefusesLogin (cfg : Config) : Event → Prop
  | answered request answer =>
    request.url = cfg.endpoint "/auth" ∧ (AccessToken.ofReceived answer).isOk = false
  | _ => False

/-- Behind the past, each request of the history has the token given last, and a refused login is
where the history ends, without success. -/
def Heeds (cfg : Config) (ok : Bool) : List Event → List Event → Prop
  | _, [] => True
  | past, e :: h =>
    (∀ request, e.request? = some request → request.Heeds cfg (lastToken cfg past)) ∧
      (e.RefusesLogin cfg → h = [] ∧ ok = false) ∧ Heeds cfg ok (past ++ [e]) h

namespace Heeds

variable {cfg : Config} {ok : Bool} {past h t : List Event}

theorem append (first : Heeds cfg true past h) (second : Heeds cfg ok (past ++ h) t) :
    Heeds cfg ok past (h ++ t) := by
  induction h generalizing past with
  | nil => rwa [List.append_nil] at second
  | cons e h ih =>
    obtain ⟨hrequest, hrefuses, hrest⟩ := first
    refine ⟨hrequest, fun refuses ↦ ?_, ih hrest ?_⟩
    · -- the first part ends well, so that no login in it was refused
      exact absurd (hrefuses refuses).2.symm Bool.false_ne_true
    rwa [List.append_assoc]

/-- The rule at one place of the history. -/
theorem of_split (heeds : Heeds cfg ok past h) {before after : List Event} {e : Event}
    (here : h = before ++ e :: after) :
    (∀ request, e.request? = some request → request.Heeds cfg (lastToken cfg (past ++ before))) ∧
      (e.RefusesLogin cfg → after = [] ∧ ok = false) := by
  subst here
  induction before generalizing past with
  | nil =>
    rw [List.append_nil]
    exact ⟨heeds.1, heeds.2.1⟩
  | cons e' before ih =>
    have hrest := ih heeds.2.2
    rwa [List.append_assoc] at hrest

end Heeds

/-! ### Obtaining a token -/

/-- A kept token is the one that was given last. -/
def Knows (cfg : Config) (past : List Event) (kept : Option AccessToken) : Prop :=
  ∀ token, kept = some token → lastToken cfg past = some token

namespace Config

variable {cfg : Config} {past h : List Event} {kept kept' : Option AccessToken}

theorem heeds_loginRequest (last : Option AccessToken) : cfg.loginRequest.Heeds cfg last where
  login _ := rfl
  refresh h := absurd h cfg.endpoint_auth_ne_refresh
  step h := absurd (h.symm.trans cfg.isTokenUrl_auth) Bool.false_ne_true

theorem heeds_refreshRequest (token : String) (last : Option AccessToken) :
    (cfg.refreshRequest token).Heeds cfg last where
  login h := absurd h.symm cfg.endpoint_auth_ne_refresh
  refresh _ := rfl
  step h := absurd (h.symm.trans cfg.isTokenUrl_refresh) Bool.false_ne_true

/-- A login, whatever comes of it. -/
theorem heeds_login {answer : Except Error String} {r : Except Error AccessToken}
    (reply : AccessToken.ofReceived answer = r) :
    Heeds cfg r.isOk past [.answered cfg.loginRequest answer] := by
  refine ⟨fun request hrequest ↦ ?_, fun hrefuses ↦ ?_, trivial⟩
  · exact Option.some.inj hrequest ▸ heeds_loginRequest _
  · exact ⟨rfl, reply ▸ hrefuses.2⟩

/-- A refresh, after which the history goes on whatever comes of it. -/
theorem heeds_refresh {ok : Bool} {token : String} {answer : Except Error String}
    (rest : Heeds cfg ok (past ++ [.answered (cfg.refreshRequest token) answer]) h) :
    Heeds cfg ok past (.answered (cfg.refreshRequest token) answer :: h) := by
  refine ⟨fun request hrequest ↦ ?_, fun hrefuses ↦ ?_, rest⟩
  · exact Option.some.inj hrequest ▸ heeds_refreshRequest token _
  · exact absurd hrefuses.1.symm cfg.endpoint_auth_ne_refresh

theorem heeds_clock {ok : Bool} {now : Instant} (rest : Heeds cfg ok (past ++ [.clock now]) h) :
    Heeds cfg ok past (.clock now :: h) := by
  refine ⟨?_, False.elim, rest⟩
  rintro _ ⟨⟩

theorem lastToken_login (answer : Except Error String) :
    lastToken cfg (past ++ [.answered cfg.loginRequest answer]) =
      (AccessToken.ofReceived answer).toOption.or (lastToken cfg past) := by
  rw [lastToken_concat, Event.token?, if_pos]
  exact cfg.isTokenUrl_auth

theorem lastToken_refresh (token : String) (answer : Except Error String) :
    lastToken cfg (past ++ [.answered (cfg.refreshRequest token) answer]) =
      (AccessToken.ofReceived answer).toOption.or (lastToken cfg past) := by
  rw [lastToken_concat, Event.token?, if_pos]
  exact cfg.isTokenUrl_refresh

/-- A token in the reply to a login takes the place of the kept one. -/
theorem knows_login {answer : Except Error String} {r : Except Error AccessToken}
    (reply : AccessToken.ofReceived answer = r) (knows : Knows cfg past kept) :
    Knows cfg (past ++ [.answered cfg.loginRequest answer]) (r.toOption.or kept) := by
  intro token htoken
  rw [lastToken_login, reply]
  rcases r with e | fresh
  · exact knows token htoken
  · exact htoken

theorem knows_of_login {answer : Except Error String} {r : Except Error AccessToken}
    (reply : AccessToken.ofReceived answer = r) :
    Knows cfg (past ++ [.answered cfg.loginRequest answer]) r.toOption := by
  have hnone : Knows cfg past none := by rintro _ ⟨⟩
  have hknows := knows_login reply hnone
  rwa [Option.or_none] at hknows

/-- Obtaining a token heeds the tokens, and what is kept afterwards or handed on is the last one. -/
theorem Obtains.heeds {r : Except Error AccessToken} (obtains : cfg.Obtains kept h r kept')
    (knows : Knows cfg past kept) :
    Heeds cfg r.isOk past h ∧ Knows cfg (past ++ h) kept' ∧ Knows cfg (past ++ h) r.toOption := by
  cases obtains with
  | perStep _ reply => exact ⟨heeds_login reply, knows_login reply knows, knows_of_login reply⟩
  | absent _ _ reply => exact ⟨heeds_login reply, knows_of_login reply, knows_of_login reply⟩
  | @reused _ now token _ present _ =>
    have hsame : Knows cfg (past ++ [.clock now]) (some token) := by
      rw [Knows, lastToken_concat]
      exact present ▸ knows
    exact ⟨heeds_clock trivial, hsame, hsame⟩
  | @unrefreshable _ now token answer r _ _ _ _ reply =>
    rw [List.append_cons]
    exact ⟨heeds_clock (heeds_login reply), knows_of_login reply, knows_of_login reply⟩
  | @refreshed _ now token fresh refreshToken answer _ _ _ _ reply =>
    have hfresh :
        Knows cfg (past ++ [.clock now, .answered (cfg.refreshRequest refreshToken) answer])
          (some fresh) := by
      rw [List.append_cons, Knows, lastToken_refresh, reply]
      exact fun _ htoken ↦ htoken
    exact ⟨heeds_clock (heeds_refresh trivial), hfresh, hfresh⟩
  | @replaced _ now token refreshToken answer answer' e r _ _ _ _ refused reply =>
    rw [List.append_cons, List.append_cons]
    exact ⟨heeds_clock (heeds_refresh (heeds_login reply)), knows_of_login reply,
      knows_of_login reply⟩

/-! ### Steps -/

/-- Requests of steps that bear the token given last. -/
theorem heeds_of_steps {ok : Bool} {token : AccessToken} (last : lastToken cfg past = some token)
    (steps : ∀ e ∈ h, cfg.isStep e = true ∧
      ∀ request, e.request? = some request → request.bearer? = some token.accessToken) :
    Heeds cfg ok past h := by
  induction h generalizing past with
  | nil => trivial
  | cons e h ih =>
    obtain ⟨⟨hstep, hbearer⟩, hrest⟩ := List.forall_mem_cons.1 steps
    -- a step does not go where tokens are asked for, so the first two rules are not about it
    have hurl {request : Request} (asked : e.request? = some request) {url : String}
        (token : cfg.isTokenUrl url = true) : request.url ≠ url := fun hsame ↦ by
      have hnot := cfg.isTokenUrl_of_isStep hstep asked
      rw [hsame, token] at hnot
      cases hnot
    refine ⟨fun request asked ↦ ?_, fun hrefuses ↦ ?_, ih ?_ hrest⟩
    · exact
        { login := fun h ↦ absurd h (hurl asked cfg.isTokenUrl_auth)
          refresh := fun h ↦ absurd h (hurl asked cfg.isTokenUrl_refresh)
          step := fun _ ↦
            ⟨token, last, accessToken_ne_of_lastToken last, hbearer request asked⟩ }
    · cases e with
      | answered request answer => exact absurd hrefuses.1 (hurl rfl cfg.isTokenUrl_auth)
      | fetched | clock => exact hrefuses.elim
    · rw [lastToken_append_of_steps (by simpa using hstep), last]

/-- Behind the token that was obtained come requests that bear it. -/
theorem Obtains.heeds_steps {ok : Bool} {token : AccessToken} {t : List Event}
    (obtains : cfg.Obtains kept h (.ok token) kept') (knows : Knows cfg past kept)
    (steps : ∀ e ∈ t, cfg.isStep e = true ∧
      ∀ request, e.request? = some request → request.bearer? = some token.accessToken) :
    Heeds cfg ok past (h ++ t) ∧ Knows cfg (past ++ (h ++ t)) kept' := by
  obtain ⟨hheeds, hkept, htoken⟩ := obtains.heeds knows
  refine ⟨hheeds.append (heeds_of_steps (htoken token rfl) steps), fun token' htoken' ↦ ?_⟩
  rw [← List.append_assoc, lastToken_append_of_steps fun e he ↦ (steps e he).1]
  exact hkept token' htoken'

theorem Calls.heeds {r : Except Error α} {request : Request} {receive : String → Except Error α}
    (calls : cfg.Calls kept request receive h r kept') (knows : Knows cfg past kept)
    (step : cfg.isTokenUrl request.url = false) :
    Heeds cfg r.isOk past h ∧ Knows cfg (past ++ h) kept' := by
  cases calls with
  | noToken obtains =>
    obtain ⟨hheeds, hkept, -⟩ := obtains.heeds knows
    exact ⟨hheeds, hkept⟩
  | @answered _ token _ answer _ obtains =>
    refine obtains.heeds_steps knows (List.forall_mem_singleton.2 ⟨?_, ?_⟩)
    · simp [isStep, Event.request?, Request.withBearer, step]
    · rintro _ ⟨⟩
      rfl

/-- All downloads bear the token that was obtained for them. -/
theorem Fetches.bears {token : String} {l : Lifecycle} {paths : List String}
    {r : Except Error Lifecycle} (fetches : cfg.Fetches token l paths h r) :
    ∀ e ∈ h, cfg.isStep e = true ∧
      ∀ request, e.request? = some request → request.bearer? = some token := by
  -- however a download ends, its request is the same
  have hone (path place : String) (answer : Except Error DownloadOutcome) :
      cfg.isStep (.fetched (cfg.fetchRequest token path) place answer) = true ∧
        ∀ request, some (cfg.fetchRequest token path) = some request →
          request.bearer? = some token := by
    refine ⟨by simp [isStep, Event.request?, isTokenUrl_fetchRequest], ?_⟩
    rintro _ ⟨⟩
    rfl
  induction fetches with
  | done | unnamed => exact fun _ he ↦ absurd he List.not_mem_nil
  | failed | refused => exact List.forall_mem_singleton.2 (hone _ _ _)
  | next _ _ _ ih => exact List.forall_mem_cons.2 ⟨hone _ _ _, ih⟩

/-! ### Runs -/

theorem Performs.heeds {l : Lifecycle} {command : Command} {r : Except Error Lifecycle}
    (performs : cfg.Performs l kept command h r kept') (knows : Knows cfg past kept) :
    Heeds cfg r.isOk past h ∧ Knows cfg (past ++ h) kept' := by
  cases performs with
  | call sends calls => exact calls.heeds knows (cfg.isTokenUrl_of_sends sends)
  | nameless => exact ⟨trivial, by rwa [List.append_nil]⟩
  | noToken _ obtains =>
    obtain ⟨hheeds, hkept, -⟩ := obtains.heeds knows
    exact ⟨hheeds, hkept⟩
  | downloads _ obtains fetches => exact obtains.heeds_steps knows fetches.bears

theorem Drives.heeds {l : Lifecycle} {commands : List Command} {r : Except Error Lifecycle}
    (drives : cfg.Drives l kept commands h r kept') (knows : Knows cfg past kept) :
    Heeds cfg r.isOk past h := by
  induction drives generalizing past with
  | done | refused => trivial
  | failed performs => exact (performs.heeds knows).1
  | next performs _ ih =>
    obtain ⟨hheeds, hkept⟩ := performs.heeds knows
    exact hheeds.append (ih hkept)

end Config

/-! ### A login for each step -/

/-- The event is a request of the command. -/
def Command.Asks (cfg : Config) (command : Command) (e : Event) : Prop :=
  match command with
  | .begin request => ∃ token, e.request? = some ((cfg.beginRequest request).withBearer token)
  | .checkStatus => ∃ id token, e.request? = some ((cfg.statusRequest id).withBearer token)
  | .dump table format? => ∃ id token,
    e.request? = some ((cfg.dumpRequest id table format?).withBearer token)
  | .downloadAll => ∃ path token, e.request? = some ((cfg.downloadRequest path).withBearer token)
  | .load table file => ∃ id token,
    e.request? = some ((cfg.loadRequest id table file).withBearer token)
  | .finish how => ∃ id token, e.request? = some ((cfg.finishRequest id how).withBearer token)

/-- The history is a login and the requests of the command behind it, or nothing. -/
def Command.LogsIn (cfg : Config) (command : Command) (h : List Event) : Prop :=
  h = [] ∨ ∃ answer steps, h = .answered cfg.loginRequest answer :: steps ∧
    ∀ e ∈ steps, cfg.isStep e = true ∧ command.Asks cfg e

namespace Config

variable {cfg : Config} {h : List Event} {kept kept' : Option AccessToken}

theorem Obtains.eq_login {r : Except Error AccessToken} (policy : cfg.tokenPolicy = .perStep)
    (obtains : cfg.Obtains kept h r kept') : ∃ answer, h = [.answered cfg.loginRequest answer] := by
  cases obtains with
  | @perStep answer => exact ⟨answer, rfl⟩
  | absent other | reused other | unrefreshable other | refreshed other | replaced other =>
    rw [policy] at other
    cases other

theorem Fetches.asks {token : String} {l : Lifecycle} {paths : List String}
    {r : Except Error Lifecycle} (fetches : cfg.Fetches token l paths h r) :
    ∀ e ∈ h, Command.downloadAll.Asks cfg e := by
  induction fetches with
  | done | unnamed => exact fun _ he ↦ absurd he List.not_mem_nil
  | failed | refused => exact List.forall_mem_singleton.2 ⟨_, token, rfl⟩
  | next _ _ _ ih => exact List.forall_mem_cons.2 ⟨⟨_, token, rfl⟩, ih⟩

theorem logsIn_login (cfg : Config) (command : Command) (answer : Except Error String) :
    command.LogsIn cfg [.answered cfg.loginRequest answer] :=
  .inr ⟨answer, [], rfl, fun _ he ↦ absurd he List.not_mem_nil⟩

/-- A command logs in once, and only a file without a name keeps it from that. -/
theorem Performs.logsIn {l : Lifecycle} {command : Command} {r : Except Error Lifecycle}
    (policy : cfg.tokenPolicy = .perStep) (performs : cfg.Performs l kept command h r kept') :
    command.LogsIn cfg h ∧ (r.isOk = true → h ≠ []) := by
  cases performs with
  | call sends calls =>
    cases calls with
    | noToken obtains =>
      obtain ⟨answer, rfl⟩ := obtains.eq_login policy
      exact ⟨cfg.logsIn_login command answer, fun _ ↦ List.cons_ne_nil _ _⟩
    | @answered _ token _ answer' _ obtains =>
      obtain ⟨answer, rfl⟩ := obtains.eq_login policy
      refine ⟨.inr ⟨answer, _, rfl, List.forall_mem_singleton.2 ⟨?_, ?_⟩⟩,
        fun _ ↦ List.cons_ne_nil _ _⟩
      · simp [isStep, Event.request?, Request.withBearer, cfg.isTokenUrl_of_sends sends]
      · cases sends with
        | begin => exact ⟨_, rfl⟩
        | checkStatus | dump | load | finish => exact ⟨_, _, rfl⟩
  | nameless => exact ⟨.inl rfl, fun hok ↦ Bool.noConfusion hok⟩
  | noToken _ obtains =>
    obtain ⟨answer, rfl⟩ := obtains.eq_login policy
    exact ⟨cfg.logsIn_login .downloadAll answer, fun _ ↦ List.cons_ne_nil _ _⟩
  | downloads _ obtains fetches =>
    obtain ⟨answer, rfl⟩ := obtains.eq_login policy
    refine ⟨.inr ⟨answer, _, rfl, fun e he ↦ ?_⟩, fun _ ↦ List.cons_ne_nil _ _⟩
    exact ⟨(fetches.bears e he).1, fetches.asks e he⟩

/-- The history of a run has one part for each command that was carried out, the last of which may
have failed. -/
theorem Drives.logsIn {l : Lifecycle} {commands : List Command} {r : Except Error Lifecycle}
    (policy : cfg.tokenPolicy = .perStep) (drives : cfg.Drives l kept commands h r kept') :
    ∃ first parts, first <+: commands ∧ h = parts.flatten ∧
      List.Forall₂ (Command.LogsIn cfg) first parts ∧
      (r.isOk = true → first = commands ∧ ∀ part ∈ parts, part ≠ []) := by
  induction drives with
  | done =>
    have hall (part : List Event) (hpart : part ∈ []) : part ≠ [] := absurd hpart List.not_mem_nil
    exact ⟨[], [], List.prefix_rfl, rfl, .nil, fun _ ↦ ⟨rfl, hall⟩⟩
  | refused =>
    exact ⟨[], [], List.nil_prefix, rfl, .nil, fun hok ↦ absurd hok Bool.false_ne_true⟩
  | @failed _ _ _ command rest h _ performs =>
    have hparts := List.Forall₂.cons (performs.logsIn policy).1 .nil
    refine ⟨[command], [h], ?_, by simp, hparts, fun hok ↦ absurd hok Bool.false_ne_true⟩
    exact List.cons_prefix_cons.2 ⟨rfl, List.nil_prefix⟩
  | @next _ _ _ _ _ command _ h _ _ performs _ ih =>
    obtain ⟨first, parts, hprefix, rfl, hparts, hok⟩ := ih
    obtain ⟨hlogsIn, hne⟩ := performs.logsIn policy
    refine ⟨command :: first, h :: parts, List.cons_prefix_cons.2 ⟨rfl, hprefix⟩, rfl,
      .cons hlogsIn hparts, fun ok ↦ ?_⟩
    obtain ⟨rfl, hall⟩ := hok ok
    exact ⟨rfl, List.forall_mem_cons.2 ⟨hne rfl, hall⟩⟩

end Config

section Logins

variable {cfg : Config} {commands : List Command} {parts : List (List Event)}

/-- What is sent in a part is one login, and otherwise nothing that is about tokens. -/
theorem Command.LogsIn.exists_sentIn {command : Command} {part : List Event}
    (logsIn : command.LogsIn cfg part) : part = [] ∨ ∃ steps,
      sentIn part = .execute cfg.loginRequest :: steps ∧
        ∀ s ∈ steps, cfg.isTokenUrl s.request.url = false := by
  rcases logsIn with rfl | ⟨answer, steps, rfl, hsteps⟩
  · exact .inl rfl
  · exact .inr ⟨sentIn steps, rfl, Config.isTokenUrl_of_mem_sentIn fun e he ↦ (hsteps e he).1⟩

/-- Where there is a login for each step, nothing is refreshed. -/
theorem url_ne_refresh_of_logsIn (logsIn : List.Forall₂ (Command.LogsIn cfg) commands parts) :
    ∀ s ∈ sentIn parts.flatten, s.request.url ≠ cfg.endpoint "/refresh" := by
  induction logsIn with
  | nil => exact fun _ hs ↦ absurd hs List.not_mem_nil
  | cons hpart _ ih =>
    rw [List.flatten_cons, sentIn_append, List.forall_mem_append]
    refine ⟨fun s hs ↦ ?_, ih⟩
    rcases hpart.exists_sentIn with rfl | ⟨steps, hsent, hsteps⟩
    · cases hs
    · rw [hsent] at hs
      rcases List.mem_cons.1 hs with rfl | hs
      · exact cfg.endpoint_auth_ne_refresh
      · intro hurl
        have hnot := hsteps s hs
        rw [hurl, cfg.isTokenUrl_refresh] at hnot
        cases hnot

/-- There are as many logins as parts. -/
theorem countP_login_of_logsIn (logsIn : List.Forall₂ (Command.LogsIn cfg) commands parts)
    (ne : ∀ part ∈ parts, part ≠ []) :
    (sentIn parts.flatten).countP cfg.isLogin = commands.length := by
  induction logsIn with
  | nil => rfl
  | cons hpart _ ih =>
    obtain ⟨hne, hrest⟩ := List.forall_mem_cons.1 ne
    obtain ⟨steps, hsent, hsteps⟩ := hpart.exists_sentIn.resolve_left hne
    -- one login at the front of the part, and none behind it
    have hnone : steps.countP cfg.isLogin = 0 := by
      refine List.countP_eq_zero.2 fun s hs hurl ↦ ?_
      have hnot := hsteps s hs
      rw [eq_of_beq hurl, cfg.isTokenUrl_auth] at hnot
      cases hnot
    have hlogin : cfg.isLogin (.execute cfg.loginRequest) = true :=
      beq_self_eq_true (cfg.endpoint "/auth")
    rw [List.flatten_cons, sentIn_append, List.countP_append, ih hrest, hsent,
      List.countP_cons_of_pos hlogin, hnone, List.length_cons]
    omega

end Logins

/-! ### A run with two logins -/

namespace Rehearsal

/-- Two logins are answered with a token each, and the request behind the first one as well. -/
def twoLogins : Playback := ⟨[.text loginText, .text openText, .text otherLoginText], none⟩

/-- Begin bears the token in the first reply, and status the one in the second. Nothing is left to
answer it. -/
theorem exists_run_twoLogins :
    ∃ r y, (({} : Config).playing.runScenario scenario).attempt (.start twoLogins) = .ok r y ∧
      y.sent = [.execute ({} : Config).loginRequest,
        .execute ((({} : Config).beginRequest scenario.begin).withBearer "a"),
        .execute ({} : Config).loginRequest,
        .execute ((({} : Config).statusRequest "T").withBearer "b")] := by
  let error : Error := .transport "script exhausted"
  let begins : List Event := [.answered ({} : Config).loginRequest (.ok loginText),
    .answered ((({} : Config).beginRequest scenario.begin).withBearer "a") (.ok openText)]
  let checks : List Event := [.answered ({} : Config).loginRequest (.ok otherLoginText),
    .answered ((({} : Config).statusRequest "T").withBearer "b") (.error error)]
  have hopened : (Except.ok openText >>= fun text ↦
      (Contract.begin .readOnly).receive Transaction.ofJson .begin text >>=
        Lifecycle.afterBegin {} scenario.begin) = .ok begun :=
    bind_eq_ok_iff.2 ⟨_, rfl, bind_eq_ok_iff.2 ⟨_, receive_begin, rfl⟩⟩
  have hbegin : ({} : Config).Performs {} none (.begin scenario.begin) begins (.ok begun)
      (some token) :=
    .call (.begin _ rfl) (.answered (.perStep rfl ofReceived_login) hopened)
  have hstatus : ({} : Config).Performs begun (some token) .checkStatus checks (.error error)
      (some otherToken) :=
    .call (.checkStatus rfl) (.answered (.perStep rfl ofReceived_otherLogin) rfl)
  have hplays : ({} : Config).playing.Plays (({} : Config).playing.runScenario scenario) none
      (begins ++ checks) (.error error) (some otherToken) :=
    Config.Drives.plays_runScenario rfl (.next hbegin (.failed hstatus))
  have hanswers : ({} : Config).playing.world.Answers twoLogins (begins ++ checks) ⟨[], none⟩ :=
    ⟨_, rfl, _, rfl, _, rfl, _, rfl, rfl⟩
  obtain ⟨y, hgives, -⟩ := hplays (.start twoLogins) ⟨[], none⟩ hanswers rfl
  exact ⟨_, y, hgives.outcome, hgives.sent⟩

end Rehearsal

/-! ### All runs -/

/-- **Who bears which token.** Whatever the world and its clock, each request of a run looks as
`Request.Heeds` says: logins and refreshes bear no token, and every other request bears the token
that the service has given last, which is not empty. When a login is refused, nothing comes after
it. Under the policy of one login for each step, the run has one part for each command that was
carried out, with one login at its front, there are no refreshes, and a run that succeeds logs in
once for each dump and each load and four times more, however many files are downloaded. -/
theorem Context.heeds_tokens (ctx : Context σ) (scenario : Scenario) (world : σ) :
    ∃ r y h, (ctx.runScenario scenario).attempt (.start world) = .ok r y ∧
      ctx.world.Answers world h y.world ∧ y.sent = sentIn h ∧
      (∀ before e after, h = before ++ e :: after →
        (∀ request, e.request? = some request →
          request.Heeds ctx.config (lastToken ctx.config before)) ∧
        (e.RefusesLogin ctx.config → after = [] ∧ r.isOk = false)) ∧
      (ctx.config.tokenPolicy = .perStep →
        (∃ commands parts, commands <+: scenario.commands ∧ h = parts.flatten ∧
          List.Forall₂ (Command.LogsIn ctx.config) commands parts) ∧
        (∀ s ∈ y.sent, s.request.url ≠ ctx.config.endpoint "/refresh") ∧
        (r.isOk = true →
          y.sent.countP ctx.config.isLogin =
            scenario.dumpFormats.length + scenario.loadFiles.length + 4)) := by
  obtain ⟨h, r, y, hgives, hcourse⟩ := ctx.exists_gives_runScenario scenario (.start world)
  have hsent : y.sent = sentIn h := hgives.sent
  refine ⟨r, y, h, hgives.outcome, hgives.answers, hsent, ?_⟩
  rcases hcourse with ⟨e, -, rfl, rfl⟩ | ⟨-, r', rfl, hdrives⟩
  · -- nothing has happened
    rw [hsent]
    refine ⟨fun _ _ _ here ↦ absurd here.symm (by simp), fun _ ↦ ⟨?_, ?_, ?_⟩⟩
    · exact ⟨[], [], List.nil_prefix, rfl, .nil⟩
    · exact fun _ hs ↦ absurd hs List.not_mem_nil
    · exact fun hok ↦ absurd hok Bool.false_ne_true
  have hfailed : r'.isOk = false → (r' >>= Lifecycle.report).isOk = false := by
    intro hr'
    rcases r' with e | l
    · rfl
    · exact absurd hr'.symm Bool.false_ne_true
  have hnone : Knows ctx.config [] none := by rintro _ ⟨⟩
  have hheeds : Heeds ctx.config r'.isOk [] h := hdrives.heeds hnone
  refine ⟨fun before e after here ↦ ?_, fun policy ↦ ?_⟩
  · obtain ⟨hrequest, hrefuses⟩ := hheeds.of_split here
    exact ⟨hrequest, fun refuses ↦ ⟨(hrefuses refuses).1, hfailed (hrefuses refuses).2⟩⟩
  · obtain ⟨commands, parts, hprefix, rfl, hparts, hdone⟩ := hdrives.logsIn policy
    rw [hsent]
    refine ⟨⟨commands, parts, hprefix, rfl, hparts⟩, url_ne_refresh_of_logsIn hparts, fun ok ↦ ?_⟩
    -- what is reported has been through all commands
    have hok : r'.isOk = true := by
      by_contra hnot
      rw [hfailed (Bool.eq_false_iff.2 hnot)] at ok
      cases ok
    obtain ⟨rfl, hne⟩ := hdone hok
    rw [countP_login_of_logsIn hparts hne]
    simp [Scenario.commands]
    omega

/-- Where each step logs in and the second login is answered with a text that has the token `b`,
`b` is the token given last in front of the second step, and what its request bears. -/
theorem Context.heeds_tokens_twoLogins :
    let ctx := ({} : Config).playing
    let request := (ctx.config.statusRequest "T").withBearer "b"
    ∃ r y before e after,
      (ctx.runScenario Rehearsal.scenario).attempt (.start Rehearsal.twoLogins) = .ok r y ∧
      y.sent = [.execute ctx.config.loginRequest,
        .execute ((ctx.config.beginRequest Rehearsal.scenario.begin).withBearer "a"),
        .execute ctx.config.loginRequest, .execute request] ∧
      y.sent = sentIn (before ++ e :: after) ∧ e.request? = some request ∧
      (lastToken ctx.config before).map AccessToken.accessToken = some "b" := by
  intro ctx request
  obtain ⟨r, y, h, hrun, -, hsent, hall, -⟩ :=
    ctx.heeds_tokens Rehearsal.scenario Rehearsal.twoLogins
  obtain ⟨r', y', hrun', hlog⟩ := Rehearsal.exists_run_twoLogins
  cases hrun.symm.trans hrun'
  have hmem : Sent.execute request ∈ sentIn h := by
    rw [← hsent, hlog]
    exact List.mem_of_getLast? rfl
  obtain ⟨e, he, hasked⟩ := List.mem_filterMap.1 hmem
  obtain ⟨before, after, rfl⟩ := List.append_of_mem he
  have hrequest : e.request? = some request := by
    rw [← e.map_request_sent?, hasked]
    rfl
  have hsends : Rehearsal.begun.Sends ctx.config .checkStatus (ctx.config.statusRequest "T") _ :=
    .checkStatus rfl
  have hurl : ctx.config.isTokenUrl (ctx.config.statusRequest "T").url = false :=
    ctx.config.isTokenUrl_of_sends hsends
  obtain ⟨token, hlast, -, hbearer⟩ := ((hall before e after rfl).1 request hrequest).step hurl
  refine ⟨r, y, before, e, after, hrun, hlog, hsent, hrequest, ?_⟩
  rw [hlast]
  exact hbearer.symm

end TransactionHarness
