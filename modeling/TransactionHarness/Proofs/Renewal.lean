import TransactionHarness.Proofs.Bearer
/-!
# Tokens in use

Whoever needs a token calls for one, again and again, and may go on after a call that fails. A
`Turn` is one such call as it took place: what was kept before it, what the clock showed, what was
asked, and what came of it.

A refresh token is good for one use. The token given last is *unspent* until its refresh token is
handed in, and a call hands in nothing but the refresh token of a kept token, which is unspent:
whatever comes of a refresh, the token it was for is not kept any longer.

* `Context.Takes`: calls behind each other.
* `Turn.Lawful`: which requests a call makes, and what it gives.
* `Spends`: each refresh hands in the refresh token given last, and no refresh token twice.
* `Context.tokens_in_use`: all calls are lawful, and together they spend no refresh token twice.
-/

namespace TransactionHarness

variable {σ : Type}

/-! ### Histories event by event -/

/-- Each event of the history is as it should be behind the past and what came before it. -/
def Throughout (P : List Event → Event → Prop) : List Event → List Event → Prop
  | _, [] => True
  | past, e :: h => P past e ∧ Throughout P (past ++ [e]) h

namespace Throughout

variable {P : List Event → Event → Prop} {past h t : List Event}

theorem append (first : Throughout P past h) (rest : Throughout P (past ++ h) t) :
    Throughout P past (h ++ t) := by
  induction h generalizing past with
  | nil => rwa [List.append_nil] at rest
  | cons e h ih =>
    refine ⟨first.1, ih first.2 ?_⟩
    rwa [List.append_assoc]

theorem of_split (throughout : Throughout P past h) {before after : List Event} {e : Event}
    (here : h = before ++ e :: after) : P (past ++ before) e := by
  subst here
  induction before generalizing past with
  | nil =>
    rw [List.append_nil]
    exact throughout.1
  | cons e' before ih =>
    have hrest := ih throughout.2
    rwa [List.append_assoc] at hrest

end Throughout

/-! ### Tokens that were given and tokens that were handed in -/

/-- The tokens that the service has given, in order. -/
def tokensIn (cfg : Config) (h : List Event) : List AccessToken := h.filterMap (Event.token? cfg)

/-- The event is a request to the address where refresh tokens are handed in. -/
def Event.isRefresh (cfg : Config) (e : Event) : Bool :=
  e.request?.any fun request ↦ request.url == cfg.endpoint "/refresh"

/-- Each refresh hands in the refresh token that was given last, and of no token more than one
refresh hands in the refresh token. Which token that is, is how many have been given before. -/
structure Spends (cfg : Config) (h : List Event) : Prop where
  last : ∀ before e after request, h = before ++ e :: after → e.request? = some request →
    request.url = cfg.endpoint "/refresh" →
    ∃ token refreshToken, lastToken cfg before = some token ∧
      token.refreshToken? = some refreshToken ∧ request = cfg.refreshRequest refreshToken
  once : ∀ before e after before' e' after',
    h = before ++ e :: after → h = before' ++ e' :: after' →
    e.isRefresh cfg = true → e'.isRefresh cfg = true →
    (tokensIn cfg before).length = (tokensIn cfg before').length → before = before'

/-- Whether the refresh token of the token given last can still be handed in. -/
def isUnspent (cfg : Config) (h : List Event) : Bool :=
  h.foldl (fun unspent e ↦ (e.token? cfg).isSome || (unspent && !e.isRefresh cfg)) false

section Unspent

variable {cfg : Config} {past h t : List Event}

theorem tokensIn_append (h t : List Event) :
    tokensIn cfg (h ++ t) = tokensIn cfg h ++ tokensIn cfg t :=
  List.filterMap_append

theorem isUnspent_concat (h : List Event) (e : Event) :
    isUnspent cfg (h ++ [e]) =
      ((e.token? cfg).isSome || (isUnspent cfg h && !e.isRefresh cfg)) := by
  rw [isUnspent, List.foldl_append]
  rfl

theorem isUnspent_clock (h : List Event) (now : Instant) :
    isUnspent cfg (h ++ [.clock now]) = isUnspent cfg h := by
  simp [isUnspent_concat, Event.token?, Event.isRefresh, Event.request?]

theorem isUnspent_login (h : List Event) (answer : Except Error String) :
    isUnspent cfg (h ++ [.answered cfg.loginRequest answer]) =
      ((AccessToken.ofReceived answer).toOption.isSome || isUnspent cfg h) := by
  have hurl : cfg.loginRequest.url = cfg.endpoint "/auth" := rfl
  have hne : (cfg.endpoint "/auth" == cfg.endpoint "/refresh") = false :=
    beq_eq_false_iff_ne.2 cfg.endpoint_auth_ne_refresh
  simp [isUnspent_concat, Event.token?, Event.isRefresh, Event.request?, hurl, hne]

theorem isUnspent_refresh (h : List Event) (refreshToken : String) (answer : Except Error String) :
    isUnspent cfg (h ++ [.answered (cfg.refreshRequest refreshToken) answer]) =
      (AccessToken.ofReceived answer).toOption.isSome := by
  have hurl : (cfg.refreshRequest refreshToken).url = cfg.endpoint "/refresh" := rfl
  simp [isUnspent_concat, Event.token?, Event.isRefresh, Event.request?, hurl]

/-- What was spent stays spent until a token is given. -/
theorem isUnspent_append_of_none (spent : isUnspent cfg h = false) (none : tokensIn cfg t = []) :
    isUnspent cfg (h ++ t) = false := by
  induction t generalizing h with
  | nil => rwa [List.append_nil]
  | cons e t ih =>
    obtain ⟨he, ht⟩ := List.append_eq_nil_iff.1 (tokensIn_append [e] t ▸ none)
    have htoken : e.token? cfg = Option.none := by
      rcases hsome : e.token? cfg with - | token
      · rfl
      · simp [tokensIn, hsome] at he
    rw [List.append_cons]
    refine ih ?_ ht
    rw [isUnspent_concat, htoken, spent]
    rfl

/-- What a refresh has to look like: the token given last is unspent, and its refresh token is
handed in. -/
def Event.SpendsLast (cfg : Config) (past : List Event) (e : Event) : Prop :=
  ∀ request, e.request? = some request → request.url = cfg.endpoint "/refresh" →
    isUnspent cfg past = true ∧ ∃ token refreshToken, lastToken cfg past = some token ∧
      token.refreshToken? = some refreshToken ∧ request = cfg.refreshRequest refreshToken

theorem Event.SpendsLast.isUnspent {e : Event} (spends : e.SpendsLast cfg past)
    (refresh : e.isRefresh cfg = true) : isUnspent cfg past = true := by
  obtain ⟨request, hrequest, hurl⟩ := (Option.any_eq_true _ _).1 refresh
  exact (spends request hrequest (eq_of_beq hurl)).1

/-- Between two refreshes a token is given. -/
theorem tokensIn_ne_nil_of_spendsLast {before middle after : List Event} {e e' : Event}
    (spends : Throughout (Event.SpendsLast cfg) [] (before ++ e :: (middle ++ e' :: after)))
    (refresh : e.isRefresh cfg = true) (refresh' : e'.isRefresh cfg = true) :
    tokensIn cfg (e :: middle) ≠ [] := by
  intro hnone
  have hunspent : isUnspent cfg (before ++ e :: middle) = true := by
    have hhere : before ++ e :: (middle ++ e' :: after) =
        (before ++ e :: middle) ++ e' :: after := by
      simp
    exact (spends.of_split hhere).isUnspent refresh'
  -- the first refresh has spent the token before it
  obtain ⟨he, hmiddle⟩ := List.append_eq_nil_iff.1 (tokensIn_append [e] middle ▸ hnone)
  have hspent : isUnspent cfg (before ++ [e]) = false := by
    rcases hsome : e.token? cfg with - | token
    · rw [isUnspent_concat, hsome, refresh, Bool.not_true, Bool.and_false]
      rfl
    · simp [tokensIn, hsome] at he
  rw [List.append_cons, isUnspent_append_of_none hspent hmiddle] at hunspent
  cases hunspent

theorem spends_of_spendsLast (spends : Throughout (Event.SpendsLast cfg) [] h) : Spends cfg h where
  last before e after request here asked refresh := ((spends.of_split here) request asked refresh).2
  once before e after before' e' after' here here' refresh refresh' same := by
    -- if one place is behind the other, a token was given in between
    have hle {before before' after after' : List Event} {e e' : Event}
        (here : h = before ++ e :: after) (refresh : e.isRefresh cfg = true)
        (refresh' : e'.isRefresh cfg = true)
        (same : (tokensIn cfg before).length = (tokensIn cfg before').length) (more : List Event)
        (hbefore : before' = before ++ more) (hafter : e :: after = more ++ e' :: after') :
        before = before' := by
      rcases more with - | ⟨e₀, middle⟩
      · rw [hbefore, List.append_nil]
      · obtain ⟨rfl, rfl⟩ := List.cons.inj hafter
        rw [hbefore, tokensIn_append, List.length_append] at same
        subst here
        have hgiven := List.length_pos_of_ne_nil
          (tokensIn_ne_nil_of_spendsLast spends refresh refresh')
        omega
    rcases List.append_eq_append_iff.1 (here.symm.trans here') with
      ⟨more, hbefore, hafter⟩ | ⟨more, hbefore, hafter⟩
    · exact hle here refresh refresh' same more hbefore hafter
    · exact (hle here' refresh' refresh same.symm more hbefore hafter).symm

end Unspent

/-! ### One call -/

/-- The requests of a history, with their answers. -/
def askedIn (h : List Event) : List Event := h.filter fun e ↦ e.sent?.isSome

/-- A call for a token, as it took place. -/
structure Turn where
  /-- The token that was kept before. -/
  kept? : Option AccessToken
  /-- What the clock showed. -/
  now : Instant
  /-- What was asked of the world. -/
  history : List Event
  /-- The text of the token, or why there is none. -/
  outcome : Except Error String
  /-- The token that is kept afterwards. -/
  current? : Option AccessToken

/-- What a call does behind a past. -/
structure Turn.Lawful (cfg : Config) (past : List Event) (turn : Turn) : Prop where
  /-- One login, if there is one for each call. -/
  perStep : cfg.tokenPolicy = .perStep →
    ∃ answer, askedIn turn.history = [.answered cfg.loginRequest answer]
  /-- Nothing is asked exactly if there is a kept token that is still good. -/
  silent : ∀ margin, cfg.tokenPolicy = .cached margin →
    (askedIn turn.history = [] ↔
      ∃ token, turn.kept? = some token ∧ token.needsRenewal turn.now margin = false)
  /-- A kept token that is not is refreshed if it can be, and a login follows only if that fails. -/
  refreshes : ∀ margin token refreshToken, cfg.tokenPolicy = .cached margin →
    turn.kept? = some token → token.needsRenewal turn.now margin = true →
    token.refreshToken? = some refreshToken →
    ∃ answer later,
      askedIn turn.history = .answered (cfg.refreshRequest refreshToken) answer :: later ∧
      ((AccessToken.ofReceived answer).isOk = true → later = []) ∧
      ((AccessToken.ofReceived answer).isOk = false →
        ∃ answer', later = [.answered cfg.loginRequest answer'])
  /-- Otherwise there is one login. -/
  logsIn : ∀ margin, cfg.tokenPolicy = .cached margin →
    (turn.kept? = none ∨ ∃ token, turn.kept? = some token ∧
      token.needsRenewal turn.now margin = true ∧ token.refreshToken? = none) →
    ∃ answer, askedIn turn.history = [.answered cfg.loginRequest answer]
  atMostTwo : (askedIn turn.history).length ≤ 2
  /-- A call that succeeds gives the text of the token given last. It was given in this call, or it
  is the kept one and nothing was asked, and it is kept as a whole. -/
  gives : ∀ text, turn.outcome = .ok text →
    ∃ token, token.accessToken = text ∧ turn.current? = some token ∧
      lastToken cfg (past ++ turn.history) = some token ∧
      (lastToken cfg turn.history = some token ∨
        askedIn turn.history = [] ∧ turn.kept? = some token)

namespace Config

variable {cfg : Config} {past h : List Event} {kept kept' : Option AccessToken} {now : Instant}
  {margin : Span} {r : Except Error AccessToken}

/-- The clock shows this whenever it is read first. -/
def Shows (now : Instant) (h : List Event) : Prop := ∀ now' t, h = .clock now' :: t → now' = now

theorem Obtains.askedIn_eq_nil_iff (obtains : cfg.Obtains kept h r kept')
    (policy : cfg.tokenPolicy = .cached margin) (shows : Shows now h) :
    askedIn h = [] ↔ ∃ token, kept = some token ∧ token.needsRenewal now margin = false := by
  cases obtains with
  | perStep other => cases policy.symm.trans other
  | absent _ absent => simp [askedIn, Event.sent?, absent]
  | @reused _ now' token other present good =>
    cases policy.symm.trans other
    obtain rfl := shows now' [] rfl
    exact ⟨fun _ ↦ ⟨token, present, good⟩, fun _ ↦ rfl⟩
  | unrefreshable other present stale | refreshed other present stale
  | replaced other present stale =>
    cases policy.symm.trans other
    obtain rfl := shows _ _ rfl
    simp [askedIn, Event.sent?, present, stale]

theorem Obtains.askedIn_of_refreshable {token : AccessToken} {refreshToken : String}
    (obtains : cfg.Obtains kept h r kept') (policy : cfg.tokenPolicy = .cached margin)
    (shows : Shows now h) (kept_eq : kept = some token)
    (stale : token.needsRenewal now margin = true)
    (given : token.refreshToken? = some refreshToken) :
    ∃ answer later, askedIn h = .answered (cfg.refreshRequest refreshToken) answer :: later ∧
      ((AccessToken.ofReceived answer).isOk = true → later = []) ∧
      ((AccessToken.ofReceived answer).isOk = false →
        ∃ answer', later = [.answered cfg.loginRequest answer']) := by
  cases obtains with
  | perStep other => cases policy.symm.trans other
  | absent _ absent => cases absent.symm.trans kept_eq
  | reused other present good =>
    cases policy.symm.trans other
    cases present.symm.trans kept_eq
    obtain rfl := shows _ _ rfl
    cases good.symm.trans stale
  | unrefreshable _ present _ without =>
    cases present.symm.trans kept_eq
    cases without.symm.trans given
  | @refreshed _ _ _ _ _ answer _ present _ given' reply =>
    cases present.symm.trans kept_eq
    cases given'.symm.trans given
    refine ⟨answer, [], rfl, fun _ ↦ rfl, fun refused ↦ ?_⟩
    rw [reply] at refused
    cases refused
  | @replaced _ _ _ _ answer answer' _ _ _ present _ given' refused =>
    cases present.symm.trans kept_eq
    cases given'.symm.trans given
    refine ⟨answer, [.answered cfg.loginRequest answer'], rfl, fun ok ↦ ?_, fun _ ↦ ⟨answer', rfl⟩⟩
    rw [refused] at ok
    cases ok

theorem Obtains.askedIn_of_login (obtains : cfg.Obtains kept h r kept')
    (policy : cfg.tokenPolicy = .cached margin) (shows : Shows now h)
    (login : kept = none ∨ ∃ token, kept = some token ∧ token.needsRenewal now margin = true ∧
      token.refreshToken? = none) :
    ∃ answer, askedIn h = [.answered cfg.loginRequest answer] := by
  cases obtains with
  | perStep other => cases policy.symm.trans other
  | @absent _ answer | @unrefreshable _ _ _ answer => exact ⟨answer, rfl⟩
  | reused other present good =>
    obtain rfl := shows _ _ rfl
    cases policy.symm.trans other
    rcases login with hnone | ⟨token, hkept, stale, -⟩
    · cases present.symm.trans hnone
    · cases present.symm.trans hkept
      cases good.symm.trans stale
  | refreshed _ present _ given | replaced _ present _ given =>
    rcases login with hnone | ⟨token, hkept, -, without⟩
    · cases present.symm.trans hnone
    · cases present.symm.trans hkept
      cases given.symm.trans without

theorem Obtains.length_askedIn_le (obtains : cfg.Obtains kept h r kept') :
    (askedIn h).length ≤ 2 := by
  cases obtains <;> simp [askedIn, Event.sent?]

theorem lastToken_of_login (past : List Event) {answer : Except Error String} {token : AccessToken}
    (reply : AccessToken.ofReceived answer = .ok token) :
    lastToken cfg (past ++ [.answered cfg.loginRequest answer]) = some token := by
  rw [lastToken_login, reply]
  rfl

theorem lastToken_of_refresh (past : List Event) (refreshToken : String)
    {answer : Except Error String} {token : AccessToken}
    (reply : AccessToken.ofReceived answer = .ok token) :
    lastToken cfg (past ++ [.answered (cfg.refreshRequest refreshToken) answer]) = some token := by
  rw [lastToken_refresh, reply]
  rfl

/-- A token that was obtained is kept, and it was given meanwhile or is the one kept before. -/
theorem Obtains.kept_of_ok {token : AccessToken} (obtains : cfg.Obtains kept h (.ok token) kept') :
    kept' = some token ∧
      (lastToken cfg h = some token ∨ askedIn h = [] ∧ kept = some token) := by
  cases obtains with
  | perStep _ reply | absent _ _ reply => exact ⟨rfl, .inl (lastToken_of_login [] reply)⟩
  | reused _ present => exact ⟨rfl, .inr ⟨rfl, present⟩⟩
  | @unrefreshable _ now _ _ _ _ _ _ _ reply =>
    exact ⟨rfl, .inl (lastToken_of_login [.clock now] reply)⟩
  | @refreshed _ now _ _ refreshToken _ _ _ _ _ reply =>
    exact ⟨rfl, .inl (lastToken_of_refresh [.clock now] refreshToken reply)⟩
  | @replaced _ now _ refreshToken answer _ _ _ _ _ _ _ _ reply =>
    exact ⟨rfl, .inl (lastToken_of_login
      [.clock now, .answered (cfg.refreshRequest refreshToken) answer] reply)⟩

/-- What a call asks is a login, a refresh, or both. -/
theorem Obtains.lawful {turn : Turn}
    (obtains : cfg.Obtains turn.kept? turn.history r turn.current?)
    (shows : Shows turn.now turn.history)
    (outcome : turn.outcome = r.map AccessToken.accessToken) (knows : Knows cfg past turn.kept?) :
    turn.Lawful cfg past where
  perStep policy := by
    obtain ⟨answer, hlogin⟩ := obtains.eq_login policy
    exact ⟨answer, by rw [hlogin]; rfl⟩
  silent _ policy := obtains.askedIn_eq_nil_iff policy shows
  refreshes _ _ _ policy present stale given :=
    obtains.askedIn_of_refreshable policy shows present stale given
  logsIn _ policy login := obtains.askedIn_of_login policy shows login
  atMostTwo := obtains.length_askedIn_le
  gives text ok := by
    rw [outcome] at ok
    rcases r with e | token
    · cases ok
    · obtain ⟨-, hkept, hlast⟩ := obtains.heeds knows
      obtain ⟨hcurrent, hgiven⟩ := obtains.kept_of_ok
      exact ⟨token, Except.ok.inj ok, hcurrent, hlast token rfl, hgiven⟩

/-! ### Refresh tokens are spent once -/

theorem spendsLast_login (answer : Except Error String) :
    (Event.answered cfg.loginRequest answer).SpendsLast cfg past := by
  intro request asked refresh
  rw [← Option.some.inj asked] at refresh
  exact absurd refresh cfg.endpoint_auth_ne_refresh

theorem spendsLast_clock (now : Instant) : (Event.clock now).SpendsLast cfg past := by
  rintro _ ⟨⟩

theorem isUnspent_of_login (past : List Event) {answer : Except Error String}
    (reply : AccessToken.ofReceived answer = r) (given : r.toOption.isSome = true) :
    isUnspent cfg (past ++ [.answered cfg.loginRequest answer]) = true := by
  rw [isUnspent_login, reply, given, Bool.true_or]

/-- Behind the time that the clock shows, the kept token is still the last one and unspent. -/
theorem spendsLast_refresh {token : AccessToken} {refreshToken : String} (now : Instant)
    (answer : Except Error String) (last : lastToken cfg past = some token)
    (unspent : isUnspent cfg past = true) (given : token.refreshToken? = some refreshToken) :
    (Event.answered (cfg.refreshRequest refreshToken) answer).SpendsLast cfg
      (past ++ [.clock now]) := by
  intro request asked _
  rw [isUnspent_clock, lastToken_concat]
  exact ⟨unspent, token, refreshToken, last, given, (Option.some.inj asked).symm⟩

/-- The kept token is unspent, so that a refresh hands in a refresh token for the first time, and
what is kept afterwards is unspent again. -/
theorem Obtains.spendsLast (obtains : cfg.Obtains kept h r kept') (knows : Knows cfg past kept)
    (unspent : kept.isSome = true → isUnspent cfg past = true) :
    Throughout (Event.SpendsLast cfg) past h ∧
      (kept'.isSome = true → isUnspent cfg (past ++ h) = true) := by
  cases obtains with
  | @perStep answer r _ reply =>
    refine ⟨⟨spendsLast_login answer, trivial⟩, fun some ↦ ?_⟩
    -- a login that fails leaves the kept token, which stays unspent
    rcases r with e | token
    · rw [isUnspent_login, unspent some, Bool.or_true]
    · exact isUnspent_of_login past reply rfl
  | @absent _ answer r _ _ reply =>
    exact ⟨⟨spendsLast_login answer, trivial⟩, isUnspent_of_login past reply⟩
  | @reused _ now token _ present =>
    refine ⟨⟨spendsLast_clock now, trivial⟩, fun _ ↦ ?_⟩
    rw [isUnspent_clock]
    exact unspent (present ▸ rfl)
  | @unrefreshable _ now _ answer r _ _ _ _ reply =>
    rw [List.append_cons]
    exact ⟨⟨spendsLast_clock now, spendsLast_login answer, trivial⟩, isUnspent_of_login _ reply⟩
  | @refreshed _ now token fresh refreshToken answer _ present _ given reply =>
    have hrefresh := spendsLast_refresh now answer (knows token present)
      (unspent (present ▸ rfl)) given
    refine ⟨⟨spendsLast_clock now, hrefresh, trivial⟩, fun _ ↦ ?_⟩
    rw [List.append_cons, isUnspent_refresh, reply]
    rfl
  | @replaced _ now token refreshToken answer answer' e r _ present _ given refused reply =>
    have hrefresh := spendsLast_refresh now answer (knows token present)
      (unspent (present ▸ rfl)) given
    rw [List.append_cons, List.append_cons]
    exact ⟨⟨spendsLast_clock now, hrefresh, spendsLast_login answer', trivial⟩,
      isUnspent_of_login _ reply⟩

end Config

/-! ### A refresh -/

namespace Rehearsal

/-- Settings under which a token is kept until half a minute is left. -/
def keeping : Config := { tokenPolicy := .cached TokenPolicy.standardMargin }

/-- A reply with a token that has expired, and with a refresh token. -/
def staleText : String :=
  success ("\x7b\"accessToken\":\"a\",\"refreshToken\":\"r\"," ++ "\"accessExpirationTime\":0\x7d")

def staleToken : AccessToken := ⟨"a", some ⟨0, 0⟩, some "r"⟩

theorem ofReceived_stale : AccessToken.ofReceived (.ok staleText) = .ok staleToken :=
  AccessToken.ofReceived_of_read (toList_success _ _) (by decide +kernel)

/-- Two requests for a token are answered. -/
def twoTokens : Playback := ⟨[.text staleText, .text otherLoginText], none⟩

/-- The first call logs in, and the second one hands in the refresh token. -/
theorem exists_calls_twoTokens :
    ∃ y z, keeping.playing.ensureToken (.start twoTokens) = .ok "a" y ∧
      keeping.playing.ensureToken y = .ok "b" z ∧
      z.sent = [.execute keeping.loginRequest, .execute (keeping.refreshRequest "r")] := by
  let logs : List Event := [.answered keeping.loginRequest (.ok staleText)]
  let refreshes : List Event :=
    [.clock ⟨0, 0⟩, .answered (keeping.refreshRequest "r") (.ok otherLoginText)]
  have hfirst : keeping.playing.config.Obtains none logs (.ok staleToken) (some staleToken) :=
    .absent rfl rfl ofReceived_stale
  have hsecond : keeping.playing.config.Obtains (some staleToken) refreshes (.ok otherToken)
      (some otherToken) :=
    .refreshed rfl rfl (by decide) rfl ofReceived_otherLogin
  have hreply : keeping.playing.world.Answers twoTokens logs ⟨[.text otherLoginText], none⟩ :=
    ⟨_, rfl, rfl⟩
  have hreply' : keeping.playing.world.Answers ⟨[.text otherLoginText], none⟩ refreshes
      ⟨[], none⟩ :=
    ⟨_, rfl, _, rfl, rfl⟩
  obtain ⟨y, hlogin, hworld, hkept⟩ := hfirst.plays (.start twoTokens) _ hreply rfl
  obtain ⟨z, hrefresh, -⟩ := hsecond.plays y _ (hworld ▸ hreply') hkept
  refine ⟨y, z, hlogin.apply_eq_ok, hrefresh.apply_eq_ok, ?_⟩
  rw [hrefresh.sent, hlogin.sent]
  rfl

end Rehearsal

/-! ### All calls -/

namespace Context

variable (ctx : Context σ)

/-- Calls for a token, one behind the other. One that fails does not end the others. -/
inductive Takes : Exchange σ → List Turn → Exchange σ → Prop where
  | nil (x : Exchange σ) : Takes x [] x
  | cons {x y z : Exchange σ} {turn : Turn} {turns : List Turn} (kept : turn.kept? = x.token?)
      (clock : turn.now = (ctx.world.now x.world).1)
      (gives : ctx.Gives ctx.ensureToken x turn.history turn.outcome y)
      (current : turn.current? = y.token?) (rest : Takes y turns z) :
      Takes x (turn :: turns) z

variable {ctx} in
theorem Takes.answers {x y : Exchange σ} {turns : List Turn} (takes : ctx.Takes x turns y) :
    ctx.world.Answers x.world (turns.flatMap Turn.history) y.world ∧
      y.sent = x.sent ++ sentIn (turns.flatMap Turn.history) := by
  induction takes with
  | nil x => exact ⟨rfl, (List.append_nil _).symm⟩
  | cons _ _ gives _ _ ih =>
    refine ⟨gives.answers.append ih.1, ?_⟩
    rw [List.flatMap_cons, sentIn_append, ih.2, gives.sent, List.append_assoc]

/-- What the clock shows is the first thing that the world is asked, if it is asked first. -/
theorem shows_of_answers {s t : σ} {h : List Event} (answers : ctx.world.Answers s h t) :
    Config.Shows (ctx.world.now s).1 h := by
  rintro now h' rfl
  obtain ⟨u, hclock, -⟩ := answers
  rw [show ctx.world.now s = (now, u) from hclock]

/-- Any number of calls, behind a past that has left an unspent token or none. -/
theorem exists_takes (n : ℕ) (x : Exchange σ) {past : List Event}
    (knows : Knows ctx.config past x.token?)
    (unspent : x.token?.isSome = true → isUnspent ctx.config past = true) :
    ∃ turns y, turns.length = n ∧ ctx.Takes x turns y ∧
      (∀ before turn after, turns = before ++ turn :: after →
        turn.Lawful ctx.config (past ++ before.flatMap Turn.history)) ∧
      Throughout (Event.SpendsLast ctx.config) past (turns.flatMap Turn.history) := by
  induction n generalizing x past with
  | zero =>
    refine ⟨[], x, rfl, .nil x, fun before turn after here ↦ ?_, trivial⟩
    exact absurd here.symm (by simp)
  | succ n ih =>
    obtain ⟨h, r, y, hgives, hobtains⟩ := ctx.exists_gives_ensureToken x
    obtain ⟨-, hknows, -⟩ := hobtains.heeds knows
    obtain ⟨hspends, hunspent⟩ := hobtains.spendsLast knows unspent
    obtain ⟨turns, z, hlength, htakes, hlawful, hrest⟩ := ih y hknows hunspent
    let turn : Turn :=
      { kept? := x.token?
        now := (ctx.world.now x.world).1
        history := h
        outcome := r.map AccessToken.accessToken
        current? := y.token? }
    refine ⟨turn :: turns, z, congrArg (· + 1) hlength, .cons rfl rfl hgives rfl htakes, ?_,
      hspends.append hrest⟩
    intro before turn' after here
    rcases before with - | ⟨_, before⟩
    · obtain ⟨rfl, -⟩ := List.cons.inj here
      rw [List.flatMap_nil, List.append_nil]
      exact Config.Obtains.lawful hobtains (ctx.shows_of_answers hgives.answers) rfl knows
    · obtain ⟨rfl, rfl⟩ := List.cons.inj here
      have hturn := hlawful before turn' after rfl
      rwa [List.append_assoc] at hturn

/-- **Tokens in use.** Whatever the world and its clock, and however often a token is called for,
each call behind the ones before it asks for what `Turn.Lawful` says: under the policy of one login
for each step a login, and under the other policy nothing, a refresh, a refresh that fails with a
login behind it, or a login, depending on the kept token and on what the clock shows. A call that
succeeds gives the token given last. Over all calls, a refresh hands in the refresh token that was
given last, so that none comes before the first token, and none is handed in by two refreshes. -/
theorem tokens_in_use (n : ℕ) (world : σ) :
    ∃ turns y, turns.length = n ∧ ctx.Takes (.start world) turns y ∧
      ctx.world.Answers world (turns.flatMap Turn.history) y.world ∧
      y.sent = sentIn (turns.flatMap Turn.history) ∧
      (∀ before turn after, turns = before ++ turn :: after →
        turn.Lawful ctx.config (before.flatMap Turn.history)) ∧
      Spends ctx.config (turns.flatMap Turn.history) := by
  have hknows : Knows ctx.config [] none := by rintro _ ⟨⟩
  obtain ⟨turns, y, hlength, htakes, hlawful, hspends⟩ :=
    ctx.exists_takes n (.start world) hknows (fun h ↦ Bool.noConfusion h)
  obtain ⟨hanswers, hsent⟩ := htakes.answers
  exact ⟨turns, y, hlength, htakes, hanswers, hsent, hlawful, spends_of_spendsLast hspends⟩

end Context

/-- Where a login is answered with a text that has an expired token and the refresh token `r`, the
next call hands in `r`, and the token `b` in the reply is what it gives and keeps. -/
theorem Context.tokens_in_use_twoTokens :
    let ctx := Rehearsal.keeping.playing
    ∃ first second y, ctx.Takes (.start Rehearsal.twoTokens) [first, second] y ∧
      first.outcome = .ok "a" ∧ second.outcome = .ok "b" ∧
      y.sent = [.execute ctx.config.loginRequest, .execute (ctx.config.refreshRequest "r")] ∧
      ∃ token, token.accessToken = "b" ∧ second.current? = some token ∧
        lastToken ctx.config (first.history ++ second.history) = some token := by
  intro ctx
  obtain ⟨turns, z, hlength, htakes, -, -, hlawful, -⟩ := ctx.tokens_in_use 2 Rehearsal.twoTokens
  obtain ⟨first, second, rfl⟩ := List.length_eq_two.1 hlength
  have hsecond : second.Lawful ctx.config ([first].flatMap Turn.history) :=
    hlawful [first] second [] rfl
  refine ⟨first, second, z, htakes, ?_⟩
  -- both calls went as they do with these replies
  obtain ⟨y', z', hlogin, hrefresh, hsent⟩ := Rehearsal.exists_calls_twoTokens
  cases htakes with
  | cons _ _ gives _ rest =>
    obtain ⟨hfirst, rfl⟩ := gives.outcome_eq (Action.attempt_eq_ok_iff.2 hlogin)
    cases rest with
    | cons _ _ gives' _ rest =>
      obtain ⟨houtcome, rfl⟩ := gives'.outcome_eq (Action.attempt_eq_ok_iff.2 hrefresh)
      cases rest
      obtain ⟨token, htext, hcurrent, hlast, -⟩ := hsecond.gives "b" houtcome.symm
      rw [List.flatMap_singleton] at hlast
      exact ⟨hfirst.symm, houtcome.symm, hsent, token, htext, hcurrent, hlast⟩

end TransactionHarness
