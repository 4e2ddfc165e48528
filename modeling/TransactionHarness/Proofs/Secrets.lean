import TransactionHarness.Proofs.Progress
import TransactionHarness.Proofs.Twins
/-!
# Secrets

The password and the texts of tokens do not influence a run, and they do not show in what a run
tells. Two runs that differ in nothing else send requests that look the same and have the same
outcome, whatever is answered to the steps.

* `Comparison.twins_ensureToken`: a token is obtained in the same way in both runs.
* `Comparison.twins_perform`, `Comparison.twins_drive`: so are commands carried out.
* `Context.masked_runs`: the same for whole runs, and for what is told of settings and tokens.
-/

namespace TransactionHarness

variable {α : Type}

namespace Comparison

variable (d : Comparison)

/-! ### Tokens -/

/-- Logins differ in the password only. -/
theorem masked_loginRequest (cfg : Config) (pw pw' : String) :
    (cfg.withPassword pw).loginRequest.masked cfg =
      (cfg.withPassword pw').loginRequest.masked cfg := by
  have hmasked (pw : String) : (cfg.withPassword pw).loginRequest.masked cfg =
      { method := .post
        url := cfg.endpoint "/auth"
        body := .form [("uid", cfg.credentials.uid), ("pw", "")] } := by
    have hurl : (cfg.withPassword pw).endpoint "/auth" = cfg.endpoint "/auth" := rfl
    have hcredentials : (cfg.withPassword pw).credentials = ⟨cfg.credentials.uid, pw⟩ := rfl
    simp [Request.masked, Payload.masked, Config.loginRequest, Request.post, Request.withForm,
      hurl, hcredentials]
  rw [hmasked, hmasked]

/-- Refreshes differ in the token that is handed in only. -/
theorem masked_refreshRequest (cfg : Config) (pw pw' token token' : String) :
    ((cfg.withPassword pw).refreshRequest token).masked cfg =
      ((cfg.withPassword pw').refreshRequest token').masked cfg := by
  have hmasked (pw token : String) : ((cfg.withPassword pw).refreshRequest token).masked cfg =
      { method := .post
        url := cfg.endpoint "/refresh"
        body := .form [("rt", "")] } := by
    have hurl : (cfg.withPassword pw).endpoint "/refresh" = cfg.endpoint "/refresh" := rfl
    simp [Request.masked, Payload.masked, Config.refreshRequest, Request.post, Request.withForm,
      hurl, cfg.endpoint_auth_ne_refresh.symm]
  rw [hmasked, hmasked]

theorem twins_requestToken {request request' : Request}
    (same : request.masked d.config = request'.masked d.config) :
    d.Twins AccessToken.masked (d.left.requestToken request) (d.right.requestToken request') :=
  (Twins.execute_token same).bind fun _ _ hanswer ↦ .of hanswer

theorem twins_login : d.Twins AccessToken.masked d.left.login d.right.login :=
  d.twins_requestToken (masked_loginRequest d.config d.pw d.pw')

/-- A refresh succeeds in both runs or fails in both, and so a login follows in both or in none. -/
theorem twins_renew {token token' : AccessToken} (same : token.masked = token'.masked) :
    d.Twins AccessToken.masked (d.left.renew token) (d.right.renew token') := by
  have hrefresh : token.masked.refreshToken? = token'.masked.refreshToken? := by rw [same]
  simp only [AccessToken.masked] at hrefresh
  rcases h : token.refreshToken? with - | refreshToken <;>
    rcases h' : token'.refreshToken? with - | refreshToken' <;>
    rw [h, h'] at hrefresh
  · simp only [Context.renew, h, h']
    exact d.twins_login
  · cases hrefresh
  · cases hrefresh
  · simp only [Context.renew, h, h']
    refine (d.twins_requestToken (masked_refreshRequest d.config d.pw d.pw' _ _)).attempt.bind ?_
    intro r r' hr
    rcases r with e | fresh <;> rcases r' with e' | fresh'
    · exact d.twins_login
    · cases hr
    · cases hr
    · exact .pure (Except.ok.inj hr)

theorem needsRenewal_masked (token : AccessToken) (now : Instant) (margin : Span) :
    token.masked.needsRenewal now margin = token.needsRenewal now margin := rfl

theorem twins_keptOrFreshToken (margin : Span) :
    d.Twins AccessToken.masked (d.left.keptOrFreshToken margin)
      (d.right.keptOrFreshToken margin) := by
  refine Twins.takeToken.bind fun kept kept' hkept ↦ ?_
  rcases kept with - | token <;> rcases kept' with - | token'
  · exact d.twins_login
  · cases hkept
  · cases hkept
  · have hmasked : token.masked = token'.masked := Option.some.inj hkept
    refine Twins.now.bind_same fun now ↦ ?_
    have hstale : token.needsRenewal now margin = token'.needsRenewal now margin := by
      rw [← needsRenewal_masked token, ← needsRenewal_masked token', hmasked]
    rw [hstale]
    split
    · exact d.twins_renew hmasked
    · exact .pure hmasked

theorem twins_nextToken : d.Twins AccessToken.masked d.left.nextToken d.right.nextToken := by
  -- both have the policy of the settings
  have hleft : d.left.config.tokenPolicy = d.config.tokenPolicy := rfl
  have hright : d.right.config.tokenPolicy = d.config.tokenPolicy := rfl
  rcases hpolicy : d.config.tokenPolicy with - | margin
  · simp only [Context.nextToken, hleft, hright, hpolicy]
    exact d.twins_login
  · simp only [Context.nextToken, hleft, hright, hpolicy]
    exact d.twins_keptOrFreshToken margin

/-- A token is obtained in the same way. Nothing can be seen of its text. -/
theorem twins_ensureToken : d.Twins (fun _ ↦ ()) d.left.ensureToken d.right.ensureToken :=
  d.twins_nextToken.bind fun _ _ hmasked ↦ (Twins.keepToken hmasked).bind fun _ _ _ ↦ .pure rfl

/-! ### Steps -/

theorem masked_withBearer (cfg : Config) (request : Request) (token token' : String) :
    (request.withBearer token).masked cfg = (request.withBearer token').masked cfg := rfl

/-- A step with one request judges the same text in both runs. -/
theorem twins_callAs (decode : Json.Decoder α) (step : Step) {request : Request}
    (contract : Contract) (elsewhere : d.config.isTokenUrl request.url = false) :
    d.Twins id (d.left.callAs decode step request contract)
      (d.right.callAs decode step request contract) := by
  rw [Context.callAs_eq, Context.callAs_eq]
  refine d.twins_ensureToken.bind fun token token' _ ↦ ?_
  exact (Twins.execute_step (masked_withBearer d.config request token token') elsewhere).bind_same
    fun _ ↦ .of_self _

theorem twins_callAs_bind {decode : Json.Decoder α} {step : Step} {request : Request}
    {contract : Contract} {k k' : α → Action Script.Place Lifecycle}
    (elsewhere : d.config.isTokenUrl request.url = false) (rest : ∀ a, d.Twins id (k a) (k' a)) :
    d.Twins id (d.left.callAs decode step request contract >>= k)
      (d.right.callAs decode step request contract >>= k') :=
  (d.twins_callAs decode step contract elsewhere).bind_same rest

theorem twins_downloadOne (token token' : String) (l : Lifecycle) (path : String) :
    d.Twins id (d.left.downloadOne token l path) (d.right.downloadOne token' l path) := by
  refine Twins.bind_same (.of_self _) fun place ↦ ?_
  refine (Twins.download (masked_withBearer d.config _ token token')).bind_same fun outcome ↦ ?_
  split
  · exact .pure rfl
  · exact .of_self (.error _)

theorem twins_downloadAll (known : TransactionId) (l : Lifecycle) :
    d.Twins id (d.left.downloadAll known l) (d.right.downloadAll known l) := by
  refine d.twins_ensureToken.bind fun token token' _ ↦ ?_
  exact (Twins.foldlM (d.twins_downloadOne token token') l l.session.downloadPaths).bind_same
    fun _ ↦ .pure rfl

theorem twins_load (known : TransactionId) (table : String) (file : UploadPath) (l : Lifecycle) :
    d.Twins id (d.left.load known table file l) (d.right.load known table file l) := by
  refine Twins.bind_same (.of_self _) fun name ↦ ?_
  exact d.twins_callAs_bind (d.config.isTokenUrl_loadRequest known table file) fun _ ↦ .pure rfl

/-! ### Commands -/

/-- The state of a run allows the same commands in both runs, and they do the same. -/
theorem twins_perform (command : Command) (l : Lifecycle) :
    Option.Rel (d.Twins id) (d.left.perform command l) (d.right.perform command l) := by
  have helsewhere {command : Command} {request : Request}
      {receive : String → Except Error Lifecycle}
      (sends : l.Sends d.config command request receive) :
      d.config.isTokenUrl request.url = false :=
    d.config.isTokenUrl_of_sends sends
  unfold Context.perform
  split
  case h_1 request state =>
    refine .some (d.twins_callAs_bind (helsewhere (.begin request state)) fun transaction ↦ ?_)
    exact Twins.bind_same (.of_self _) fun session ↦ .pure rfl
  case h_2 known state =>
    exact .some (d.twins_callAs_bind (helsewhere (.checkStatus state)) fun _ ↦ .pure rfl)
  case h_3 table format? known state =>
    exact .some (d.twins_callAs_bind (helsewhere (.dump table format? (.inl state)))
      fun _ ↦ .pure rfl)
  case h_4 table format? known state =>
    exact .some (d.twins_callAs_bind (helsewhere (.dump table format? (.inr state)))
      fun _ ↦ .pure rfl)
  case h_5 known state => exact .some (d.twins_downloadAll known l)
  case h_6 table file known state => exact .some (d.twins_load known table file l)
  case h_7 table file known state => exact .some (d.twins_load known table file l)
  case h_8 how known state =>
    exact .some (d.twins_callAs_bind (helsewhere (.finish how state)) fun _ ↦ .pure rfl)
  case h_9 => exact .none

theorem twins_drive (commands : List Command) (l : Lifecycle) :
    d.Twins id (d.left.drive commands l) (d.right.drive commands l) := by
  induction commands generalizing l with
  | nil => exact .pure rfl
  | cons command rest ih =>
    have hperform := d.twins_perform command l
    generalize hleft : d.left.perform command l = left at hperform
    generalize hright : d.right.perform command l = right at hperform
    simp only [Context.drive, hleft, hright]
    cases hperform with
    | none => exact .of_self (.error _)
    | some twins => exact twins.bind_same ih

theorem twins_runScenario (scenario : Scenario) :
    d.Twins id (d.left.runScenario scenario) (d.right.runScenario scenario) := by
  refine Twins.bind_same (.of_self scenario.validate) fun _ ↦ ?_
  exact (d.twins_drive scenario.commands {}).bind_same fun _ ↦ .of_self _

end Comparison

/-! ### Rehearsals with two tokens -/

/-- Where no token is kept, a login is all that is asked for one. -/
theorem Config.Obtains.eq_login_of_none {cfg : Config} {kept : Option AccessToken} {h : List Event}
    {r : Except Error AccessToken} (obtains : cfg.Obtains none h r kept) :
    ∃ answer, h = [.answered cfg.loginRequest answer] := by
  cases obtains with
  | perStep | absent => exact ⟨_, rfl⟩
  | reused _ present | unrefreshable _ present | refreshed _ present | replaced _ present =>
    cases present

/-- The first thing that is sent is a login. -/
theorem Context.sent_zero {σ : Type} {ctx : Context σ} {scenario : Scenario}
    (valid : scenario.validate = .ok ()) {world : σ} {r : Except Error Report} {y : Exchange σ}
    (run : (ctx.runScenario scenario).attempt (.start world) = .ok r y) :
    y.sent[0]? = some (.execute ctx.config.loginRequest) := by
  obtain ⟨h, r', y', hgives, hcourse⟩ := ctx.exists_gives_runScenario scenario (.start world)
  obtain ⟨rfl, rfl⟩ := hgives.outcome_eq run
  have hfirst {h : List Event} {r : Except Error Lifecycle} {kept : Option AccessToken}
      (performs : ctx.config.Performs {} none (.begin scenario.begin) h r kept) :
      ∃ answer t, h = .answered ctx.config.loginRequest answer :: t := by
    cases performs with
    | call _ calls =>
      cases calls with
      | noToken obtains =>
        obtain ⟨answer, rfl⟩ := obtains.eq_login_of_none
        exact ⟨answer, [], rfl⟩
      | answered obtains =>
        obtain ⟨answer, rfl⟩ := obtains.eq_login_of_none
        exact ⟨answer, _, rfl⟩
  obtain ⟨answer, t, rfl⟩ : ∃ answer t, h = .answered ctx.config.loginRequest answer :: t := by
    rcases hcourse with ⟨e, hinvalid, -⟩ | ⟨-, r', -, hdrives⟩
    · cases hinvalid.symm.trans valid
    · rcases hdrives.performs (by simp [Context.perform]) with
        ⟨e, -, performs⟩ | ⟨h₁, h₂, l', kept₁, rfl, performs, -⟩
      · exact hfirst performs
      · obtain ⟨answer, t, rfl⟩ := hfirst performs
        exact ⟨answer, t ++ h₂, rfl⟩
  rw [hgives.sent]
  rfl

/-- What is told of a token shows of its texts only whether it can be refreshed. -/
theorem AccessToken.summary_eq {token token' : AccessToken}
    (expiry : token.expiresAt? = token'.expiresAt?)
    (refresh : token.refreshToken?.isSome = token'.refreshToken?.isSome) :
    token.summary = token'.summary := by
  unfold summary
  rw [expiry, refresh]

namespace Rehearsal

/-- The reply has an access token and nothing else. -/
def isBare (reply : TokenReply) : Bool :=
  reply.userId.isNone && reply.accessExpirationTime.isNone && reply.refreshToken.isNone &&
    reply.refreshExpirationTime.isNone && reply.errorMessage.isNone &&
    (AccessToken.nonEmpty? reply.accessToken).isSome

theorem masked_of_isBare {reply : TokenReply} (bare : isBare reply = true) :
    reply.masked = { accessToken := some "" } := by
  rcases reply with ⟨userId, accessToken, expiry, refreshToken, refreshExpiry, message⟩
  simp only [isBare, Bool.and_eq_true, Option.isNone_iff_eq_none] at bare
  obtain ⟨⟨⟨⟨⟨rfl, rfl⟩, rfl⟩, rfl⟩, rfl⟩, hsome⟩ := bare
  obtain ⟨token, htoken⟩ := Option.isSome_iff_exists.1 hsome
  simp only [TokenReply.masked, htoken]
  rfl

theorem exists_bare (text : String) {cs : List Char} (chars : text.toList = cs)
    (bare : (((Response.read cs).toOption.bind fun response ↦
      (TokenReply.ofJson response.body).toOption).any isBare) = true) :
    ∃ response reply, Response.parse .auth text = .ok response ∧
      TokenReply.ofJson response.body = .ok reply ∧ isBare reply = true := by
  obtain ⟨reply, hreply, hbare⟩ := (Option.any_eq_true _ _).1 bare
  obtain ⟨response, hread, hdecode⟩ := Option.bind_eq_some_iff.1 hreply
  refine ⟨response, reply, ?_, toOption_eq_some_iff.1 hdecode, hbare⟩
  rw [Response.parse, chars, toOption_eq_some_iff.1 hread]

theorem sameMasked_login : TokenReply.SameMasked loginText otherLoginText := by
  obtain ⟨response, reply, hparse, hread, hbare⟩ :=
    exists_bare loginText (toList_success _ _) (by decide +kernel)
  obtain ⟨response', reply', hparse', hread', hbare'⟩ :=
    exists_bare otherLoginText (toList_success _ _) (by decide +kernel)
  exact ⟨response, response', reply, reply', hparse, hparse', hread, hread',
    (masked_of_isBare hbare).trans (masked_of_isBare hbare').symm⟩

end Rehearsal

/-! ### Runs -/

/-- **Secrets.** Two runs of a scenario differ in the password, and are answered the same, except
that replies to requests for tokens may have other tokens in them. They have the same outcome, and
what they send is the same but for passwords and tokens. What is told of the settings does not
depend on the password, and what is told of a token depends on its texts only in whether there is
one to refresh it with. -/
theorem Context.masked_runs (cfg : Config) (pw pw' : String) (s s' : Script) (scenario : Scenario) :
    (∃ r y r' y',
      ((Context.mk (cfg.withPassword pw) s.world).runScenario scenario).attempt (.start {}) =
        .ok r y ∧
      ((Context.mk (cfg.withPassword pw') s'.world).runScenario scenario).attempt (.start {}) =
        .ok r' y' ∧
      (s.Alike cfg s' y.sent y'.sent →
        r = r' ∧ y.sent.map (Sent.masked cfg) = y'.sent.map (Sent.masked cfg))) ∧
      (cfg.withPassword pw).summary = (cfg.withPassword pw').summary ∧
      ∀ token token' : AccessToken, token.expiresAt? = token'.expiresAt? →
        token.refreshToken?.isSome = token'.refreshToken?.isSome →
          token.summary = token'.summary := by
  refine ⟨?_, rfl, fun _ _ ↦ AccessToken.summary_eq⟩
  obtain ⟨h, r, y, hgives, -⟩ :=
    (Context.mk (cfg.withPassword pw) s.world).exists_gives_runScenario scenario (.start {})
  obtain ⟨h', r', y', hgives', -⟩ :=
    (Context.mk (cfg.withPassword pw') s'.world).exists_gives_runScenario scenario (.start {})
  refine ⟨r, y, r', y', hgives.outcome, hgives'.outcome, fun alike ↦ ?_⟩
  let d : Comparison := ⟨cfg, pw, pw', s, s', y.sent, y'.sent, alike⟩
  have hstart : d.Resemble (.start {}) (.start {}) := ⟨rfl, rfl, rfl, rfl⟩
  obtain ⟨hy, hr⟩ := (d.twins_runScenario scenario).agree _ _ r r' y y' hgives.outcome
    hgives'.outcome hstart List.prefix_rfl List.prefix_rfl
  rw [Except.map_id] at hr
  exact ⟨hr, hy.sent⟩

theorem Context.masked_runs_rehearsal :
    ∃ r y y',
      ((Context.mk (Config.withPassword {} "p")
        (Script.ofReplies [.text Rehearsal.loginText] fun _ ↦ default).world).runScenario
          Rehearsal.scenario).attempt (.start {}) = .ok r y ∧
      ((Context.mk (Config.withPassword {} "q")
        (Script.ofReplies [.text Rehearsal.otherLoginText] fun _ ↦ default).world).runScenario
          Rehearsal.scenario).attempt (.start {}) = .ok r y' ∧
      y.sent.map (Sent.masked {}) = y'.sent.map (Sent.masked {}) := by
  obtain ⟨⟨r, y, r', y', hrun, hrun', hsame⟩, -⟩ := masked_runs {} "p" "q"
    (Script.ofReplies [.text Rehearsal.loginText] fun _ ↦ default)
    (Script.ofReplies [.text Rehearsal.otherLoginText] fun _ ↦ default) Rehearsal.scenario
  obtain ⟨rfl, hsent⟩ := hsame
    { clock := rfl
      outcome := by
        funext k
        cases k <;> rfl
      reply := fun k ↦ by
        cases k with
        | zero =>
          have hlogin := sent_zero (show Rehearsal.scenario.validate = .ok () from rfl) hrun
          exact .inr ⟨.inl ⟨_, hlogin, Config.isTokenUrl_auth _⟩, _, _, rfl, rfl,
            Rehearsal.sameMasked_login⟩
        | succ k => exact .inl rfl }
  exact ⟨r, y, y', hrun, hrun', hsent⟩

end TransactionHarness
