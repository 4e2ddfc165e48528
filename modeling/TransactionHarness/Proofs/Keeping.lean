import TransactionHarness.Playback
import TransactionHarness.Proofs.Renewal
/-!
# What is kept after a call

A call for a token keeps the token that it gives. What a call that fails keeps depends on the
policy: where there is a login for each call, the token kept before stays; where tokens are kept, it
has been taken out before anything is asked, and nothing takes its place.

* `keptBehind`: the token kept behind a history, said from the tokens that the service has given.
* `Config.Obtains.kept_eq`: a call leaves it as it should be, and `Context.Takes.current_eq`: so do
  all calls.
* `Context.kept_of_calls`: what is kept after each call of any number of them.
-/

namespace TransactionHarness

variable {σ : Type}

/-- What is kept behind a history whose last call has ended well or not. -/
def keptBehind (cfg : Config) (h : List Event) (ok : Bool) : Option AccessToken :=
  if cfg.tokenPolicy = .perStep ∨ ok = true then lastToken cfg h else none

namespace Config

variable {cfg : Config} {past h : List Event} {kept kept' : Option AccessToken}
  {r : Except Error AccessToken}

/-- Nothing has been given in a call that fails. -/
theorem Obtains.lastToken_of_error {e : Error} (obtains : cfg.Obtains kept h (.error e) kept') :
    lastToken cfg (past ++ h) = lastToken cfg past := by
  cases obtains with
  | perStep _ reply | absent _ _ reply =>
    rw [lastToken_login, reply]
    rfl
  | unrefreshable _ _ _ _ reply =>
    rw [List.append_cons, lastToken_login, reply, lastToken_concat]
    rfl
  | replaced _ _ _ _ refused reply =>
    rw [List.append_cons, List.append_cons, lastToken_login, reply, lastToken_refresh, refused,
      lastToken_concat]
    rfl

/-- A call that fails leaves what was kept if there is a login for each call, and nothing if there
is not. -/
theorem Obtains.kept_of_error {e : Error} (obtains : cfg.Obtains kept h (.error e) kept') :
    kept' = if cfg.tokenPolicy = .perStep then kept else none := by
  cases obtains with
  | perStep policy => rw [if_pos policy]; rfl
  | absent policy | unrefreshable policy | replaced policy => rw [policy]; rfl

theorem knows_keptBehind (cfg : Config) (past : List Event) (ok : Bool) :
    Knows cfg past (keptBehind cfg past ok) := by
  intro token htoken
  unfold keptBehind at htoken
  split at htoken
  · exact htoken
  · cases htoken

/-- What is kept after a call, if what was kept before it was as it should be. -/
theorem Obtains.kept_eq {ok : Bool} (obtains : cfg.Obtains (keptBehind cfg past ok) h r kept') :
    kept' = keptBehind cfg (past ++ h) r.isOk := by
  rcases r with e | token
  · rw [obtains.kept_of_error, keptBehind, keptBehind, obtains.lastToken_of_error]
    by_cases policy : cfg.tokenPolicy = .perStep
    · simp only [policy, true_or, if_true]
    · simp [policy, Except.isOk, Except.toBool]
  · obtain ⟨-, -, hlast⟩ := obtains.heeds (cfg.knows_keptBehind past ok)
    rw [obtains.kept_of_ok.1, keptBehind, if_pos (.inr rfl), hlast token rfl]

end Config

/-! ### All calls -/

/-- The call is one in which a token is obtained or not. -/
def Turn.Obtains (cfg : Config) (turn : Turn) : Prop :=
  ∃ r, turn.outcome = r.map AccessToken.accessToken ∧
    cfg.Obtains turn.kept? turn.history r turn.current?

namespace Context

variable (ctx : Context σ)

theorem exists_takes_obtains (n : ℕ) (x : Exchange σ) :
    ∃ turns y, turns.length = n ∧ ctx.Takes x turns y ∧
      ∀ turn ∈ turns, turn.Obtains ctx.config := by
  induction n generalizing x with
  | zero => exact ⟨[], x, rfl, .nil x, fun _ hturn ↦ absurd hturn List.not_mem_nil⟩
  | succ n ih =>
    obtain ⟨h, r, y, hgives, hobtains⟩ := ctx.exists_gives_ensureToken x
    obtain ⟨turns, z, hlength, htakes, hall⟩ := ih y
    let turn : Turn :=
      { kept? := x.token?
        now := (ctx.world.now x.world).1
        history := h
        outcome := r.map AccessToken.accessToken
        current? := y.token? }
    exact ⟨turn :: turns, z, congrArg (· + 1) hlength, .cons rfl rfl hgives rfl htakes,
      List.forall_mem_cons.2 ⟨⟨r, rfl, hobtains⟩, hall⟩⟩

variable {ctx}

/-- Each of the calls leaves what is kept as it should be. -/
theorem Takes.current_eq {x y : Exchange σ} {turns : List Turn} (takes : ctx.Takes x turns y)
    (obtains : ∀ turn ∈ turns, turn.Obtains ctx.config) {past : List Event} {ok : Bool}
    (kept : x.token? = keptBehind ctx.config past ok) {before after : List Turn} {turn : Turn}
    (here : turns = before ++ turn :: after) :
    turn.current? = keptBehind ctx.config (past ++ (before ++ [turn]).flatMap Turn.history)
      turn.outcome.isOk := by
  induction takes generalizing past ok before with
  | nil => exact absurd here.symm (by simp)
  | @cons x y z first turns hkept _ _ hcurrent _ ih =>
    obtain ⟨⟨r, houtcome, hfirst⟩, hrest⟩ := List.forall_mem_cons.1 obtains
    rw [hkept, kept] at hfirst
    have hok : first.outcome.isOk = r.isOk := by
      rw [houtcome]
      cases r <;> rfl
    have heq : first.current? = keptBehind ctx.config (past ++ first.history) first.outcome.isOk :=
      hok ▸ hfirst.kept_eq
    rcases before with - | ⟨_, before⟩
    · obtain ⟨rfl, -⟩ := List.cons.inj here
      simpa using heq
    · obtain ⟨rfl, rfl⟩ := List.cons.inj here
      have hturn := ih hrest (hcurrent.symm.trans heq) rfl
      rwa [List.append_assoc] at hturn

variable (ctx)

/-- **What is kept after calls.** Wherever a call that fails has started, what was kept stays if
there is a login for each call, and otherwise nothing is kept any longer. So whatever the world and
its clock, and however often a token is called for, after each call the token that the service has
given last is kept if there is a login for each call or if that call has succeeded; and after a call
that fails under the other policy there is none, whatever has been given. -/
theorem kept_of_calls :
    (∀ (x y : Exchange σ) (e : Error), ctx.ensureToken x = .error e y →
      y.token? = if ctx.config.tokenPolicy = .perStep then x.token? else none) ∧
    ∀ (n : ℕ) (world : σ), ∃ turns y, turns.length = n ∧ ctx.Takes (.start world) turns y ∧
      ctx.world.Answers world (turns.flatMap Turn.history) y.world ∧
      y.sent = sentIn (turns.flatMap Turn.history) ∧
      ∀ before turn after, turns = before ++ turn :: after →
        turn.current? =
          if ctx.config.tokenPolicy = .perStep ∨ turn.outcome.isOk = true then
            lastToken ctx.config ((before ++ [turn]).flatMap Turn.history)
          else none := by
  refine ⟨fun x y e fails ↦ ?_, fun n world ↦ ?_⟩
  · obtain ⟨h, r, y', hgives, hobtains⟩ := ctx.exists_gives_ensureToken x
    obtain ⟨hr, rfl⟩ := hgives.outcome_eq (Action.attempt_eq_error_iff.2 fails)
    rcases r with e' | token
    · exact hobtains.kept_of_error
    · cases hr
  · obtain ⟨turns, y, hlength, htakes, hobtains⟩ := ctx.exists_takes_obtains n (.start world)
    obtain ⟨hanswers, hsent⟩ := htakes.answers
    have hnone : (Exchange.start world).token? = keptBehind ctx.config [] false :=
      (ite_self none).symm
    exact ⟨turns, y, hlength, htakes, hanswers, hsent, fun before turn after here ↦
      htakes.current_eq hobtains hnone here⟩

/-! ### A token that is lost -/

/-- A run that keeps tokens until half a minute is left, where a login gives a token that has
expired and nothing is answered behind it. -/
def lapsing : Context Playback :=
  ⟨{ tokenPolicy := .cached TokenPolicy.standardMargin }, Playback.world ⟨0, 0⟩⟩

/-- A reply with a token that has expired. -/
def lapsedText : String :=
  Rehearsal.success ("\x7b\"accessToken\":\"a\"," ++ "\"accessExpirationTime\":0\x7d")

/-- The token in it. -/
def lapsed : AccessToken := ⟨"a", some ⟨0, 0⟩, none⟩

theorem ofReceived_lapsed : AccessToken.ofReceived (.ok lapsedText) = .ok lapsed :=
  AccessToken.ofReceived_of_read (Rehearsal.toList_success _ _) (by decide +kernel)

/-- The first call gives the token, and the second one fails and leaves nothing. -/
theorem exists_lost :
    ∃ e y z, lapsing.ensureToken (.start { replies := [.text lapsedText] }) = .ok "a" y ∧
      lapsing.ensureToken y = .error e z ∧ y.token? = some lapsed ∧ z.token? = none := by
  let e : Error := .transport "script exhausted"
  have hgiven : lapsing.config.Obtains none
      [.answered lapsing.config.loginRequest (.ok lapsedText)] (.ok lapsed) (some lapsed) :=
    .absent rfl rfl ofReceived_lapsed
  have hfailed : lapsing.config.Obtains (some lapsed)
      [.clock ⟨0, 0⟩, .answered lapsing.config.loginRequest (.error e)] (.error e) none :=
    .unrefreshable rfl rfl (by decide) rfl rfl
  have hreply : lapsing.world.Answers { replies := [.text lapsedText] }
      [.answered lapsing.config.loginRequest (.ok lapsedText)] { replies := [] } :=
    ⟨_, rfl, rfl⟩
  have hnone : lapsing.world.Answers { replies := [] }
      [.clock ⟨0, 0⟩, .answered lapsing.config.loginRequest (.error e)] { replies := [] } :=
    ⟨_, rfl, _, rfl, rfl⟩
  obtain ⟨y, hfirst, hworld, hkept⟩ := hgiven.plays (.start _) _ hreply rfl
  obtain ⟨z, hsecond, -, hlost⟩ := hfailed.plays y _ (hworld ▸ hnone) hkept
  exact ⟨e, y, z, hfirst.apply_eq_ok, hsecond.apply_eq_error, hkept, hlost⟩

/-- A call that fails, behind one that has succeeded, does not leave what was kept. -/
theorem kept_lost_by_failure :
    ¬ ∀ (ctx : Context Playback) (world : Playback) (text : String) (e : Error)
      (y z : Exchange Playback), ctx.ensureToken (.start world) = .ok text y →
      ctx.ensureToken y = .error e z → z.token? = y.token? := by
  intro h
  obtain ⟨e, y, z, hfirst, hsecond, hkept, hlost⟩ := exists_lost
  have hsame := h lapsing _ "a" e y z hfirst hsecond
  rw [hkept, hlost] at hsame
  cases hsame

end Context

end TransactionHarness
