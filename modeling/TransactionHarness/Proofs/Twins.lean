import TransactionHarness.Playback
import TransactionHarness.Proofs.Address
/-!
# Runs side by side

Two runs that differ in secrets only: in the password, and in the tokens that the service gives.
What is not secret of a request, of a token or of a reply is what is left of it when it is masked.

* `Request.masked`, `AccessToken.masked`, `TokenReply.masked`: without the secrets.
* `Script`: replies in order, whatever is asked; `Script.Alike` compares two of them.
* `Comparison`: two runs, side by side.
* `Comparison.Twins`: two actions that, started in exchanges that look the same, end in exchanges
  that look the same, with outcomes of which the same can be seen.

`Twins` takes what can be seen of an outcome as a function, so that each outcome looks like itself,
and it holds of every action built from those of an exchange by `Twins.bind`. A difference in the
replies is allowed for requests for tokens only, and which reply is for which request is known from
all that is sent in the end. So `Twins` also says that logs only grow: what an action sends is part
of what is sent in the end.
-/

namespace TransactionHarness

variable {α β γ δ : Type}

/-! ### Masks -/

/-- The payload without the value of a field. -/
def Payload.masked (name : String) : Payload → Payload
  | .form fields => .form (fields.map fun field ↦ if field.1 = name then (field.1, "") else field)
  | payload => payload

/-- The request without the token that authorises it, a login without the password, and a refresh
without the token that is handed in. -/
def Request.masked (cfg : Config) (r : Request) : Request :=
  { r with
    bearer? := r.bearer?.map fun _ ↦ ""
    body :=
      if r.url = cfg.endpoint "/auth" then r.body.masked "pw"
      else if r.url = cfg.endpoint "/refresh" then r.body.masked "rt"
      else r.body }

/-- What was sent, without secrets. -/
def Sent.masked (cfg : Config) : Sent → Sent
  | execute r => execute (r.masked cfg)
  | download r place => download (r.masked cfg) place

/-- The token without its texts. Whether it can be refreshed is no secret. -/
def AccessToken.masked (token : AccessToken) : AccessToken :=
  { token with accessToken := "", refreshToken? := token.refreshToken?.map fun _ ↦ "" }

/-- The reply without the texts of the tokens. Whether they are there is no secret. -/
def TokenReply.masked (reply : TokenReply) : TokenReply :=
  { reply with
    accessToken := (AccessToken.nonEmpty? reply.accessToken).map fun _ ↦ ""
    refreshToken := (AccessToken.nonEmpty? reply.refreshToken).map fun _ ↦ "" }

/-- The settings with another password. -/
def Config.withPassword (cfg : Config) (pw : String) : Config :=
  { cfg with credentials := { cfg.credentials with pw } }

/-- Both texts are replies to a request for a token, and they differ in the tokens at most. -/
def TokenReply.SameMasked (text text' : String) : Prop :=
  ∃ response response' reply reply',
    Response.parse .auth text = .ok response ∧ Response.parse .auth text' = .ok response' ∧
      ofJson response.body = .ok reply ∧ ofJson response'.body = .ok reply' ∧
      reply.masked = reply'.masked

/-- Of the token in a reply, no more can be seen than of the reply. -/
theorem AccessToken.masked_ofReply {reply reply' : TokenReply}
    (same : reply.masked = reply'.masked) :
    (ofReply reply).map masked = (ofReply reply').map masked := by
  have haccess : reply.masked.accessToken = reply'.masked.accessToken := by rw [same]
  have hrefresh : reply.masked.refreshToken = reply'.masked.refreshToken := by rw [same]
  have hexpiry : reply.masked.accessExpirationTime = reply'.masked.accessExpirationTime := by
    rw [same]
  have hmessage : reply.masked.errorMessage = reply'.masked.errorMessage := by rw [same]
  simp only [TokenReply.masked] at haccess hrefresh hexpiry hmessage
  rcases h : nonEmpty? reply.accessToken with - | token <;>
    rcases h' : nonEmpty? reply'.accessToken with - | token' <;>
    rw [h, h'] at haccess
  · simp only [ofReply, h, h', hmessage]
  · cases haccess
  · cases haccess
  · simp only [ofReply, h, h', hexpiry, Except.map, masked, hrefresh]

/-- Of the tokens in the answers, no more can be seen than of the answers. -/
theorem AccessToken.masked_ofAnswer {text text' : String}
    (same : TokenReply.SameMasked text text') :
    (ofAnswer text).map masked = (ofAnswer text').map masked := by
  obtain ⟨response, response', reply, reply', hparse, hparse', hread, hread', hmasked⟩ := same
  simp only [ofAnswer, hparse, hparse', hread, hread']
  exact masked_ofReply hmasked

/-! ### Scripts -/

/-- What a run is answered, whatever it asks: the reply at each place, as it is given to a request
for a text and to a download, and what the clock shows at each reading. -/
structure Script where
  reply : Nat → Except Error String
  outcome : Nat → Except Error DownloadOutcome
  clock : Nat → Instant

/-- How many replies and how many readings have been used up. -/
structure Script.Place where
  replies : Nat := 0
  readings : Nat := 0

namespace Script

/-- The world that answers from the script. -/
def world (s : Script) : World Place where
  execute _ p := (s.reply p.replies, { p with replies := p.replies + 1 })
  download _ _ p := (s.outcome p.replies, { p with replies := p.replies + 1 })
  now p := (s.clock p.readings, { p with readings := p.readings + 1 })

/-- The script of a list of replies. Behind the last one there are none. -/
def ofReplies (replies : List Reply) (clock : Nat → Instant) : Script where
  reply k := match replies[k]? with
    | some reply => Playback.textOf reply
    | none => .error (.transport "script exhausted")
  outcome k := match replies[k]? with
    | some reply => Playback.outcomeOf reply
    | none => .error (.transport "script exhausted")
  clock

/-- Among the requests, the one at the place is for a token. -/
def AsksToken (cfg : Config) (sent : List Sent) (k : Nat) : Prop :=
  ∃ s, sent[k]? = some s ∧ cfg.isTokenUrl s.request.url = true

/-- The scripts are the same, except that replies to requests for tokens may have other tokens in
them. -/
structure Alike (cfg : Config) (s s' : Script) (sent sent' : List Sent) : Prop where
  clock : s.clock = s'.clock
  outcome : s.outcome = s'.outcome
  reply : ∀ k, s.reply k = s'.reply k ∨
    (AsksToken cfg sent k ∨ AsksToken cfg sent' k) ∧
      ∃ text text', s.reply k = .ok text ∧ s'.reply k = .ok text' ∧
        TokenReply.SameMasked text text'

end Script

/-! ### Comparisons -/

/-- Two runs side by side: what they are asked to do it with, what they are answered, and what they
send in all. -/
structure Comparison where
  config : Config
  pw : String
  pw' : String
  script : Script
  script' : Script
  sent : List Sent
  sent' : List Sent
  alike : Script.Alike config script script' sent sent'

/-- What an action sends comes behind what was sent. -/
def Action.Grows (act : Action Script.Place α) : Prop :=
  ∀ x r y, act.attempt x = .ok r y → x.sent <+: y.sent

namespace Comparison

variable (d : Comparison)

/-- The one run. -/
def left : Context Script.Place := ⟨d.config.withPassword d.pw, d.script.world⟩

/-- The other run. -/
def right : Context Script.Place := ⟨d.config.withPassword d.pw', d.script'.world⟩

/-- The exchanges look the same. -/
structure Resemble (x x' : Exchange Script.Place) : Prop where
  world : x.world = x'.world
  /-- As many replies have been used as requests have been sent. -/
  length : x.sent.length = x.world.replies
  sent : x.sent.map (Sent.masked d.config) = x'.sent.map (Sent.masked d.config)
  token : x.token?.map AccessToken.masked = x'.token?.map AccessToken.masked

/-- The actions do the same, as far as it can be seen, and `view` is what can be seen of their
outcomes. -/
structure Twins (view : α → γ) (act act' : Action Script.Place α) : Prop where
  grows : act.Grows
  grows' : act'.Grows
  agree : ∀ x x' r r' y y', act.attempt x = .ok r y → act'.attempt x' = .ok r' y' →
    d.Resemble x x' → y.sent <+: d.sent → y'.sent <+: d.sent' →
      d.Resemble y y' ∧ r.map view = r'.map view

end Comparison

/-! ### Actions behind each other -/

namespace Action

/-- Two actions behind each other: the first one fails, or the second one goes on from it. -/
theorem attempt_bind {σ : Type} {act : Action σ α} {f : α → Action σ β} {x z : Exchange σ}
    {r : Except Error β} (h : (act >>= f).attempt x = .ok r z) :
    (∃ e, act.attempt x = .ok (.error e) z ∧ r = .error e) ∨
      ∃ a y, act.attempt x = .ok (.ok a) y ∧ (f a).attempt y = .ok r z := by
  have hbind : (act >>= f) x = EStateM.bind act f x := rfl
  rcases hact : act x with ⟨a, y⟩ | ⟨e, y⟩
  · refine .inr ⟨a, y, attempt_eq_ok_iff.2 hact, ?_⟩
    simpa only [attempt, hbind, EStateM.bind, hact] using h
  · simp only [attempt, hbind, EStateM.bind, hact, EStateM.Result.ok.injEq] at h
    obtain ⟨rfl, rfl⟩ := h
    exact .inl ⟨e, attempt_eq_error_iff.2 hact, rfl⟩

theorem attempt_attempt {σ : Type} {act : Action σ α} {x y : Exchange σ}
    {r : Except Error (Except Error α)}
    (h : act.attempt.attempt x = .ok r y) : ∃ r', act.attempt x = .ok r' y ∧ r = .ok r' := by
  rcases hact : act x with ⟨a, z⟩ | ⟨e, z⟩ <;>
    simp only [attempt, hact, EStateM.Result.ok.injEq] at h ⊢ <;>
    obtain ⟨rfl, rfl⟩ := h
  · exact ⟨_, ⟨rfl, rfl⟩, rfl⟩
  · exact ⟨_, ⟨rfl, rfl⟩, rfl⟩

theorem attempt_of {σ : Type} (r : Except Error α) (x : Exchange σ) :
    (of r : Action σ α).attempt x = .ok r x := by
  cases r <;> rfl

end Action

namespace Comparison

variable {d : Comparison} {view : α → γ} {act act' : Action Script.Place α}

/-- Actions behind each other do the same, if the second ones do whenever the same is seen of the
first ones. -/
theorem Twins.bind {view' : β → δ} {f f' : α → Action Script.Place β}
    (first : d.Twins view act act')
    (rest : ∀ a a', view a = view a' → d.Twins view' (f a) (f' a')) :
    d.Twins view' (act >>= f) (act' >>= f') where
  grows x r z h := by
    rcases Action.attempt_bind h with ⟨e, hact, -⟩ | ⟨a, y, hact, hf⟩
    · exact first.grows x _ z hact
    · exact (first.grows x _ y hact).trans ((rest a a rfl).grows y r z hf)
  grows' x r z h := by
    rcases Action.attempt_bind h with ⟨e, hact, -⟩ | ⟨a, y, hact, hf⟩
    · exact first.grows' x _ z hact
    · exact (first.grows' x _ y hact).trans ((rest a a rfl).grows' y r z hf)
  agree x x' r r' z z' h h' resemble sent sent' := by
    -- what the first actions send is part of what is sent in the end
    have hfirst {r₁ r₁' : Except Error α} {y y'} (hact : act.attempt x = .ok r₁ y)
        (hact' : act'.attempt x' = .ok r₁' y') (hy : y.sent <+: z.sent)
        (hy' : y'.sent <+: z'.sent) :=
      first.agree x x' r₁ r₁' y y' hact hact' resemble (hy.trans sent) (hy'.trans sent')
    rcases Action.attempt_bind h with ⟨e, hact, rfl⟩ | ⟨a, y, hact, hf⟩ <;>
      rcases Action.attempt_bind h' with ⟨e', hact', rfl⟩ | ⟨a', y', hact', hf'⟩
    · obtain ⟨hz, he⟩ := hfirst hact hact' List.prefix_rfl List.prefix_rfl
      cases he
      exact ⟨hz, rfl⟩
    · obtain ⟨-, he⟩ := hfirst hact hact' List.prefix_rfl ((rest a' a' rfl).grows' y' r' z' hf')
      cases he
    · obtain ⟨-, he⟩ := hfirst hact hact' ((rest a a rfl).grows y r z hf) List.prefix_rfl
      cases he
    · obtain ⟨hy, ha⟩ := hfirst hact hact' ((rest a a rfl).grows y r z hf)
        ((rest a' a' rfl).grows' y' r' z' hf')
      exact (rest a a' (Except.ok.inj ha)).agree y y' r r' z z' hf hf' hy sent sent'

/-- If all can be seen of the first outcome, it is the same one in both. -/
theorem Twins.bind_same {view' : β → δ} {f f' : α → Action Script.Place β}
    (first : d.Twins id act act') (rest : ∀ a, d.Twins view' (f a) (f' a)) :
    d.Twins view' (act >>= f) (act' >>= f') := by
  refine first.bind fun a a' same ↦ ?_
  obtain rfl : a = a' := same
  exact rest a

/-- Two actions that always have an outcome, as it is written down, do the same if the outcomes look
the same. -/
theorem Twins.of_outcome {r r' : Exchange Script.Place → Except Error α}
    {y y' : Exchange Script.Place → Exchange Script.Place}
    (outcome : ∀ x, act.attempt x = .ok (r x) (y x))
    (outcome' : ∀ x, act'.attempt x = .ok (r' x) (y' x))
    (grows : ∀ x, x.sent <+: (y x).sent) (grows' : ∀ x, x.sent <+: (y' x).sent)
    (agree : ∀ x x', d.Resemble x x' → (y x).sent <+: d.sent → (y' x').sent <+: d.sent' →
      d.Resemble (y x) (y' x') ∧ (r x).map view = (r' x').map view) :
    d.Twins view act act' where
  grows x _ _ h := by
    obtain ⟨-, rfl⟩ := EStateM.Result.ok.inj ((outcome x).symm.trans h)
    exact grows x
  grows' x _ _ h := by
    obtain ⟨-, rfl⟩ := EStateM.Result.ok.inj ((outcome' x).symm.trans h)
    exact grows' x
  agree x x' _ _ _ _ h h' resemble sent sent' := by
    obtain ⟨rfl, rfl⟩ := EStateM.Result.ok.inj ((outcome x).symm.trans h)
    obtain ⟨rfl, rfl⟩ := EStateM.Result.ok.inj ((outcome' x').symm.trans h')
    exact agree x x' resemble sent sent'

/-- Outcomes of which the same is seen. -/
theorem Twins.of {r r' : Except Error α} (same : r.map view = r'.map view) :
    d.Twins view (Action.of r) (Action.of r') :=
  .of_outcome (Action.attempt_of r) (Action.attempt_of r') (fun _ ↦ List.prefix_rfl)
    (fun _ ↦ List.prefix_rfl) fun _ _ resemble _ _ ↦ ⟨resemble, same⟩

/-- An outcome looks like itself. -/
theorem Twins.of_self (r : Except Error α) : d.Twins view (Action.of r) (Action.of r) :=
  .of rfl

theorem Twins.pure {a a' : α} (same : view a = view a') :
    d.Twins view (Pure.pure a) (Pure.pure a') :=
  show d.Twins view (Action.of (.ok a)) (Action.of (.ok a')) from .of (congrArg Except.ok same)

/-- An attempt does what the action does, and the same is seen of its outcome. -/
theorem Twins.attempt (twins : d.Twins view act act') :
    d.Twins (Except.map view) act.attempt act'.attempt where
  grows x _ y h := by
    obtain ⟨r, hact, rfl⟩ := Action.attempt_attempt h
    exact twins.grows x r y hact
  grows' x _ y h := by
    obtain ⟨r, hact, rfl⟩ := Action.attempt_attempt h
    exact twins.grows' x r y hact
  agree x x' _ _ y y' h h' resemble sent sent' := by
    obtain ⟨r, hact, rfl⟩ := Action.attempt_attempt h
    obtain ⟨r', hact', rfl⟩ := Action.attempt_attempt h'
    obtain ⟨hy, hr⟩ := twins.agree x x' r r' y y' hact hact' resemble sent sent'
    exact ⟨hy, congrArg Except.ok hr⟩

/-- The same for each element of a list, one behind the other. -/
theorem Twins.foldlM {f f' : β → δ → Action Script.Place β}
    (step : ∀ b a, d.Twins id (f b a) (f' b a)) (b : β) (as : List δ) :
    d.Twins id (as.foldlM f b) (as.foldlM f' b) := by
  induction as generalizing b with
  | nil => exact .pure rfl
  | cons a as ih =>
    rw [List.foldlM_cons, List.foldlM_cons]
    exact (step b a).bind_same ih

/-! ### Keeping and asking -/

theorem Twins.takeToken :
    d.Twins (Option.map AccessToken.masked) Action.takeToken Action.takeToken :=
  .of_outcome (fun _ ↦ rfl) (fun _ ↦ rfl) (fun _ ↦ List.prefix_rfl) (fun _ ↦ List.prefix_rfl)
    fun _ _ resemble _ _ ↦ ⟨{ resemble with token := rfl }, congrArg Except.ok resemble.token⟩

theorem Twins.keepToken {token token' : AccessToken} (same : token.masked = token'.masked) :
    d.Twins id (Action.keepToken token) (Action.keepToken token') :=
  .of_outcome (fun _ ↦ rfl) (fun _ ↦ rfl) (fun _ ↦ List.prefix_rfl) (fun _ ↦ List.prefix_rfl)
    fun _ _ resemble _ _ ↦ ⟨{ resemble with token := congrArg some same }, rfl⟩

/-- The clocks show the same. -/
theorem Twins.now : d.Twins id d.left.now d.right.now := by
  refine .of_outcome (fun _ ↦ rfl) (fun _ ↦ rfl) (fun _ ↦ List.prefix_rfl)
    (fun _ ↦ List.prefix_rfl) fun x x' resemble _ _ ↦ ?_
  have hplace : x.world = x'.world := resemble.world
  have hclock : d.script.clock x.world.readings = d.script'.clock x'.world.readings := by
    rw [d.alike.clock, hplace]
  refine ⟨⟨?_, resemble.length, resemble.sent, resemble.token⟩, congrArg Except.ok hclock⟩
  show { x.world with readings := x.world.readings + 1 } =
    { x'.world with readings := x'.world.readings + 1 }
  rw [hplace]

/-- The exchange after a request that has used up a reply. -/
def answered (s : Sent) (x : Exchange Script.Place) : Exchange Script.Place :=
  { x with world := { x.world with replies := x.world.replies + 1 }, sent := x.sent ++ [s] }

theorem Resemble.length' {x x' : Exchange Script.Place} (resemble : d.Resemble x x') :
    x'.sent.length = x'.world.replies := by
  have hmap : (x.sent.map (Sent.masked d.config)).length =
      (x'.sent.map (Sent.masked d.config)).length := by rw [resemble.sent]
  rw [List.length_map, List.length_map] at hmap
  rw [← hmap, resemble.length, resemble.world]

/-- Exchanges still look the same after requests that do. -/
theorem Resemble.answered {x x' : Exchange Script.Place} (resemble : d.Resemble x x') {s s' : Sent}
    (same : s.masked d.config = s'.masked d.config) :
    d.Resemble (answered s x) (answered s' x') where
  world := by rw [Comparison.answered, Comparison.answered, resemble.world]
  length := by simp [Comparison.answered, resemble.length]
  sent := by simp [Comparison.answered, resemble.sent, same]
  token := resemble.token

/-- The request that uses up the reply at a place has this place among all that is sent. -/
theorem getElem?_of_answered {s : Sent} {x : Exchange Script.Place} {sent : List Sent}
    (length : x.sent.length = x.world.replies) (here : (answered s x).sent <+: sent) :
    sent[x.world.replies]? = some s := by
  obtain ⟨rest, rfl⟩ := here
  rw [← length]
  simp [answered]

/-- Requests for texts that look the same are given answers that look the same, if the replies at
their place do. -/
theorem Twins.execute {view : String → γ} {request request' : Request}
    (same : request.masked d.config = request'.masked d.config)
    (replies : ∀ k, d.sent[k]? = some (.execute request) →
      d.sent'[k]? = some (.execute request') →
        (d.script.reply k).map view = (d.script'.reply k).map view) :
    d.Twins view (d.left.execute request) (d.right.execute request') := by
  have houtcome (x : Exchange Script.Place) : (d.left.execute request).attempt x =
      .ok (d.script.reply x.world.replies) (answered (.execute request) x) := by
    cases h : d.script.reply x.world.replies <;>
      simp [Action.attempt, Context.execute, left, Script.world, answered, h]
  have houtcome' (x : Exchange Script.Place) : (d.right.execute request').attempt x =
      .ok (d.script'.reply x.world.replies) (answered (.execute request') x) := by
    cases h : d.script'.reply x.world.replies <;>
      simp [Action.attempt, Context.execute, right, Script.world, answered, h]
  refine .of_outcome houtcome houtcome' (fun _ ↦ List.prefix_append _ _)
    (fun _ ↦ List.prefix_append _ _) fun x x' resemble sent sent' ↦ ?_
  refine ⟨resemble.answered (congrArg Sent.execute same), ?_⟩
  have hplace := getElem?_of_answered resemble.length' sent'
  rw [← resemble.world] at hplace ⊢
  exact replies _ (getElem?_of_answered resemble.length sent) hplace

/-- Downloads are answered in the same way. -/
theorem Twins.download {request request' : Request} {place : String}
    (same : request.masked d.config = request'.masked d.config) :
    d.Twins id (d.left.download request place) (d.right.download request' place) := by
  have houtcome (x : Exchange Script.Place) : (d.left.download request place).attempt x =
      .ok (d.script.outcome x.world.replies) (answered (.download request place) x) := by
    cases h : d.script.outcome x.world.replies <;>
      simp [Action.attempt, Context.download, left, Script.world, answered, h]
  have houtcome' (x : Exchange Script.Place) : (d.right.download request' place).attempt x =
      .ok (d.script'.outcome x.world.replies) (answered (.download request' place) x) := by
    cases h : d.script'.outcome x.world.replies <;>
      simp [Action.attempt, Context.download, right, Script.world, answered, h]
  refine .of_outcome houtcome houtcome' (fun _ ↦ List.prefix_append _ _)
    (fun _ ↦ List.prefix_append _ _) fun x x' resemble _ _ ↦ ?_
  refine ⟨resemble.answered ?_, ?_⟩
  · rw [Sent.masked, Sent.masked, same]
  · rw [d.alike.outcome, resemble.world]

/-- The replies to a step are the same, since only those to requests for tokens may differ. -/
theorem Twins.execute_step {request request' : Request}
    (same : request.masked d.config = request'.masked d.config)
    (step : d.config.isTokenUrl request.url = false) :
    d.Twins id (d.left.execute request) (d.right.execute request') := by
  have hurl : (request.masked d.config).url = (request'.masked d.config).url := by rw [same]
  refine .execute same fun k sent sent' ↦ ?_
  rcases d.alike.reply k with heq | ⟨⟨s, hs, htoken⟩ | ⟨s, hs, htoken⟩, -⟩
  · rw [heq]
  · cases hs.symm.trans sent
    cases step.symm.trans htoken
  · cases hs.symm.trans sent'
    rw [show request.url = request'.url from hurl] at step
    cases step.symm.trans htoken

/-- Of the replies to requests for tokens, the same is seen. -/
theorem Twins.execute_token {request request' : Request}
    (same : request.masked d.config = request'.masked d.config) :
    d.Twins (fun text ↦ (AccessToken.ofAnswer text).map AccessToken.masked)
      (d.left.execute request) (d.right.execute request') := by
  refine .execute same fun k _ _ ↦ ?_
  rcases d.alike.reply k with heq | ⟨-, text, text', htext, htext', hmasked⟩
  · rw [heq]
  · rw [htext, htext']
    exact congrArg Except.ok (AccessToken.masked_ofAnswer hmasked)

end Comparison

end TransactionHarness
