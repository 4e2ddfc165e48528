import TransactionHarness.Proofs.Bodies
import TransactionHarness.Proofs.Framing
import TransactionHarness.Proofs.Replay
/-!
# Grants and refusals

Whatever the service answers to a login or a refresh, the answer grants a token or is refused, and a
refusal is an authentication error. Three readers stand behind each other, for the text, for its
body and for the token in the reply, and each of them has errors of its own; none of these gets out
under its own name.

What an answer is worth is said from the fields of its body and not from the readers: a text is a
reply if its body has the fields of the reply (`AccessToken.IsReply`), be it an object or an array.

* `TokenReply.Grants`: the token that a reply grants, and `AccessToken.ofReply_eq_ok_iff`,
  `AccessToken.ofReply_eq_error_iff`: what is made of a reply.
* `AccessToken.ofAnswer_eq_ok_iff`, `AccessToken.exists_of_ofAnswer_eq_error`: what is made of a
  text.
* `Context.judged_of_obtain`: what comes of every login and every refresh.
-/

namespace TransactionHarness

variable {σ : Type}

/-- The instant that an expiration time names. -/
inductive Json.Names : Json → Instant → Prop where
  | timestamp {s : String} {t : Instant} (h : Instant.read? s.toList = some t) : Names (.str s) t
  /-- A number of seconds, which may have a fraction. -/
  | seconds {n : Number} {t : Instant} (h : Instant.ofBinary64? n.toBinary64 = some t) :
      Names (.num n) t

theorem Json.names_iff {v : Json} {t : Instant} : v.Names t ↔ Instant.ofJson? v = some t := by
  constructor
  · rintro (h | h) <;> exact h
  · intro h
    cases v with
    | str s => exact .timestamp h
    | num n => exact .seconds h
    | null | bool | arr | obj => cases h

/-! ### Replies -/

/-- The token that a reply grants. -/
structure TokenReply.Grants (reply : TokenReply) (token : AccessToken) : Prop where
  accessToken : reply.accessToken = some token.accessToken
  ne : token.accessToken ≠ ""
  refreshToken : ∀ s, token.refreshToken? = some s ↔ reply.refreshToken = some s ∧ s ≠ ""
  expiry : ∀ t, token.expiresAt? = some t ↔
    ∃ v, reply.accessExpirationTime = some v ∧ v.Names t

namespace AccessToken

theorem nonEmpty?_eq_some_iff {s? : Option String} {s : String} :
    nonEmpty? s? = some s ↔ s? = some s ∧ s ≠ "" := by
  rw [nonEmpty?, Option.filter_eq_some_iff]
  simp

theorem nonEmpty?_eq_none_iff {s? : Option String} :
    nonEmpty? s? = none ↔ ∀ s, s? = some s → s = "" := by
  rw [nonEmpty?, Option.filter_eq_none_iff]
  simp

theorem ofReply_eq_ok_iff {reply : TokenReply} {token : AccessToken} :
    ofReply reply = .ok token ↔ reply.Grants token := by
  have hexpiry (t : Instant) : reply.accessExpirationTime.bind Instant.ofJson? = some t ↔
      ∃ v, reply.accessExpirationTime = some v ∧ v.Names t := by
    simp only [Option.bind_eq_some_iff, Json.names_iff]
  unfold ofReply
  constructor
  · intro h
    split at h
    · next s hs =>
      obtain ⟨hgiven, hne⟩ := nonEmpty?_eq_some_iff.1 hs
      obtain rfl := Except.ok.inj h
      exact ⟨hgiven, hne, fun _ ↦ nonEmpty?_eq_some_iff, hexpiry⟩
    · cases h
  · intro grants
    rw [nonEmpty?_eq_some_iff.2 ⟨grants.accessToken, grants.ne⟩]
    -- the other two parts are known from what they can be
    have hexpires : reply.accessExpirationTime.bind Instant.ofJson? = token.expiresAt? :=
      Option.ext fun t ↦ (hexpiry t).trans (grants.expiry t).symm
    have hrefresh : nonEmpty? reply.refreshToken = token.refreshToken? :=
      Option.ext fun s ↦ nonEmpty?_eq_some_iff.trans (grants.refreshToken s).symm
    simp only [hexpires, hrefresh]

theorem ofReply_eq_error_iff {reply : TokenReply} {e : Error} :
    ofReply reply = .error e ↔ (∀ s, reply.accessToken = some s → s = "") ∧
      e = .authentication (reply.errorMessage.getD "response carried no accessToken") := by
  rw [← nonEmpty?_eq_none_iff, ofReply]
  rcases nonEmpty? reply.accessToken with - | s
  · simp [eq_comm]
  · simp

/-- A reply grants a token exactly if its access token is a text that is not empty. -/
theorem exists_grants_iff {reply : TokenReply} :
    (∃ token, reply.Grants token) ↔ ∃ s, reply.accessToken = some s ∧ s ≠ "" := by
  constructor
  · rintro ⟨token, grants⟩
    exact ⟨token.accessToken, grants.accessToken, grants.ne⟩
  · rintro ⟨s, hgiven, hne⟩
    rcases hreply : ofReply reply with e | token
    · exact absurd ((ofReply_eq_error_iff.1 hreply).1 s hgiven) hne
    · exact ⟨token, ofReply_eq_ok_iff.1 hreply⟩

/-! ### Texts -/

/-- What is made of the body of an answer. -/
def ofBody (body : Json) : Except Error AccessToken :=
  match TokenReply.ofJson body with
  | .error misfit => .error (.authentication ("unexpected auth response: " ++ misfit.message))
  | .ok reply => ofReply reply

/-- Of a text that can be read, only the body counts. -/
theorem ofAnswer_of_parse {text : String} {response : Response}
    (readable : Response.parse .auth text = .ok response) :
    ofAnswer text = ofBody response.body := by
  rw [ofAnswer, readable]
  rfl

/-- The text is read, and the fields of its body are those of the reply. -/
def IsReply (text : String) (reply : TokenReply) : Prop :=
  ∃ response, Response.parse .auth text = .ok response ∧ reply.IsIn response.body

theorem isReply_iff {text : String} {reply : TokenReply} : IsReply text reply ↔
    ∃ response, Response.parse .auth text = .ok response ∧
      TokenReply.ofJson response.body = .ok reply := by
  refine exists_congr fun response ↦ and_congr_right fun hparse ↦ ?_
  exact (TokenReply.ofJson_eq_ok_iff (Response.isCanonical_of_parse hparse)).symm

/-- A text is one reply. -/
theorem IsReply.unique {text : String} {reply reply' : TokenReply} (h : IsReply text reply)
    (h' : IsReply text reply') : reply = reply' := by
  obtain ⟨response, hparse, hdecode⟩ := isReply_iff.1 h
  obtain ⟨response', hparse', hdecode'⟩ := isReply_iff.1 h'
  cases hparse.symm.trans hparse'
  exact Except.ok.inj (hdecode.symm.trans hdecode')

theorem ofAnswer_of_isReply {text : String} {reply : TokenReply} (h : IsReply text reply) :
    ofAnswer text = ofReply reply := by
  obtain ⟨response, hparse, hdecode⟩ := isReply_iff.1 h
  rw [ofAnswer_of_parse hparse, ofBody, hdecode]

theorem ofAnswer_eq_ok_iff {text : String} {token : AccessToken} :
    ofAnswer text = .ok token ↔ ∃ reply, IsReply text reply ∧ reply.Grants token := by
  constructor
  · intro h
    rcases hparse : Response.parse .auth text with fault | response
    · rw [ofAnswer, hparse] at h
      cases h
    · rcases hdecode : TokenReply.ofJson response.body with misfit | reply
      · rw [ofAnswer_of_parse hparse, ofBody, hdecode] at h
        cases h
      · have hreply : IsReply text reply := isReply_iff.2 ⟨response, hparse, hdecode⟩
        exact ⟨reply, hreply, ofReply_eq_ok_iff.1 (ofAnswer_of_isReply hreply ▸ h)⟩
  · rintro ⟨reply, hreply, grants⟩
    rw [ofAnswer_of_isReply hreply, ofReply_eq_ok_iff.2 grants]

/-- Every refusal is an authentication error. Where the text is a reply, it is in the words of the
service, if it has said any. -/
theorem exists_of_ofAnswer_eq_error {text : String} {e : Error} (h : ofAnswer text = .error e) :
    ∃ message, e = .authentication message ∧ ∀ reply, IsReply text reply →
      message = reply.errorMessage.getD "response carried no accessToken" := by
  obtain ⟨message, rfl⟩ : ∃ message, e = .authentication message := by
    unfold ofAnswer at h
    split at h
    · exact ⟨_, (Except.error.inj h).symm⟩
    · split at h
      · exact ⟨_, (Except.error.inj h).symm⟩
      · exact ⟨_, (ofReply_eq_error_iff.1 h).2⟩
  refine ⟨message, rfl, fun reply hreply ↦ ?_⟩
  have hwords := (ofReply_eq_error_iff.1 (ofAnswer_of_isReply hreply ▸ h)).2
  exact Error.authentication.inj hwords

/-! ### Answers -/

/-- What comes of an answer to a login or a refresh. -/
structure Judged (answer : Except Error String) (r : Except Error AccessToken) : Prop where
  /-- A request without a reply fails as it is. -/
  failed : ∀ e, answer = .error e → r = .error e
  /-- The token is the one that the reply grants. -/
  granted : ∀ text token, answer = .ok text →
    (r = .ok token ↔ ∃ reply, IsReply text reply ∧ reply.Grants token)
  /-- There is a token exactly if the text is a reply whose access token is not empty. -/
  grants : ∀ text, answer = .ok text → ((∃ token, r = .ok token) ↔
    ∃ reply s, IsReply text reply ∧ reply.accessToken = some s ∧ s ≠ "")
  /-- A refusal is an authentication error. Where the text is a reply, it is in the words of the
  service, if it has said any. -/
  refused : ∀ text e, answer = .ok text → r = .error e → ∃ message, e = .authentication message ∧
    ∀ reply, IsReply text reply →
      message = reply.errorMessage.getD "response carried no accessToken"
  /-- Of a text that can be read, only the body counts: what comes of it comes of every text with
  the same body. -/
  body : ∀ text response, answer = .ok text → Response.parse .auth text = .ok response →
    ∀ text' response', Response.parse .auth text' = .ok response' →
      response'.body = response.body → ofReceived (.ok text') = r

theorem judged_ofReceived (answer : Except Error String) : Judged answer (ofReceived answer) := by
  rcases answer with e | text
  · exact
      { failed := fun _ h ↦ congrArg Except.error (Except.error.inj h)
        granted := by rintro _ _ ⟨⟩
        grants := by rintro _ ⟨⟩
        refused := by rintro _ _ ⟨⟩
        body := by rintro _ _ ⟨⟩ }
  · have hgranted (token : AccessToken) : ofReceived (.ok text) = .ok token ↔
        ∃ reply, IsReply text reply ∧ reply.Grants token := ofAnswer_eq_ok_iff
    refine ⟨by rintro _ ⟨⟩, ?_, ?_, ?_, ?_⟩
    · rintro _ token ⟨⟩
      exact hgranted token
    · rintro _ ⟨⟩
      constructor
      · rintro ⟨token, htoken⟩
        obtain ⟨reply, hreply, grants⟩ := (hgranted token).1 htoken
        exact ⟨reply, token.accessToken, hreply, grants.accessToken, grants.ne⟩
      · rintro ⟨reply, s, hreply, hgiven, hne⟩
        obtain ⟨token, grants⟩ := exists_grants_iff.2 ⟨s, hgiven, hne⟩
        exact ⟨token, (hgranted token).2 ⟨reply, hreply, grants⟩⟩
    · rintro _ e ⟨⟩ he
      exact exists_of_ofAnswer_eq_error he
    · rintro _ response ⟨⟩ hparse text' response' hparse' hsame
      calc ofReceived (.ok text')
        _ = ofBody response'.body := ofAnswer_of_parse hparse'
        _ = ofBody response.body := by rw [hsame]
        _ = ofReceived (.ok text) := (ofAnswer_of_parse hparse).symm

end AccessToken

/-! ### A grant and a refusal -/

namespace Rehearsal

theorem parse_success (step : Step) {s t : List Char} {v : Json}
    (json : Json.parseChars (Text.trim (s ++ t)) = .ok v) :
    Response.parse step (success (String.ofList s ++ String.ofList t)) =
      .ok ⟨["HTTP/1.1 200 OK"], v⟩ := by
  let line : List Char := "HTTP/1.1 200 OK".toList
  have hlines : Response.headerLines line = [line] := by decide +kernel
  have hsplit : Response.splitHead (success (String.ofList s ++ String.ofList t)).toList =
      some (line, s ++ t) := by
    rw [toList_success]
    rfl
  have hinterim : Response.isInterim (Response.headerLines line) = false := by decide +kernel
  have hfinal := Response.final_of_last hsplit fun h ↦ by rw [hinterim] at h; cases h
  rw [hlines] at hfinal
  exact Response.parse_eq_ok_iff.2 ⟨_, _, v, hfinal, json, rfl⟩

/-- A grant, as an object with an unknown field. -/
def grantText : String :=
  success ("\x7b\"refreshToken\":\"r\",\"accessToken\":\"a\",\"note\":[]," ++
    "\"errorMessage\":null,\"accessExpirationTime\":\"1970-01-01T00:00:10Z\"\x7d")

def grantReply : TokenReply :=
  { accessToken := some "a"
    accessExpirationTime := some (.str "1970-01-01T00:00:10Z")
    refreshToken := some "r" }

/-- A refusal, as an array. -/
def refusalText : String := success ("[null,\"\",null,null,null," ++ "\"no such user\"]")

def refusalReply : TokenReply := { accessToken := some "", errorMessage := some "no such user" }

theorem isReply_grant : AccessToken.IsReply grantText grantReply := by
  let fields : List (String × Json) :=
    [("accessExpirationTime", .str "1970-01-01T00:00:10Z"), ("accessToken", .str "a"),
      ("errorMessage", .null), ("note", .arr []), ("refreshToken", .str "r")]
  have hparse : Response.parse .auth grantText = .ok ⟨["HTTP/1.1 200 OK"], .obj fields⟩ :=
    parse_success .auth rfl
  refine ⟨_, hparse, ?_⟩
  constructor <;> simp [Json.IsRecord, Json.Says, Json.hasAt_obj_iff, grantReply, fields]

theorem isReply_refusal : AccessToken.IsReply refusalText refusalReply := by
  let items : List Json := [.null, .str "", .null, .null, .null, .str "no such user"]
  have hparse : Response.parse .auth refusalText = .ok ⟨["HTTP/1.1 200 OK"], .arr items⟩ :=
    parse_success .auth rfl
  refine ⟨_, hparse, ?_⟩
  constructor <;> simp [Json.IsRecord, Json.Says, Json.hasAt_arr_iff, refusalReply, items]

end Rehearsal

/-! ### Logins and refreshes -/

/-- The two ways to ask for a token. -/
inductive TokenCall where
  | login
  | refresh (refreshToken : String)

namespace TokenCall

/-- What is sent. -/
def request (cfg : Config) : TokenCall → Request
  | login => cfg.loginRequest
  | refresh refreshToken => cfg.refreshRequest refreshToken

/-- Asking for a token. -/
def obtain (ctx : Context σ) : TokenCall → Action σ AccessToken
  | login => ctx.login
  | refresh refreshToken => ctx.refresh refreshToken

end TokenCall

/-- **Grants and refusals.** Whatever the world answers to a login or a refresh, one request is sent
and its answer is judged as `AccessToken.Judged` says: a failure of the sender is passed on as it
is, a text that is a reply with a non-empty access token grants the token that the reply describes,
and everything else is an authentication error, in the words of the service if it has said any. A
text is a reply if the fields of its body are those of a reply, by their names in an object and by
their positions in an array. Of a text that can be read, neither status line nor headers count. -/
theorem Context.judged_of_obtain (ctx : Context σ) (call : TokenCall) (x : Exchange σ) :
    ∃ answer r y, (ctx.world.execute (call.request ctx.config) x.world).1 = answer ∧
      (call.obtain ctx).attempt x = .ok r y ∧
      y.sent = x.sent ++ [.execute (call.request ctx.config)] ∧ AccessToken.Judged answer r := by
  have hobtain : call.obtain ctx = ctx.requestToken (call.request ctx.config) := by
    cases call <;> rfl
  obtain ⟨answer, y, hgives, -⟩ := ctx.exists_gives_requestToken (call.request ctx.config) x
  obtain ⟨w, hreacts, -⟩ := hgives.answers
  have hworld : ctx.world.execute (call.request ctx.config) x.world = (answer, w) := hreacts
  exact ⟨answer, _, y, congrArg Prod.fst hworld, hobtain ▸ hgives.outcome, hgives.sent,
    AccessToken.judged_ofReceived answer⟩

/-- Of two replies, the one grants a token and the other refuses it in its own words. -/
theorem Context.judged_of_replies :
    let ctx := ({} : Config).playing
    ∃ y z, (TokenCall.login.obtain ctx).attempt (.start ⟨[.text Rehearsal.grantText], none⟩) =
        .ok (.ok ⟨"a", some ⟨10, 0⟩, some "r"⟩) y ∧
      ((TokenCall.refresh "r").obtain ctx).attempt (.start ⟨[.text Rehearsal.refusalText], none⟩) =
        .ok (.error (.authentication "no such user")) z := by
  intro ctx
  obtain ⟨_, r, y, rfl, hrun, -, judged⟩ :=
    ctx.judged_of_obtain .login (.start ⟨[.text Rehearsal.grantText], none⟩)
  obtain ⟨_, r', z, rfl, hrun', -, judged'⟩ :=
    ctx.judged_of_obtain (.refresh "r") (.start ⟨[.text Rehearsal.refusalText], none⟩)
  have hgrants : Rehearsal.grantReply.Grants ⟨"a", some ⟨10, 0⟩, some "r"⟩ :=
    AccessToken.ofReply_eq_ok_iff.1 (by decide +kernel)
  have hgranted : r = .ok ⟨"a", some ⟨10, 0⟩, some "r"⟩ :=
    (judged.granted _ _ rfl).2 ⟨_, Rehearsal.isReply_grant, hgrants⟩
  have hrefused : r' = .error (.authentication "no such user") := by
    rcases r' with e | token
    · obtain ⟨message, rfl, hwords⟩ := judged'.refused _ e rfl rfl
      rw [hwords _ Rehearsal.isReply_refusal]
      rfl
    · obtain ⟨reply, hreply, grants⟩ := (judged'.granted _ token rfl).1 rfl
      obtain rfl := hreply.unique Rehearsal.isReply_refusal
      exact absurd (Option.some.inj grants.accessToken).symm grants.ne
  exact ⟨y, z, hgranted ▸ hrun, hrefused ▸ hrun'⟩

end TransactionHarness
