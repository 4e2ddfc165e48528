import TransactionHarness.Exchange
import TransactionHarness.Response
/-!
# Obtaining tokens

A token is obtained by a login, or by handing in the refresh token of an earlier one. Whatever is
wrong with the answer is an authentication error; only a request without an answer fails as it is.

`ensureToken` obtains the token for the next request as the policy says. It takes the kept token out
of the exchange before it sends anything and puts one back only when it succeeds.
-/

namespace TransactionHarness

/-- The token in the text of an answer to a login or a refresh. -/
def AccessToken.ofAnswer (text : String) : Except Error AccessToken :=
  match Response.parse .auth text with
  | .error e => .error (.authentication ("unreadable auth response: " ++ e.message))
  | .ok response =>
    match TokenReply.ofJson response.body with
    | .error misfit => .error (.authentication ("unexpected auth response: " ++ misfit.message))
    | .ok reply => AccessToken.ofReply reply

/-- The request that logs in. -/
def Config.loginRequest (cfg : Config) : Request :=
  (Request.post (cfg.endpoint "/auth")).withForm
    [("uid", cfg.credentials.uid), ("pw", cfg.credentials.pw)]

/-- The request that hands in a refresh token. -/
def Config.refreshRequest (cfg : Config) (refreshToken : String) : Request :=
  (Request.post (cfg.endpoint "/refresh")).withForm [("rt", refreshToken)]

namespace Context

variable {σ : Type}

/-- Sends a request for a token. -/
def requestToken (ctx : Context σ) (request : Request) : Action σ AccessToken := do
  let text ← ctx.execute request
  Action.of (AccessToken.ofAnswer text)

/-- Logs in. -/
def login (ctx : Context σ) : Action σ AccessToken := ctx.requestToken ctx.config.loginRequest

/-- Hands in a refresh token. -/
def refresh (ctx : Context σ) (refreshToken : String) : Action σ AccessToken :=
  ctx.requestToken (ctx.config.refreshRequest refreshToken)

/-- Replaces a token that has to be renewed: by a refresh if it can be refreshed, and by a login if
it cannot or if the refresh fails. -/
def renew (ctx : Context σ) (token : AccessToken) : Action σ AccessToken :=
  match token.refreshToken? with
  | none => ctx.login
  | some refreshToken => do
    match ← Action.attempt (ctx.refresh refreshToken) with
    | .ok fresh => return fresh
    | .error _ => ctx.login

/-- The token for the next request when tokens are kept: the kept one if there is one and it need
not be renewed. The clock is read only if there is one. -/
def keptOrFreshToken (ctx : Context σ) (margin : Span) : Action σ AccessToken := do
  match ← Action.takeToken with
  | none => ctx.login
  | some token =>
    let now ← ctx.now
    if token.needsRenewal now margin then ctx.renew token else return token

/-- The token for the next request, as the policy says. -/
def nextToken (ctx : Context σ) : Action σ AccessToken :=
  match ctx.config.tokenPolicy with
  | .perStep => ctx.login
  | .cached margin => ctx.keptOrFreshToken margin

/-- Obtains the token for the next request, keeps it, and gives its text. -/
def ensureToken (ctx : Context σ) : Action σ String := do
  let token ← ctx.nextToken
  Action.keepToken token
  return token.accessToken

end Context

end TransactionHarness
