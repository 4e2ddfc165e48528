import TransactionHarness.Config.Basic
import TransactionHarness.Request
import TransactionHarness.Token.Basic
/-!
# Exchanges with the service

A run talks to its surroundings through a `World`: something that answers requests, keeps downloads,
and has a clock. What it answers may depend on everything that was asked before, so its operations
work on a state of any type. Nothing is assumed about the answers.

An `Action` is a piece of a run. It works on an `Exchange`: the state of the world, the requests
sent so far, and the token kept from one request to the next. An action that fails leaves the
exchange as it is at that point, with the requests that were sent.
-/

namespace TransactionHarness

/-- What surrounds a run. -/
structure World (σ : Type) where
  /-- Sends a request and gives the text of the response. -/
  execute : Request → σ → Except Error String × σ
  /-- Sends a request and keeps the body of the response at a place. -/
  download : Request → String → σ → Except Error DownloadOutcome × σ
  /-- Reads the clock. -/
  now : σ → Instant × σ

/-- A request that was sent. -/
inductive Sent where
  | execute (request : Request)
  /-- The body was to be kept at `place`. -/
  | download (request : Request) (place : String)
  deriving Inhabited

/-- The request itself. -/
def Sent.request : Sent → Request
  | execute r => r
  | download r _ => r

/-- How far a run and the world around it have come. -/
structure Exchange (σ : Type) where
  world : σ
  /-- The requests sent so far, in order. -/
  sent : List Sent := []
  /-- The token that the next request may use. -/
  token? : Option AccessToken := none

/-- A piece of a run. -/
abbrev Action (σ : Type) : Type → Type := EStateM Error (Exchange σ)

namespace Action

variable {σ α : Type}

/-- A value or an error as an action that does nothing. -/
def of : Except Error α → Action σ α
  | .ok a => pure a
  | .error e => throw e

/-- The outcome of an action, be it a value or an error. What the action did stays done. -/
def attempt (act : Action σ α) : Action σ (Except Error α) := fun x ↦
  match act x with
  | .ok a y => .ok (.ok a) y
  | .error e y => .ok (.error e) y

/-- Takes the token that was kept, so that nothing is kept any more. -/
def takeToken : Action σ (Option AccessToken) := fun x ↦ .ok x.token? { x with token? := none }

/-- Keeps a token for the next request. -/
def keepToken (token : AccessToken) : Action σ Unit := fun x ↦
  .ok () { x with token? := some token }

end Action

/-- The settings of a run and the world around it. -/
structure Context (σ : Type) where
  config : Config
  world : World σ

namespace Context

variable {σ : Type}

/-- Sends a request. It is written down before the answer is known. -/
def execute (ctx : Context σ) (request : Request) : Action σ String := fun x ↦
  let sent := x.sent ++ [.execute request]
  match ctx.world.execute request x.world with
  | (.ok text, w) => .ok text { x with world := w, sent }
  | (.error e, w) => .error e { x with world := w, sent }

/-- Sends a request whose answer is kept at a place. -/
def download (ctx : Context σ) (request : Request) (place : String) : Action σ DownloadOutcome :=
  fun x ↦
    let sent := x.sent ++ [.download request place]
    match ctx.world.download request place x.world with
    | (.ok outcome, w) => .ok outcome { x with world := w, sent }
    | (.error e, w) => .error e { x with world := w, sent }

/-- Reads the clock. -/
def now (ctx : Context σ) : Action σ Instant := fun x ↦
  let (t, w) := ctx.world.now x.world
  .ok t { x with world := w }

end Context

end TransactionHarness
