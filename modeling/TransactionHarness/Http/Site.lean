import TransactionHarness.Exchange
import TransactionHarness.Http.Body
import TransactionHarness.Http.Message
/-!
# Sites reached over HTTP

A `Server` reacts to messages in whatever way it likes; nothing is assumed about it. A `Site` is the
state of a server and the disk on this side, and `Http.world` is the world in which every request is
sent to the server in one message.

Here a download is written only after all of its body has arrived with a status of success, so a
failed one leaves the disk alone.
-/

namespace TransactionHarness.Http

/-- What a server does with a message. -/
inductive Reaction where
  /-- There is no connection, for the given reason. -/
  | refused (reason : String)
  /-- Nothing comes back until the time is over. -/
  | silent
  | answered (bytes : List UInt8)
  deriving DecidableEq, Repr, Inhabited

/-- Something that reacts to messages. -/
abbrev Server (σ : Type) : Type := Message → σ → Reaction × σ

/-- The state of a server, and a disk. -/
structure Site (σ : Type) where
  server : σ
  disk : Disk := {}

namespace Site

variable {σ : Type}

/-- The head of the response, and the bytes behind it. -/
def readReaction (timeout : Span) (r : Request) : Reaction → Except Error (Head × List UInt8)
  | .refused reason =>
    .error (.transport ("Connection failed for '" ++ r.url ++ "': " ++ reason))
  | .silent =>
    .error (.transport
      ("Timeout calling '" ++ r.url ++ "' (exceeded " ++ timeout.display ++ ")"))
  | .answered bytes =>
    match Head.readFinal? bytes with
    | some (head, rest) => if head.framing?.isSome then .ok (head, rest) else .error .network
    | none => .error .network

/-- The body behind a head. -/
def readBody (head : Head) (rest : List UInt8) : Except Error (List UInt8) :=
  match head.framing?.bind fun framing ↦ framing.body? rest with
  | some body => .ok body
  | none => .error .network

/-- Sends a request and waits for the head of the response. -/
def send (server : Server σ) (timeout : Span) (boundary : String) (r : Request) (s : Site σ) :
    Except Error (Head × List UInt8) × Site σ :=
  match Message.ofRequest boundary s.disk r with
  | .error e => (.error e, s)
  | .ok message =>
    match server message s.server with
    | (reaction, state) => (readReaction timeout r reaction, { s with server := state })

/-- Sends a request and gives the response as one text. -/
def execute (server : Server σ) (timeout : Span) (boundary : String) (r : Request) (s : Site σ) :
    Except Error String × Site σ :=
  match send server timeout boundary r s with
  | (.error e, s) => (.error e, s)
  | (.ok (head, rest), s) =>
    match readBody head rest with
    | .ok body => (.ok (head.response (bodyText body)), s)
    | .error e => (.error e, s)

/-- Writes a downloaded body. -/
def keep (status : Nat) (place : String) (body : List UInt8) (s : Site σ) :
    Except Error DownloadOutcome × Site σ :=
  match Disk.directoryFault? place <|> Disk.writeFault? place with
  | some reason => (.error (.io reason), s)
  | none => (.ok ⟨status, body.length⟩, { s with disk := s.disk.write place body })

/-- Sends a request and keeps the body of a successful response. -/
def download (server : Server σ) (timeout : Span) (boundary : String) (r : Request) (place : String)
    (s : Site σ) : Except Error DownloadOutcome × Site σ :=
  match send server timeout boundary r s with
  | (.error e, s) => (.error e, s)
  | (.ok (head, rest), s) =>
    if head.isSuccess then
      match readBody head rest with
      | .ok body => keep head.status place body s
      | .error e => (.error e, s)
    else (.ok ⟨head.status, 0⟩, s)

end Site

/-- The world in which every request is sent to a server, and whose clock stands still. -/
def world {σ : Type} (server : Server σ) (timeout : Span) (boundary : String) (now : Instant) :
    World (Site σ) :=
  { execute := Site.execute server timeout boundary
    download := Site.download server timeout boundary
    now := fun s ↦ (now, s) }

end TransactionHarness.Http
