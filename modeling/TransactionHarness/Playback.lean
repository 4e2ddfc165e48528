import TransactionHarness.Exchange
/-!
# Worlds that play back replies

A `Playback` answers requests from a list of replies, in order. It may have a reply of its own for
logins, which are the requests to one address; that reply is not used up.
-/

namespace TransactionHarness

/-- A reply to play back. -/
inductive Reply where
  /-- The text of a response. -/
  | text (s : String)
  /-- The outcome of a download. -/
  | kept (outcome : DownloadOutcome)
  /-- The request gets no reply, for the given reason. -/
  | fail (reason : String)
  deriving DecidableEq, Repr, Inhabited

/-- Replies to play back. -/
structure Playback where
  replies : List Reply
  /-- What the requests to this address are answered with. -/
  login? : Option (String × Reply) := none
  deriving DecidableEq, Repr, Inhabited

namespace Playback

/-- The reply to a request for a text. -/
def textOf : Reply → Except Error String
  | .text s => .ok s
  | .kept _ => .error (.transport "script mismatch")
  | .fail reason => .error (.transport reason)

/-- The reply to a download. -/
def outcomeOf : Reply → Except Error DownloadOutcome
  | .text _ => .error (.transport "script mismatch")
  | .kept outcome => .ok outcome
  | .fail reason => .error (.transport reason)

/-- Uses up the next reply. -/
def next {α : Type} (read : Reply → Except Error α) (p : Playback) : Except Error α × Playback :=
  match p.replies with
  | [] => (.error (.transport "script exhausted"), p)
  | reply :: rest => (read reply, { p with replies := rest })

/-- Answers a request. -/
def execute (request : Request) (p : Playback) : Except Error String × Playback :=
  match p.login? with
  | some (url, reply) => if request.url = url then (textOf reply, p) else p.next textOf
  | none => p.next textOf

/-- Answers a download. -/
def download (_ : Request) (_ : String) (p : Playback) : Except Error DownloadOutcome × Playback :=
  p.next outcomeOf

/-- The world that plays back replies and whose clock stands still. -/
def world (now : Instant) : World Playback :=
  { execute, download, now := fun p ↦ (now, p) }

end Playback

end TransactionHarness
