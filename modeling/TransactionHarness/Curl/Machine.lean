import TransactionHarness.Curl.Request
import TransactionHarness.Disk
import TransactionHarness.Exchange
import TransactionHarness.Text.Blank
import TransactionHarness.Text.Utf8
/-!
# Machines that run curl

A `Program` is whatever is started under the name of curl: it is given words, and it either cannot
be started or comes to an end, having shown something and perhaps having written a file. Nothing is
assumed about what it does. A `Machine` is the state of such a program and a disk, and `Curl.world`
is the world in which every request is sent by starting the program.

A program that fails has lost the request. What it wrote before that stays on the disk; only a
status that it reports, and that is no success, makes a download go away again.
-/

namespace TransactionHarness.Curl

/-- How a program came to its end. -/
inductive Ending where
  | exited (status : Nat)
  /-- It was ended by the system. -/
  | killed
  deriving DecidableEq, Repr, Inhabited

/-- How an ending is told. -/
def Ending.display : Ending → String
  | exited status => "exit status: " ++ toString status
  | killed => "signal: 9 (SIGKILL)"

/-- What a program has done. -/
structure Completed where
  ending : Ending := .exited 0
  /-- What it has shown. -/
  shown : List UInt8 := []
  /-- What it has complained about. -/
  complaint : List UInt8 := []
  /-- What it has written, if it was given a place to write to. -/
  written? : Option (List UInt8) := none
  deriving DecidableEq, Repr, Inhabited

/-- A program that is given words: what it does, or why it cannot be started. -/
abbrev Program (σ : Type) : Type := List String → σ → Except String Completed × σ

/-- The state of a program, and a disk. -/
structure Machine (σ : Type) where
  program : σ
  disk : Disk := {}

namespace Machine

variable {σ : Type}

/-- Starts a program. No word can contain a NUL. -/
def start (program : Program σ) (words : List String) (m : Machine σ) :
    Except String Completed × Machine σ :=
  if words.any fun word ↦ word.toList.contains '\x00' then
    (.error "nul byte found in provided data", m)
  else
    match program words m.program with
    | (result, state) => (result, { m with program := state })

/-- Puts what a program has written where it was to be kept. -/
def keep (place? : Option String) (written? : Option (List UInt8)) (m : Machine σ) : Machine σ :=
  match place?, written? with
  | some place, some content => { m with disk := m.disk.write place content }
  | _, _ => m

/-- What a program has shown, provided that it came to a good end. -/
def shownBy (c : Completed) : Except Error (List UInt8) :=
  if c.ending = .exited 0 then .ok c.shown
  else
    let complaint := Text.trim (Text.Utf8.decodeLossy c.complaint)
    .error (.transport
      ("curl exited with " ++ c.ending.display ++ ": " ++ String.ofList complaint))

/-- Runs a program and gives what it has shown. -/
def run (program : Program σ) (words : List String) (place? : Option String) (m : Machine σ) :
    Except Error (List UInt8) × Machine σ :=
  match start program words m with
  | (.error reason, m) => (.error (.transport ("Failed to execute curl: " ++ reason)), m)
  | (.ok c, m) => (shownBy c, m.keep place? c.written?)

/-- Has curl send a request. -/
def execute (program : Program σ) (timeout : Span) (r : Request) (m : Machine σ) :
    Except Error String × Machine σ :=
  match Invocation.ofRequest timeout r with
  | .error e => (.error e, m)
  | .ok invocation =>
    match run program invocation.arguments none m with
    | (.ok shown, m) => (.ok (String.ofList (Text.Utf8.decodeLossy shown)), m)
    | (.error e, m) => (.error e, m)

/-- The status that curl has shown. -/
def status? (shown : List UInt8) : Option Nat :=
  Text.readUnsigned? Text.max16 (Text.trim (Text.Utf8.decodeLossy shown))

/-- What came of a download with a status. Without success nothing is kept. -/
def settle (status : Nat) (place : String) (m : Machine σ) :
    Except Error DownloadOutcome × Machine σ :=
  if (DownloadOutcome.mk status 0).isSuccess then
    match m.disk.content place with
    | .ok content => (.ok ⟨status, content.length⟩, m)
    | .error reason => (.error (.io reason), m)
  else (.ok ⟨status, 0⟩, { m with disk := m.disk.remove place })

/-- Has curl download a file. The directory is made before curl is started. -/
def download (program : Program σ) (timeout : Span) (r : Request) (place : String) (m : Machine σ) :
    Except Error DownloadOutcome × Machine σ :=
  match Disk.directoryFault? place with
  | some reason => (.error (.io reason), m)
  | none =>
    match run program (Invocation.ofDownload timeout r place).arguments (some place) m with
    | (.error e, m) => (.error e, m)
    | (.ok shown, m) =>
      match status? shown with
      | some status => settle status place m
      | none =>
        (.error (.transport ("curl did not report an HTTP status for '" ++ r.url ++ "'")), m)

end Machine

/-- The world in which every request is sent by a program, and whose clock stands still. -/
def world {σ : Type} (program : Program σ) (timeout : Span) (now : Instant) : World (Machine σ) :=
  { execute := Machine.execute program timeout
    download := Machine.download program timeout
    now := fun m ↦ (now, m) }

end TransactionHarness.Curl
