import TransactionHarness.Curl.Machine
/-!
# Programs that play back what curl did

A `Recording` is a program that remembers the words it is started with and does what was recorded,
one thing each time. After the last one it fails as curl does when it cannot connect.
-/

namespace TransactionHarness.Curl

/-- What is left to play back, and what the program was started with. -/
structure Recording where
  replies : List Completed
  calls : List (List String) := []
  deriving DecidableEq, Repr, Inhabited

namespace Recording

/-- What curl does when it cannot connect. -/
def exhausted : Completed := { ending := .exited 7 }

/-- Plays back the next thing. -/
def program : Program Recording := fun words r ↦
  let calls := r.calls ++ [words]
  match r.replies with
  | [] => (.ok exhausted, { r with calls })
  | reply :: rest => (.ok reply, { replies := rest, calls })

/-- A program that cannot be started. -/
def missing (reason : String) : Program Recording := fun _ r ↦ (.error reason, r)

end Recording

end TransactionHarness.Curl
