import TransactionHarness.Http.Site
/-!
# Servers that play back reactions

A `Recording` is a server that remembers the messages it gets and reacts as was recorded, once for
each of them. After the last one it refuses connections.
-/

namespace TransactionHarness.Http

/-- What is left to play back, and the messages that came. -/
structure Recording where
  reactions : List Reaction
  messages : List Message := []
  deriving Inhabited

/-- Plays back the next reaction. -/
def Recording.server : Server Recording := fun message r ↦
  let messages := r.messages ++ [message]
  match r.reactions with
  | [] => (.refused "nothing is left to play back", { r with messages })
  | reaction :: rest => (reaction, { reactions := rest, messages })

end TransactionHarness.Http
