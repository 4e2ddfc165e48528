import TransactionHarness.Token.Provider
/-!
# Histories

A run asks the world around it for replies, for downloads and for the time. A history lists what was
asked, in order and together with the answers, and so says more than the log of an exchange, which
has the requests only.

* `World.Answers`: the world, taken through the questions of a history, gives its answers.
* `Context.Gives`: an action started in one exchange ends in another, with an outcome and a history
  that the world has answered and whose requests are what the log has grown by.

Two shape decisions. A history is found and not assumed: every action built from the ones below has
one, whatever the world is (`Gives.bind_ok`, `Gives.bind_error`, `exists_gives_execute`). And it can
be written down: a world that keeps a journal of what it is asked answers as the world inside it
does, and has the history in its journal in the end (`Answers.journaled`).
-/

namespace TransactionHarness

variable {σ α β : Type}

/-- Something that a run asks of the world, with the answer. -/
inductive Event where
  /-- A request was sent. -/
  | answered (request : Request) (answer : Except Error String)
  /-- A request was sent whose reply was to be kept at `place`. -/
  | fetched (request : Request) (place : String) (answer : Except Error DownloadOutcome)
  /-- The clock was read. -/
  | clock (now : Instant)

namespace Event

/-- What an event adds to the log of an exchange. -/
def sent? : Event → Option Sent
  | answered request _ => some (.execute request)
  | fetched request place _ => some (.download request place)
  | clock _ => none

/-- The request of an event. -/
def request? : Event → Option Request
  | answered request _ => some request
  | fetched request _ _ => some request
  | clock _ => none

theorem map_request_sent? (e : Event) : e.sent?.map Sent.request = e.request? := by
  cases e <;> rfl

end Event

/-- The requests of a history, as an exchange logs them. -/
def sentIn (h : List Event) : List Sent := h.filterMap Event.sent?

@[simp] theorem sentIn_nil : sentIn [] = [] := rfl

@[simp] theorem sentIn_append (h h' : List Event) : sentIn (h ++ h') = sentIn h ++ sentIn h' :=
  List.filterMap_append

namespace World

variable (world : World σ)

/-- The world goes from one state to another over an event. -/
def Reacts (s t : σ) : Event → Prop
  | .answered request answer => world.execute request s = (answer, t)
  | .fetched request place answer => world.download request place s = (answer, t)
  | .clock now => world.now s = (now, t)

/-- The world goes from one state to another over a history. -/
def Answers : σ → List Event → σ → Prop
  | s, [], t => t = s
  | s, e :: h, t => ∃ u, world.Reacts s u e ∧ Answers u h t

theorem answers_singleton {s t : σ} {e : Event} (h : world.Reacts s t e) :
    world.Answers s [e] t :=
  ⟨t, h, rfl⟩

variable {world}

theorem answers_append_iff {s u : σ} {h h' : List Event} :
    world.Answers s (h ++ h') u ↔ ∃ t, world.Answers s h t ∧ world.Answers t h' u := by
  induction h generalizing s with
  | nil =>
    constructor
    · intro hrest
      exact ⟨s, rfl, hrest⟩
    · rintro ⟨t, hnone, hrest⟩
      exact (show t = s from hnone) ▸ hrest
  | cons e h ih =>
    constructor
    · rintro ⟨v, hv, htail⟩
      obtain ⟨t, hfirst, hrest⟩ := ih.1 htail
      exact ⟨t, ⟨v, hv, hfirst⟩, hrest⟩
    · rintro ⟨t, ⟨v, hv, hfirst⟩, hrest⟩
      exact ⟨v, hv, ih.2 ⟨t, hfirst, hrest⟩⟩

theorem Answers.append {s t u : σ} {h h' : List Event} (first : world.Answers s h t)
    (rest : world.Answers t h' u) : world.Answers s (h ++ h') u :=
  answers_append_iff.2 ⟨t, first, rest⟩

/-! ### Journals -/

/-- The world that answers as the given one does and writes down what it is asked. -/
def journaled (world : World σ) : World (σ × List Event) where
  execute request := fun (s, journal) ↦
    let (answer, t) := world.execute request s
    (answer, t, journal ++ [.answered request answer])
  download request place := fun (s, journal) ↦
    let (answer, t) := world.download request place s
    (answer, t, journal ++ [.fetched request place answer])
  now := fun (s, journal) ↦
    let (now, t) := world.now s
    (now, t, journal ++ [.clock now])

theorem journal_of_reacts {s t : σ} {journal journal' : List Event} {e : Event}
    (h : world.journaled.Reacts (s, journal) (t, journal') e) :
    world.Reacts s t e ∧ journal' = journal ++ [e] := by
  cases e <;> simp only [Reacts, journaled, Prod.mk.injEq] at h
  all_goals
    obtain ⟨hanswer, hstate, hjournal⟩ := h
    exact ⟨Prod.ext hanswer hstate, by rw [← hjournal, hanswer]⟩

theorem reacts_journaled {s t : σ} {e : Event} (h : world.Reacts s t e) (journal : List Event) :
    world.journaled.Reacts (s, journal) (t, journal ++ [e]) e := by
  cases e <;> simp only [Reacts] at h <;> simp [Reacts, journaled, h]

/-- A journaled world gives the answers of the world inside it. -/
theorem Answers.journaled {h : List Event} {s t : σ} (answers : world.Answers s h t)
    (journal : List Event) : world.journaled.Answers (s, journal) h (t, journal ++ h) := by
  induction h generalizing s journal with
  | nil =>
    have hsame : t = s := answers
    rw [hsame, List.append_nil]
    rfl
  | cons e h ih =>
    obtain ⟨u, hreacts, hrest⟩ := answers
    have htail := ih hrest (journal ++ [e])
    rw [List.append_assoc, List.singleton_append] at htail
    exact ⟨_, reacts_journaled hreacts journal, htail⟩

end World

/-! ### Actions -/

namespace Action

/-- Two outcomes behind each other are two actions behind each other. -/
theorem of_bind (r : Except Error α) (k : α → Except Error β) :
    (of (r >>= k) : Action σ β) = of r >>= fun a ↦ of (k a) := by
  cases r <;> rfl

theorem bind_of_ok {act : Action σ α} {x y : Exchange σ} {a : α} (h : act x = .ok a y)
    (f : α → Action σ β) : (act >>= f) x = f a y := by
  show EStateM.bind act f x = f a y
  rw [EStateM.bind, h]

theorem bind_of_error {act : Action σ α} {x y : Exchange σ} {e : Error} (h : act x = .error e y)
    (f : α → Action σ β) : (act >>= f) x = .error e y := by
  show EStateM.bind act f x = .error e y
  rw [EStateM.bind, h]

theorem attempt_eq_ok_iff {act : Action σ α} {x y : Exchange σ} {a : α} :
    act.attempt x = .ok (.ok a) y ↔ act x = .ok a y := by
  unfold attempt
  cases act x <;> simp

theorem attempt_eq_error_iff {act : Action σ α} {x y : Exchange σ} {e : Error} :
    act.attempt x = .ok (.error e) y ↔ act x = .error e y := by
  unfold attempt
  cases act x <;> simp

end Action

namespace Context

variable (ctx : Context σ)

/-- Started in `x`, the action ends in `y` with the outcome `r`, and `h` is what it asked of the
world meanwhile. -/
structure Gives (act : Action σ α) (x : Exchange σ) (h : List Event) (r : Except Error α)
    (y : Exchange σ) : Prop where
  outcome : act.attempt x = .ok r y
  answers : ctx.world.Answers x.world h y.world
  sent : y.sent = x.sent ++ sentIn h

variable {ctx}

namespace Gives

variable {act : Action σ α} {f : α → Action σ β} {x y z : Exchange σ} {h t : List Event}

theorem apply_eq_ok {a : α} (g : ctx.Gives act x h (.ok a) y) : act x = .ok a y :=
  Action.attempt_eq_ok_iff.1 g.outcome

theorem apply_eq_error {e : Error} (g : ctx.Gives act x h (.error e) y) : act x = .error e y :=
  Action.attempt_eq_error_iff.1 g.outcome

/-- The outcome of an action is the one it gives. -/
theorem outcome_eq {r r' : Except Error α} {y' : Exchange σ} (g : ctx.Gives act x h r y)
    (g' : act.attempt x = .ok r' y') : r' = r ∧ y' = y := by
  have := g.outcome.symm.trans g'
  simp only [EStateM.Result.ok.injEq] at this
  exact ⟨this.1.symm, this.2.symm⟩

/-- An action that asks for nothing. -/
theorem of_outcome {r : Except Error α} (outcome : act.attempt x = .ok r y)
    (world : y.world = x.world) (sent : y.sent = x.sent) : ctx.Gives act x [] r y :=
  ⟨outcome, world, by simp [sent]⟩

theorem pure (a : α) (x : Exchange σ) : ctx.Gives (Pure.pure a) x [] (.ok a) x :=
  of_outcome rfl rfl rfl

theorem of (r : Except Error α) (x : Exchange σ) : ctx.Gives (Action.of r) x [] r x := by
  cases r <;> exact of_outcome rfl rfl rfl

theorem of_eq {r r' : Except Error α} (h : r = r') (x : Exchange σ) :
    ctx.Gives (Action.of r) x [] r' x :=
  h ▸ of r x

theorem takeToken (x : Exchange σ) :
    ctx.Gives Action.takeToken x [] (.ok x.token?) { x with token? := none } :=
  of_outcome rfl rfl rfl

theorem keepToken (token : AccessToken) (x : Exchange σ) :
    ctx.Gives (Action.keepToken token) x [] (.ok ()) { x with token? := some token } :=
  of_outcome rfl rfl rfl

/-- An action that succeeds goes on with the next one, whose history is put behind. -/
theorem bind_ok {a : α} {r : Except Error β} (g : ctx.Gives act x h (.ok a) y)
    (g' : ctx.Gives (f a) y t r z) : ctx.Gives (act >>= f) x (h ++ t) r z where
  outcome := by
    rw [Action.attempt, Action.bind_of_ok g.apply_eq_ok]
    exact g'.outcome
  answers := g.answers.append g'.answers
  sent := by rw [g'.sent, g.sent, sentIn_append, List.append_assoc]

/-- An action that fails is the end. -/
theorem bind_error {e : Error} (g : ctx.Gives act x h (.error e) y) :
    ctx.Gives (act >>= f) x h (.error e) y where
  outcome := Action.attempt_eq_error_iff.2 (Action.bind_of_error g.apply_eq_error f)
  answers := g.answers
  sent := g.sent

/-- What follows an action, if it asks for nothing, only changes the outcome. -/
theorem bind_of {r : Except Error α} (k : α → Except Error β) (g : ctx.Gives act x h r y) :
    ctx.Gives (act >>= fun a ↦ Action.of (k a)) x h (r >>= k) y := by
  cases r with
  | error e => exact g.bind_error
  | ok a =>
    have hgives := g.bind_ok (f := fun a ↦ Action.of (k a)) (of (k a) y)
    rwa [List.append_nil] at hgives

theorem attempt {r : Except Error α} (g : ctx.Gives act x h r y) :
    ctx.Gives act.attempt x h (.ok r) y where
  outcome := Action.attempt_eq_ok_iff.2 g.outcome
  answers := g.answers
  sent := g.sent

end Gives

/-! ### Asking the world -/

theorem exists_gives_execute (ctx : Context σ) (request : Request) (x : Exchange σ) :
    ∃ answer y, ctx.Gives (ctx.execute request) x [.answered request answer] answer y ∧
      y.token? = x.token? := by
  -- whether the answer is an error or not, the request is in the log and the world has moved
  rcases hworld : ctx.world.execute request x.world with ⟨answer, w⟩
  refine ⟨answer, { x with world := w, sent := x.sent ++ [.execute request] }, ⟨?_, ?_, rfl⟩, rfl⟩
  · cases answer <;> simp [Action.attempt, execute, hworld]
  · exact World.answers_singleton _ hworld

theorem exists_gives_download (ctx : Context σ) (request : Request) (place : String)
    (x : Exchange σ) :
    ∃ answer y, ctx.Gives (ctx.download request place) x [.fetched request place answer] answer y ∧
      y.token? = x.token? := by
  rcases hworld : ctx.world.download request place x.world with ⟨answer, w⟩
  refine ⟨answer, { x with world := w, sent := x.sent ++ [.download request place] },
    ⟨?_, ?_, rfl⟩, rfl⟩
  · cases answer <;> simp [Action.attempt, download, hworld]
  · exact World.answers_singleton _ hworld

theorem exists_gives_now (ctx : Context σ) (x : Exchange σ) :
    ∃ now y, ctx.Gives ctx.now x [.clock now] (.ok now) y ∧ y.token? = x.token? := by
  rcases hworld : ctx.world.now x.world with ⟨now, w⟩
  refine ⟨now, { x with world := w }, ⟨?_, ?_, (List.append_nil _).symm⟩, rfl⟩
  · simp [Action.attempt, Context.now, hworld]
  · exact World.answers_singleton _ hworld

end Context

end TransactionHarness
