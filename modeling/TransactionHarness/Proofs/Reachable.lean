import TransactionHarness.Proofs.Advance
import TransactionHarness.Proofs.Replay
/-!
# Reachable runs

A run keeps the same facts in several places: the identifier of the transaction stands in its
state, in its session and in its record, and what the service has answered stands in its record and,
in part, in its session. `Lifecycle.Coherent` says that the places agree. A command that succeeds
keeps them in agreement (`Lifecycle.Coherent.advance`), and the first one brings it about.

* `Context.Reaches`: the runs that commands lead to, one behind the other, with any service.
* `Context.coherent_of_reaches`: such a run is as at the start or coherent; the next identifier is
  never refused, a finished run is always reported, and a command changes only what is its own.

The exchange may be any other one for each command of `Reaches`, so that nothing is assumed about
what happens to the service or to the kept token between two commands.
-/

namespace TransactionHarness

variable {σ : Type}

/-- The state comes after the downloads. -/
def State.pastDownloads : State → Bool
  | downloaded _ | loaded _ | finished _ _ => true
  | _ => false

/-! ### Parts that agree -/

namespace Lifecycle

/-- The parts of a run agree with each other. -/
structure Coherent (l : Lifecycle) : Prop where
  /-- The transaction that was begun gives its identifier and its type. -/
  begun : ∃ transaction, l.record.begun = some transaction ∧
    l.state.id? = some transaction.id ∧ l.session.transactionId? = some transaction.id ∧
    l.type = transaction.type
  paths : l.session.downloadPaths = l.record.dumps.flatMap DumpResult.downloadPaths
  files : l.session.files = l.record.downloads.map Download.localPath
  /-- The downloads are those of all paths, or have yet to come. -/
  downloads : l.record.downloads.map Download.serverPath =
    if l.state.pastDownloads then l.session.downloadPaths else []
  finished : ∀ how id, l.state = .finished how id → l.record.finished.isSome

/-- Every state but the first one has an identifier. -/
theorem Coherent.state_ne_initial {l : Lifecycle} (coherent : l.Coherent) : l.state ≠ .initial := by
  obtain ⟨transaction, -, hid, -⟩ := coherent.begun
  intro hinitial
  rw [hinitial] at hid
  cases hid

/-- What begin has settled, no later command changes. -/
theorem Advances.begun_eq {cfg : Config} {l l' : Lifecycle} {command : Command}
    (advances : l.Advances cfg command l') (later : l.state ≠ .initial) :
    l'.record.begun = l.record.begun ∧ l'.state.id? = l.state.id? ∧
      l'.session.transactionId? = l.session.transactionId? ∧ l'.type = l.type := by
  cases advances with
  | begin state => exact absurd state later
  | checkStatus state | downloadAll state | finish state => rw [state]; exact ⟨rfl, rfl, rfl, rfl⟩
  | dump state | load state =>
    rcases state with state | state <;> rw [state] <;> exact ⟨rfl, rfl, rfl, rfl⟩

/-- The first command that succeeds brings the parts into agreement. -/
theorem coherent_of_advances {cfg : Config} {l : Lifecycle} {command : Command}
    (advances : ({} : Lifecycle).Advances cfg command l) :
    l.Coherent ∧ ∃ request, command = .begin request ∧ l.type = request.type := by
  cases advances with
  | @begin request transaction _ _ isOpen =>
    refine ⟨?_, request, rfl, rfl⟩
    refine ⟨⟨transaction, rfl, rfl, rfl, isOpen.type.symm⟩, rfl, rfl, rfl, ?_⟩
    rintro _ _ ⟨⟩
  | checkStatus state | downloadAll state | finish state => cases state
  | dump state | load state => cases state <;> contradiction

/-- A command that succeeds keeps the parts in agreement. -/
theorem Coherent.advance {cfg : Config} {l l' : Lifecycle} {command : Command}
    (coherent : l.Coherent) (advances : l.Advances cfg command l') : l'.Coherent := by
  -- what begin has settled is the same before and after, whatever the command is
  have hbegun : ∃ transaction, l'.record.begun = some transaction ∧
      l'.state.id? = some transaction.id ∧ l'.session.transactionId? = some transaction.id ∧
      l'.type = transaction.type := by
    obtain ⟨hrecord, hstate, hsession, htype⟩ := advances.begun_eq coherent.state_ne_initial
    rw [hrecord, hstate, hsession, htype]
    exact coherent.begun
  have hpaths := coherent.paths
  have hfiles := coherent.files
  have hdownloads := coherent.downloads
  cases advances with
  | begin state => exact absurd state coherent.state_ne_initial
  | checkStatus state =>
    rw [state] at hdownloads
    refine ⟨hbegun, hpaths, hfiles, hdownloads, ?_⟩
    rintro _ _ ⟨⟩
  | dump state =>
    -- there are no downloads yet, so that the new paths need none
    have hnone : l.record.downloads.map Download.serverPath = [] := by
      rcases state with state | state <;> rw [state] at hdownloads <;> exact hdownloads
    refine ⟨hbegun, ?_, hfiles, hnone, ?_⟩
    · simp [afterDump, hpaths]
    · rintro _ _ ⟨⟩
  | downloadAll state paths =>
    rw [state] at hdownloads
    refine ⟨hbegun, hpaths, ?_, ?_, ?_⟩
    · simp [afterDownloads, afterFetches, hfiles]
    · simpa [afterDownloads, afterFetches, State.pastDownloads, paths] using hdownloads
    · rintro _ _ ⟨⟩
  | load state =>
    have hall : l.record.downloads.map Download.serverPath = l.session.downloadPaths := by
      rcases state with state | state <;> rw [state] at hdownloads <;> exact hdownloads
    refine ⟨hbegun, hpaths, hfiles, hall, ?_⟩
    rintro _ _ ⟨⟩
  | finish state =>
    rw [state] at hdownloads
    exact ⟨hbegun, hpaths, hfiles, hdownloads, fun _ _ _ ↦ rfl⟩

/-- A coherent run that is finished is reported, with all that it has. -/
theorem Coherent.report_eq {l : Lifecycle} {how : Finish} {id : TransactionId}
    (coherent : l.Coherent) (state : l.state = .finished how id) :
    ∃ final, l.record.finished = some final ∧ l.report = .ok ⟨id, final, l.record, l.session⟩ := by
  obtain ⟨transaction, -, hid, hsession, -⟩ := coherent.begun
  obtain ⟨final, hfinal⟩ := Option.isSome_iff_exists.1 (coherent.finished how id state)
  have hsame : transaction.id = id := by
    rw [state] at hid
    exact (Option.some.inj hid).symm
  refine ⟨final, hfinal, ?_⟩
  simp [report, Session.requireId, state, hsession, hsame, hfinal]

end Lifecycle

/-- Where commands lead to: to the start if there are none, and to a coherent run otherwise, whose
type is the one that was asked for first. -/
theorem Config.Arrives.coherent {cfg : Config} {commands : List Command} {l : Lifecycle}
    (arrives : cfg.Arrives commands l) :
    (commands = [] ∧ l = {}) ∨
      l.Coherent ∧ ∃ request rest, commands = .begin request :: rest ∧ l.type = request.type := by
  induction arrives with
  | start => exact .inl ⟨rfl, rfl⟩
  | step _ advances ih =>
    right
    -- the command is the first one, or the parts have agreed before it
    rcases ih with ⟨rfl, rfl⟩ | ⟨hcoherent, request, rest, rfl, htype⟩
    · obtain ⟨hcoherent, request, rfl, htype⟩ := Lifecycle.coherent_of_advances advances
      exact ⟨hcoherent, request, [], rfl, htype⟩
    · have hsame := (advances.begun_eq hcoherent.state_ne_initial).2.2.2
      exact ⟨hcoherent.advance advances, request, _, rfl, hsame.trans htype⟩

/-- Commands that end with finishing lead to a run that is reported. -/
theorem Config.Arrives.exists_report {cfg : Config} {commands : List Command} {l : Lifecycle}
    {how : Finish} (arrives : cfg.Arrives commands l)
    (last : commands.getLast? = some (.finish how)) : ∃ report, l.report = .ok report := by
  have hstate : ∃ id, l.state = .finished how id := by
    cases arrives with
    | start => cases last
    | step _ advances =>
      rw [List.getLast?_concat] at last
      cases Option.some.inj last
      cases advances with
      | @finish id => exact ⟨id, rfl⟩
  obtain ⟨id, hstate⟩ := hstate
  rcases arrives.coherent with ⟨rfl, -⟩ | ⟨hcoherent, -⟩
  · cases last
  · obtain ⟨final, -, hreport⟩ := hcoherent.report_eq hstate
    exact ⟨_, hreport⟩

/-! ### What a command may change -/

/-- Between the two runs, nothing has changed but the state and what belongs to the command. -/
def Command.Owns (command : Command) (l l' : Lifecycle) : Prop :=
  match command with
  | .begin _ =>
    l' = { state := l'.state
           session := { l.session with transactionId? := l'.session.transactionId? }
           record := { l.record with begun := l'.record.begun }
           type := l'.type }
  | .checkStatus =>
    l' = { l with state := l'.state, record := { l.record with status := l'.record.status } }
  | .dump _ _ =>
    l' = { l with
           state := l'.state
           session := { l.session with downloadPaths := l'.session.downloadPaths }
           record := { l.record with dumps := l'.record.dumps } }
  | .downloadAll =>
    l' = { l with
           state := l'.state
           session := { l.session with files := l'.session.files }
           record := { l.record with downloads := l'.record.downloads } }
  | .load _ _ =>
    l' = { l with state := l'.state, record := { l.record with loads := l'.record.loads } }
  | .finish _ =>
    l' = { l with state := l'.state, record := { l.record with finished := l'.record.finished } }

/-- The lists of the first run stand at the front of those of the second one. -/
structure Lifecycle.Extends (l l' : Lifecycle) : Prop where
  paths : l.session.downloadPaths <+: l'.session.downloadPaths
  files : l.session.files <+: l'.session.files
  dumps : l.record.dumps <+: l'.record.dumps
  downloads : l.record.downloads <+: l'.record.downloads
  loads : l.record.loads <+: l'.record.loads

/-- A command changes what is its own, and its lists at their ends only. -/
theorem Lifecycle.Advances.owns_and_extends {cfg : Config} {l l' : Lifecycle} {command : Command}
    (advances : l.Advances cfg command l') : command.Owns l l' ∧ l.Extends l' := by
  have hsame {α : Type} (as : List α) : as <+: as := List.prefix_rfl
  have hmore {α : Type} (as bs : List α) : as <+: as ++ bs := List.prefix_append as bs
  cases advances with
  | begin | checkStatus | finish =>
    exact ⟨rfl, hsame _, hsame _, hsame _, hsame _, hsame _⟩
  | dump => exact ⟨rfl, hmore _ _, hsame _, hmore _ _, hsame _, hsame _⟩
  | downloadAll => exact ⟨rfl, hsame _, hmore _ _, hsame _, hmore _ _, hsame _⟩
  | load => exact ⟨rfl, hsame _, hsame _, hsame _, hsame _, hmore _ _⟩

/-! ### Runs driven by hand -/

namespace Context

variable {ctx : Context σ}

/-- The commands, each allowed and each with success, lead from the start to the run. -/
inductive Reaches (ctx : Context σ) : List Command → Lifecycle → Prop where
  | start : Reaches ctx [] {}
  | step {commands : List Command} {command : Command} {l l' : Lifecycle}
      {act : Action σ Lifecycle} {x y : Exchange σ} (reaches : Reaches ctx commands l)
      (allowed : ctx.perform command l = some act) (succeeds : act x = .ok l' y) :
      Reaches ctx (commands ++ [command]) l'

theorem advances_of_perform {l l' : Lifecycle} {command : Command} {act : Action σ Lifecycle}
    {x y : Exchange σ} (allowed : ctx.perform command l = some act) (succeeds : act x = .ok l' y) :
    l.Advances ctx.config command l' := by
  obtain ⟨h, r, z, hgives, hperforms⟩ := ctx.exists_gives_perform allowed x
  -- an action has one outcome, so the course is one that succeeds
  obtain ⟨rfl, -⟩ := hgives.outcome_eq (Action.attempt_eq_ok_iff.2 succeeds)
  exact hperforms.advances

theorem Reaches.arrives {commands : List Command} {l : Lifecycle}
    (reaches : ctx.Reaches commands l) : ctx.config.Arrives commands l := by
  induction reaches with
  | start => exact .start
  | step _ allowed succeeds ih => exact ih.step (advances_of_perform allowed succeeds)

/-- What a run of commands ends in is reached by them. -/
theorem Reaches.of_drive {before commands : List Command} {l l' : Lifecycle} {x y : Exchange σ}
    (reaches : ctx.Reaches before l) (succeeds : ctx.drive commands l x = .ok l' y) :
    ctx.Reaches (before ++ commands) l' := by
  induction commands generalizing before l x with
  | nil =>
    cases (show EStateM.Result.ok l x = .ok l' y from succeeds)
    rwa [List.append_nil]
  | cons command rest ih =>
    rcases hallowed : ctx.perform command l with - | act <;>
      simp only [drive, hallowed] at succeeds
    · cases succeeds
    · replace succeeds : EStateM.bind act (ctx.drive rest) x = .ok l' y := succeeds
      rcases hact : act x with ⟨l₁, z⟩ | ⟨e, z⟩ <;> rw [EStateM.bind, hact] at succeeds
      · have hrest := ih (reaches.step hallowed hact) succeeds
        rwa [List.append_assoc] at hrest
      · cases succeeds

/-- **Coherence of reachable runs.** A run that commands lead to is the one at the start, where any
identifier can be set, or its parts agree and its type is the one that was asked for when it was
begun. If it is finished then it is reported. The next command that succeeds changes what is its
own and lengthens lists at their ends. -/
theorem coherent_of_reaches {commands : List Command} {l : Lifecycle}
    (reaches : ctx.Reaches commands l) :
    (l.state = .initial → commands = [] ∧
        ∀ id, l.session.setId id = .ok { l.session with transactionId? := some id }) ∧
      (l.state ≠ .initial → l.Coherent ∧
        ∃ request rest, commands = .begin request :: rest ∧ l.type = request.type) ∧
      (∀ how id, l.state = .finished how id →
        ∃ final, l.record.finished = some final ∧
          l.report = .ok ⟨id, final, l.record, l.session⟩) ∧
      ∀ command act x l' y, ctx.perform command l = some act → act x = .ok l' y →
        command.Owns l l' ∧ l.Extends l' := by
  refine ⟨fun hinitial ↦ ?_, fun hlater ↦ ?_, fun how id hfinished ↦ ?_, ?_⟩
  · rcases reaches.arrives.coherent with ⟨rfl, rfl⟩ | ⟨hcoherent, -⟩
    · exact ⟨rfl, fun id ↦ rfl⟩
    · exact absurd hinitial hcoherent.state_ne_initial
  · rcases reaches.arrives.coherent with ⟨-, rfl⟩ | hcoherent
    · exact absurd rfl hlater
    · exact hcoherent
  · rcases reaches.arrives.coherent with ⟨-, rfl⟩ | ⟨hcoherent, -⟩
    · cases hfinished
    · exact hcoherent.report_eq hfinished
  · intro command act x l' y hallowed hact
    exact (advances_of_perform hallowed hact).owns_and_extends

theorem coherent_of_rehearsal :
    ({} : Config).replaying.Reaches Rehearsal.scenario.commands Rehearsal.last ∧
      Rehearsal.last.Coherent ∧
      Rehearsal.last.report =
        .ok ⟨"T", Rehearsal.committed, Rehearsal.last.record, Rehearsal.last.session⟩ := by
  obtain ⟨h, hdrives⟩ := Rehearsal.exists_drives
  obtain ⟨y, hdrive⟩ := hdrives.exists_drive
  have hreaches : ({} : Config).replaying.Reaches Rehearsal.scenario.commands Rehearsal.last :=
    Reaches.start.of_drive hdrive
  obtain ⟨-, hlater, hreport, -⟩ := coherent_of_reaches hreaches
  obtain ⟨final, hfinal, hreported⟩ := hreport .commit "T" rfl
  cases Option.some.inj hfinal
  have hne : Rehearsal.last.state ≠ .initial := State.noConfusion
  exact ⟨hreaches, (hlater hne).1, hreported⟩

end Context

end TransactionHarness
