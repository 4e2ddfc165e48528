import Mathlib.Data.List.Forall2
import TransactionHarness.Proofs.Progress
/-!
# Order and fail-stop

The steps of a run are the first ones of the plan of its scenario, in order, and none comes after
one whose answer is not accepted.

* `Follows`: a history that carries out tasks in order, one accepted answer at a time.
* `Proceeds.follows`: what goes wrong with a task stops a run, whatever it is.
* `Context.plan_of_runScenario`: every run follows the plan of its scenario.
-/

namespace TransactionHarness

variable {σ : Type}

/-! ### Histories that follow tasks -/

/-- The history carries out the tasks in order: all of them, or up to one that is not sent or whose
answer is not accepted, with which the history ends. -/
inductive Follows (cfg : Config) : List Task → List Event → Bool → Prop where
  | done : Follows cfg [] [] true
  | stopped (task : Task) (tasks : List Task) : Follows cfg (task :: tasks) [] false
  /-- Between tasks, tokens are obtained. -/
  | aside {tasks : List Task} {e : Event} {h : List Event} {complete : Bool}
      (aside : cfg.isStep e = false) (rest : Follows cfg tasks h complete) :
      Follows cfg tasks (e :: h) complete
  | rejected {task : Task} {tasks : List Task} {e : Event} (step : cfg.isStep e = true)
      (sent : e.sent?.map Sent.bare = some (task.sent cfg)) (rejected : ¬ task.Accepts e) :
      Follows cfg (task :: tasks) [e] false
  | accepted {task : Task} {tasks : List Task} {e : Event} {h : List Event} {complete : Bool}
      (step : cfg.isStep e = true) (sent : e.sent?.map Sent.bare = some (task.sent cfg))
      (accepts : task.Accepts e) (rest : Follows cfg tasks h complete) :
      Follows cfg (task :: tasks) (e :: h) complete

namespace Follows

variable {cfg : Config} {tasks : List Task} {h : List Event} {complete : Bool}

/-! ### What following means -/

/-- The requests of steps are the first ones of the tasks. -/
theorem prefix_sent (follows : Follows cfg tasks h complete) :
    (sentIn (h.filter cfg.isStep)).map Sent.bare <+: tasks.map (Task.sent cfg) := by
  induction follows with
  | done => exact List.prefix_rfl
  | stopped => exact List.nil_prefix
  | aside aside _ ih => rwa [List.filter_cons_of_neg (Bool.eq_false_iff.1 aside)]
  | rejected step sent =>
    obtain ⟨s, hs, hbare⟩ := Option.map_eq_some_iff.1 sent
    rw [List.filter_cons_of_pos step, sentIn, List.filterMap_cons_some hs, List.map_cons, hbare]
    exact List.cons_prefix_cons.2 ⟨rfl, List.nil_prefix⟩
  | accepted step sent _ _ ih =>
    obtain ⟨s, hs, hbare⟩ := Option.map_eq_some_iff.1 sent
    rw [List.filter_cons_of_pos step, sentIn, List.filterMap_cons_some hs, List.map_cons, hbare]
    exact List.cons_prefix_cons.2 ⟨rfl, ih⟩

/-- Each request of a step belongs to the task whose turn it is, and nothing comes after it unless
its answer is accepted. -/
theorem task_of_step (follows : Follows cfg tasks h complete) {before after : List Event}
    {e : Event} (here : h = before ++ e :: after) (step : cfg.isStep e = true) :
    ∃ task, tasks[(before.filter cfg.isStep).length]? = some task ∧
      e.sent?.map Sent.bare = some (task.sent cfg) ∧ (after ≠ [] → task.Accepts e) := by
  induction follows generalizing before with
  | done | stopped => exact absurd here.symm (by simp)
  | @aside _ e' _ _ aside _ ih =>
    rcases before with - | ⟨e₀, before⟩
    · obtain ⟨rfl, -⟩ := List.cons.inj here
      exact absurd step (Bool.eq_false_iff.1 aside)
    · obtain ⟨rfl, hrest⟩ := List.cons.inj here
      rw [List.filter_cons_of_neg (Bool.eq_false_iff.1 aside)]
      exact ih hrest
  | rejected _ sent =>
    rcases before with - | ⟨e₀, before⟩
    · obtain ⟨rfl, rfl⟩ := List.cons.inj here
      exact ⟨_, rfl, sent, fun h ↦ absurd rfl h⟩
    · -- the history has one event only
      simp at here
  | accepted step' sent accepts _ ih =>
    rcases before with - | ⟨e₀, before⟩
    · obtain ⟨rfl, -⟩ := List.cons.inj here
      exact ⟨_, rfl, sent, fun _ ↦ accepts⟩
    · obtain ⟨rfl, hrest⟩ := List.cons.inj here
      rw [List.filter_cons_of_pos step', List.length_cons, List.getElem?_cons_succ]
      exact ih hrest

/-- The history is complete exactly if each task has its accepted answer. -/
theorem complete_iff (follows : Follows cfg tasks h complete) :
    complete = true ↔ List.Forall₂ Task.Accepts tasks (h.filter cfg.isStep) := by
  induction follows with
  | done => exact ⟨fun _ ↦ .nil, fun _ ↦ rfl⟩
  | stopped => constructor <;> rintro ⟨⟩
  | aside aside _ ih => rwa [List.filter_cons_of_neg (Bool.eq_false_iff.1 aside)]
  | rejected step _ rejected =>
    rw [List.filter_cons_of_pos step, List.forall₂_cons]
    exact ⟨fun h ↦ absurd h Bool.false_ne_true, fun h ↦ absurd h.1 rejected⟩
  | accepted step _ accepts _ ih =>
    rw [List.filter_cons_of_pos step, List.forall₂_cons, ih]
    exact ⟨fun h ↦ ⟨accepts, h⟩, fun h ↦ h.2⟩

end Follows

/-- A lost request is no accepted answer. -/
theorem Task.not_accepts_of_lost {task : Task} {e : Event} {error : Error}
    (lost : e.failure? = some error) : ¬ task.Accepts e := by
  rcases e with ⟨request, answer⟩ | ⟨request, place, answer⟩ | now
  · rw [failure?_eq_some_iff.1 (show failure? answer = some error from lost)]
    cases task <;> exact id
  · rw [failure?_eq_some_iff.1 (show failure? answer = some error from lost)]
    cases task <;> exact id
  · cases lost

/-- What goes wrong with a task stops a run. -/
theorem Proceeds.follows {cfg : Config} {tasks : List Task} {h : List Event}
    {error? : Option Error} (proceeds : Proceeds cfg tasks h error?) :
    Follows cfg tasks h error?.isNone := by
  induction proceeds with
  | done => exact .done
  | unusable => exact .stopped _ _
  | aside _ aside _ ih => exact .aside aside.isStep ih
  | noToken => exact .aside (cfg.isStep_login _) (.stopped _ _)
  | lost sent lost => exact .rejected sent.step sent.sent (Task.not_accepts_of_lost lost)
  | rejected sent rejects => exact .rejected sent.step sent.sent rejects.not_accepts
  | accepted sent accepts _ ih => exact .accepted sent.step sent.sent accepts ih

/-- **Order and fail-stop.** Whatever the world, a scenario that is not valid sends nothing. The
steps that another one sends are the first ones of its plan, in order, for the identifier in the
reply to begin and the paths in the replies to the dumps. Nothing comes after a step whose answer is
not accepted, and the scenario is reported exactly if every request of the plan has its accepted
answer. -/
theorem Context.plan_of_runScenario (ctx : Context σ) (scenario : Scenario) (world : σ) :
    ∃ r y h, (ctx.runScenario scenario).attempt (.start world) = .ok r y ∧
      ctx.world.Answers world h y.world ∧ y.sent = sentIn h ∧
      ((∃ e, scenario.validate = .error e ∧ r = .error e ∧ y.sent = []) ∨
        (scenario.validate = .ok () ∧ ∃ id lists, lists.length = scenario.dumpFormats.length ∧
          (y.sent.filter fun s ↦ !ctx.config.isTokenUrl s.request.url).map Sent.bare <+:
            (scenario.plan id lists).map (Task.sent ctx.config) ∧
          (∀ before e after, h = before ++ e :: after → ctx.config.isStep e = true →
            ∃ task,
              (scenario.plan id lists)[(before.filter ctx.config.isStep).length]? = some task ∧
              e.sent?.map Sent.bare = some (task.sent ctx.config) ∧
              (after ≠ [] → task.Accepts e)) ∧
          (r.isOk = true ↔
            List.Forall₂ Task.Accepts (scenario.plan id lists) (h.filter ctx.config.isStep)))) := by
  obtain ⟨h, r, y, hgives, hcourse⟩ := ctx.exists_gives_runScenario scenario (.start world)
  refine ⟨r, y, h, hgives.outcome, hgives.answers, hgives.sent, ?_⟩
  rcases hcourse with ⟨e, hinvalid, rfl, rfl⟩ | ⟨hvalid, r', rfl, hdrives⟩
  · exact .inl ⟨e, hinvalid, rfl, hgives.sent⟩
  · obtain ⟨id, lists, hlength, hproceeds⟩ := hdrives.proceeds_plan hvalid
    have hfollows := hproceeds.follows
    rw [isNone_failure?] at hfollows
    refine .inr ⟨hvalid, id, lists, hlength, ?_, fun _ _ _ ↦ hfollows.task_of_step, ?_⟩
    · rw [hgives.sent, show (Exchange.start world).sent = [] from rfl, List.nil_append,
        ctx.config.filter_sentIn]
      exact hfollows.prefix_sent
    · rw [← hfollows.complete_iff]
      rcases r' with e | l
      · exact ⟨fun h ↦ absurd h Bool.false_ne_true, fun h ↦ absurd h Bool.false_ne_true⟩
      · -- a run that has been through all commands is finished, and so it is reported
        have harrives := hdrives.arrives .start l rfl
        obtain ⟨report, hreport⟩ := harrives.exists_report List.getLast?_concat
        exact ⟨fun _ ↦ rfl, fun _ ↦ congrArg Except.isOk hreport⟩

end TransactionHarness
