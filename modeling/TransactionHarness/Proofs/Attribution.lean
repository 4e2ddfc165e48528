import TransactionHarness.Proofs.Plan
import TransactionHarness.Proofs.Stepless
/-!
# Attribution of errors

The error of a run says where the run went wrong. It names a step exactly if the reply to a request
of the step was rejected, and then this request is the last thing that was sent.

* `Attributed`: where an error comes from, read off the history.
* `Proceeds.attributed`: an error with which tasks are left is attributed.
* `Context.attributed_of_runScenario`: so is the error of every run, if the world itself blames no
  step.

Everything is read off at one point of the history at a time: what is left of the plan is proceeded
through from there (`Proceeds.of_split`), and each constructor of `Proceeds` says what can be next.
-/

namespace TransactionHarness

variable {σ : Type}

/-- Where the error of a history comes from, if it ends in one. -/
structure Attributed (cfg : Config) (tasks : List Task) (h : List Event) (error? : Option Error) :
    Prop where
  /-- An error that names a step, never that of tokens, is what the last reply is rejected with. -/
  named : ∀ error step, error? = some error → error.step? = some step → step ≠ .auth ∧
    ∃ before last task, h = before ++ [last] ∧
      tasks[(before.filter cfg.isStep).length]? = some task ∧ task.IsSentAs cfg last ∧
      task.step = step ∧ task.Rejects last error
  /-- An answer to the request of a step is accepted or rejected. If it is rejected, it is the last
  one, and the error is its own and names the step. -/
  answered : ∀ before e after, h = before ++ e :: after → cfg.isStep e = true →
    e.failure? = none → ∃ task, tasks[(before.filter cfg.isStep).length]? = some task ∧
      task.IsSentAs cfg e ∧ (task.Accepts e ∨ ∃ error, task.Rejects e error) ∧
      ∀ error, task.Rejects e error →
        error.step? = some task.step ∧ after = [] ∧ error? = some error
  /-- A request that is lost is the last one, unless it is a refresh and a login comes behind it. -/
  lost : ∀ before e after error, h = before ++ e :: after → e.failure? = some error →
    error.step? = none ∧ (after = [] ∧ error? = some error ∨
      ∃ refreshToken answer answer' rest,
        e = .answered (cfg.refreshRequest refreshToken) answer ∧
        after = .answered cfg.loginRequest answer' :: rest)
  /-- A login that gives no token is the last request. -/
  refused : ∀ before answer after error,
    h = before ++ .answered cfg.loginRequest answer :: after →
    AccessToken.ofReceived answer = .error error →
      error.step? = none ∧ after = [] ∧ error? = some error
  /-- A task that cannot be sent is not sent. If the tasks in front of it are done, that is the
  error, unless there is no token either. -/
  unusable : ∀ k task error, tasks[k]? = some task → task.fault? cfg = some error →
    error.step? = none ∧ (h.filter cfg.isStep).length ≤ k ∧
      (List.Forall₂ Task.Accepts (tasks.take k) (h.filter cfg.isStep) →
        error? = some error ∨ ∃ before last, h = before ++ [last] ∧ last.RefusesLogin cfg)
  /-- For an upload that cannot be sent there is no request at all, not even for a token. -/
  upload : ∀ k task error, tasks[k]? = some task → task.uploadFault? = some error →
    (∀ before after, h = before ++ after → (before.filter cfg.isStep).length = k → after = []) ∧
      (List.Forall₂ Task.Accepts (tasks.take k) (h.filter cfg.isStep) → error? = some error)

/-- Nothing but a rejected reply blames a step. -/
theorem Task.step?_of_fault? {cfg : Config} {task : Task} {e : Error}
    (fault : task.fault? cfg = some e) : e.step? = none := by
  cases task with
  | begin | checkStatus | dump | finish => cases fault
  | fetch path =>
    simp only [fault?] at fault
    split at fault
    · next hplace =>
      cases fault
      exact Artifact.namesNoStep_localPath cfg.downloadDir path _ hplace
    · cases fault
  | load table id file =>
    simp only [fault?, uploadFault?] at fault
    split at fault
    · next hname =>
      cases fault
      exact file.namesNoStep_fileName _ hname
    · cases fault

/-- A task that cannot be sent is none that was sent, so it is a later one. -/
theorem Task.IsSentAs.exists_succ {cfg : Config} {task task' : Task} {tasks : List Task} {e : Event}
    {k : ℕ} {error : Error} (sent : task.IsSentAs cfg e)
    (here : (task :: tasks)[k]? = some task') (fault : task'.fault? cfg = some error) :
    ∃ j, k = j + 1 ∧ tasks[j]? = some task' := by
  cases k with
  | zero =>
    obtain rfl := Option.some.inj here
    cases sent.usable.symm.trans fault
  | succ j => exact ⟨j, rfl, here⟩

theorem Config.isStep_of_refusesLogin (cfg : Config) {e : Event} (refused : e.RefusesLogin cfg) :
    cfg.isStep e = false := by
  rcases e with ⟨request, answer⟩ | _ | _
  · have hurl : request.url = cfg.endpoint "/auth" := refused.1
    simp [isStep, Event.request?, hurl]
  · cases refused
  · cases refused

theorem Scenario.namesNoStep_validate (scenario : Scenario) : NamesNoStep scenario.validate := by
  unfold validate
  split
  · exact .error rfl
  split
  · exact .error rfl
  split
  · exact .error rfl
  · exact .ok _

/-! ### From any point on -/

namespace Proceeds

variable {cfg : Config} {tasks : List Task} {h before after : List Event} {e : Event}
  {error : Error} {error? : Option Error}

/-- What is left of the tasks is proceeded through from any point of the history on. -/
theorem of_split (proceeds : Proceeds cfg tasks h error?) (here : h = before ++ after)
    (later : after ≠ []) :
    Proceeds cfg (tasks.drop (before.filter cfg.isStep).length) after error? := by
  induction before generalizing tasks h with
  | nil =>
    obtain rfl := here
    exact proceeds
  | cons e₀ before ih =>
    -- with an error the history ends, and here it goes on
    have hmore {e : Event} (ends : [e] = e₀ :: before ++ after) : False :=
      later (List.append_eq_nil_iff.1 (List.cons.inj ends).2.symm).2
    cases proceeds with
    | done | unusable => cases here
    | aside _ aside rest =>
      obtain ⟨rfl, hrest⟩ := List.cons.inj here
      rw [List.filter_cons_of_neg (Bool.eq_false_iff.1 aside.isStep)]
      exact ih rest hrest
    | noToken | lost | rejected => exact (hmore here).elim
    | accepted sent _ rest =>
      obtain ⟨rfl, hrest⟩ := List.cons.inj here
      rw [List.filter_cons_of_pos sent.step, List.length_cons, List.drop_succ_cons]
      exact ih rest hrest

/-- The request of a step is that of the task whose turn it is. -/
theorem exists_task (proceeds : Proceeds cfg tasks h error?) (here : h = before ++ e :: after)
    (step : cfg.isStep e = true) :
    ∃ task, tasks[(before.filter cfg.isStep).length]? = some task ∧ task.IsSentAs cfg e ∧
      ((∃ error, e.failure? = some error ∧ after = [] ∧ error? = some error) ∨
        (∃ error, task.Rejects e error ∧ after = [] ∧ error? = some error) ∨ task.Accepts e) := by
  have hrest := proceeds.of_split here (List.cons_ne_nil e after)
  have htask {task : Task} {rest : List Task}
      (left : tasks.drop (before.filter cfg.isStep).length = task :: rest) :
      tasks[(before.filter cfg.isStep).length]? = some task := by
    rw [← List.head?_drop, left]
    rfl
  generalize hleft : tasks.drop (before.filter cfg.isStep).length = left at hrest
  cases hrest with
  | aside _ aside => exact absurd step (Bool.eq_false_iff.1 aside.isStep)
  | noToken => exact absurd step (Bool.eq_false_iff.1 (cfg.isStep_login _))
  | lost sent lost => exact ⟨_, htask hleft, sent, .inl ⟨_, lost, rfl, rfl⟩⟩
  | rejected sent rejects => exact ⟨_, htask hleft, sent, .inr (.inl ⟨_, rejects, rfl, rfl⟩)⟩
  | accepted sent accepts => exact ⟨_, htask hleft, sent, .inr (.inr accepts)⟩

/-- A lost request is the end of the history or a refresh that is replaced by a login. -/
theorem of_lost (proceeds : Proceeds cfg tasks h error?) (here : h = before ++ e :: after)
    (lost : e.failure? = some error) :
    (after = [] ∧ error? = some error) ∨
      ∃ refreshToken answer answer' rest,
        e = .answered (cfg.refreshRequest refreshToken) answer ∧
        after = .answered cfg.loginRequest answer' :: rest := by
  have hrest := proceeds.of_split here (List.cons_ne_nil e after)
  generalize tasks.drop (before.filter cfg.isStep).length = left at hrest
  -- where there is no answer, no token is received from it
  have hnone {answer : Except Error String} (failed : failure? answer = some error) :
      AccessToken.ofReceived answer = .error error := by
    rw [failure?_eq_some_iff.1 failed]
    rfl
  cases hrest with
  | aside _ aside =>
    cases aside with
    | clock => cases lost
    | login _ reply | refresh _ reply => cases reply.symm.trans (hnone lost)
    | replaced => exact .inr ⟨_, _, _, _, rfl, rfl⟩
  | noToken _ refused =>
    obtain rfl := Except.error.inj (refused.symm.trans (hnone lost))
    exact .inl ⟨rfl, rfl⟩
  | lost _ lost' => exact .inl ⟨rfl, lost'.symm.trans lost⟩
  | rejected _ rejects => cases rejects <;> cases lost
  | accepted _ accepts => exact absurd accepts (Task.not_accepts_of_lost lost)

/-- A refused login is the end of the history. -/
theorem of_refused {answer : Except Error String} (proceeds : Proceeds cfg tasks h error?)
    (here : h = before ++ .answered cfg.loginRequest answer :: after)
    (refused : AccessToken.ofReceived answer = .error error) :
    after = [] ∧ error? = some error := by
  have hrest := proceeds.of_split here (List.cons_ne_nil _ after)
  generalize tasks.drop (before.filter cfg.isStep).length = left at hrest
  have hlogin : ∀ task : Task, ¬ task.IsSentAs cfg (.answered cfg.loginRequest answer) :=
    fun task sent ↦ absurd sent.step (Bool.eq_false_iff.1 (cfg.isStep_login answer))
  generalize hevent : Event.answered cfg.loginRequest answer = e at hrest hlogin
  cases hrest with
  | aside _ aside =>
    cases aside with
    | clock => cases hevent
    | login _ reply =>
      cases hevent
      cases reply.symm.trans refused
    | refresh | replaced =>
      exact absurd (congrArg Request.url (Event.answered.inj hevent).1) cfg.endpoint_auth_ne_refresh
  | noToken _ refused' =>
    cases hevent
    exact ⟨rfl, congrArg some (Except.error.inj (refused'.symm.trans refused))⟩
  | lost sent | rejected sent | accepted sent => exact absurd sent (hlogin _)

/-! ### Errors with a step -/

/-- If nothing else in the history blames a step, an error that names one is what the last reply is
rejected with. -/
theorem exists_rejects (proceeds : Proceeds cfg tasks h (some error))
    (stepless : ∀ e ∈ h, ∀ error, e.failure? = some error → error.step? = none) {step : Step}
    (named : error.step? = some step) :
    ∃ before last task, h = before ++ [last] ∧
      tasks[(before.filter cfg.isStep).length]? = some task ∧ task.IsSentAs cfg last ∧
      task.Rejects last error := by
  have hnone : error.step? ≠ none := fun h ↦ nomatch named.symm.trans h
  generalize hsome : some error = error? at proceeds
  induction proceeds with
  | done => cases hsome
  | unusable fault =>
    cases hsome
    exact absurd (Task.step?_of_fault? fault) hnone
  | aside _ aside _ ih =>
    obtain ⟨before, last, task, rfl, htask, hsent⟩ :=
      ih (fun e he ↦ stepless e (List.mem_cons_of_mem _ he)) hsome
    refine ⟨_ :: before, last, task, rfl, ?_, hsent⟩
    rwa [List.filter_cons_of_neg (Bool.eq_false_iff.1 aside.isStep)]
  | @noToken _ _ answer _ _ refused =>
    cases hsome
    have hanswer : NamesNoStep answer := fun e he ↦
      stepless _ List.mem_cons_self e (failure?_eq_some_iff.2 he)
    exact absurd (AccessToken.namesNoStep_ofReceived hanswer _ refused) hnone
  | lost _ lost =>
    cases hsome
    exact absurd (stepless _ List.mem_cons_self _ lost) hnone
  | @rejected task _ e _ sent rejects =>
    cases hsome
    exact ⟨[], e, task, rfl, rfl, sent, rejects⟩
  | @accepted _ _ _ _ _ sent _ _ ih =>
    obtain ⟨before, last, task, rfl, htask, hsent⟩ :=
      ih (fun e he ↦ stepless e (List.mem_cons_of_mem _ he)) hsome
    refine ⟨_ :: before, last, task, rfl, ?_, hsent⟩
    rwa [List.filter_cons_of_pos sent.step, List.length_cons, List.getElem?_cons_succ]

/-! ### Tasks that cannot be sent -/

/-- A task that cannot be sent is not sent, and where it is its turn there is an error for it. -/
theorem of_fault {k : ℕ} {task : Task} (proceeds : Proceeds cfg tasks h error?)
    (here : tasks[k]? = some task) (fault : task.fault? cfg = some error) :
    (h.filter cfg.isStep).length ≤ k ∧
      (List.Forall₂ Task.Accepts (tasks.take k) (h.filter cfg.isStep) →
        error? = some error ∨ ∃ before last, h = before ++ [last] ∧ last.RefusesLogin cfg) := by
  induction proceeds generalizing k with
  | done => cases here
  | unusable fault' =>
    refine ⟨Nat.zero_le k, fun accepted ↦ .inl ?_⟩
    cases k with
    | zero =>
      obtain rfl := Option.some.inj here
      exact fault'.symm.trans fault
    | succ k => cases accepted
  | aside _ aside _ ih =>
    obtain ⟨hlength, herror⟩ := ih here
    rw [List.filter_cons_of_neg (Bool.eq_false_iff.1 aside.isStep)]
    refine ⟨hlength, fun accepted ↦ (herror accepted).imp_right ?_⟩
    rintro ⟨before, last, rfl, hrefused⟩
    exact ⟨_ :: before, last, rfl, hrefused⟩
  | noToken _ refused =>
    rw [List.filter_cons_of_neg (Bool.eq_false_iff.1 (cfg.isStep_login _))]
    refine ⟨Nat.zero_le k, fun _ ↦ .inr ⟨[], _, rfl, rfl, ?_⟩⟩
    rw [refused]
    rfl
  | lost sent lost =>
    obtain ⟨k, rfl, -⟩ := sent.exists_succ here fault
    rw [List.filter_cons_of_pos sent.step, List.take_succ_cons, List.forall₂_cons]
    exact ⟨by simp, fun accepted ↦ absurd accepted.1 (Task.not_accepts_of_lost lost)⟩
  | rejected sent rejects =>
    obtain ⟨k, rfl, -⟩ := sent.exists_succ here fault
    rw [List.filter_cons_of_pos sent.step, List.take_succ_cons, List.forall₂_cons]
    exact ⟨by simp, fun accepted ↦ absurd accepted.1 rejects.not_accepts⟩
  | accepted sent _ _ ih =>
    obtain ⟨k, rfl, hlater⟩ := sent.exists_succ here fault
    obtain ⟨hlength, herror⟩ := ih hlater
    rw [List.filter_cons_of_pos sent.step, List.take_succ_cons, List.forall₂_cons]
    refine ⟨Nat.succ_le_succ hlength, fun accepted ↦ (herror accepted.2).imp_right ?_⟩
    rintro ⟨before, last, rfl, hrefused⟩
    exact ⟨_ :: before, last, rfl, hrefused⟩

/-- Where it is the turn of an upload that cannot be sent, the history is at its end. -/
theorem eq_nil_of_uploadFault {k : ℕ} {task : Task} (proceeds : Proceeds cfg tasks h error?)
    (here : tasks[k]? = some task) (fault : task.uploadFault? = some error)
    (split : h = before ++ after) (turn : (before.filter cfg.isStep).length = k) : after = [] := by
  by_contra hlater
  have hrest := proceeds.of_split split hlater
  have hfault : task.fault? cfg = some error := Task.fault?_of_uploadFault? fault
  rw [turn, List.drop_eq_getElem?_toList_append, here] at hrest
  cases hrest with
  | unusable => exact hlater rfl
  | aside usable | noToken usable => cases usable.symm.trans fault
  | lost sent | rejected sent | accepted sent => cases sent.usable.symm.trans hfault

theorem of_uploadFault {k : ℕ} {task : Task} (proceeds : Proceeds cfg tasks h error?)
    (here : tasks[k]? = some task) (fault : task.uploadFault? = some error)
    (accepted : List.Forall₂ Task.Accepts (tasks.take k) (h.filter cfg.isStep)) :
    error? = some error := by
  refine ((proceeds.of_fault here (Task.fault?_of_uploadFault? fault)).2 accepted).resolve_right ?_
  -- a login would come behind the tasks in front of the upload
  rintro ⟨before, last, rfl, hrefused⟩
  rw [List.filter_append, List.filter_singleton, cfg.isStep_of_refusesLogin hrefused,
    cond_false, List.append_nil] at accepted
  have hk : k < tasks.length := (List.getElem?_eq_some_iff.1 here).1
  have hturn : (before.filter cfg.isStep).length = k := by
    rw [← accepted.length_eq, List.length_take, Nat.min_eq_left hk.le]
  exact absurd (proceeds.eq_nil_of_uploadFault here fault rfl hturn) (List.cons_ne_nil _ _)

/-- What goes wrong on the way through tasks is attributed. -/
theorem attributed (proceeds : Proceeds cfg tasks h error?)
    (stepless : ∀ e ∈ h, ∀ error, e.failure? = some error → error.step? = none) :
    Attributed cfg tasks h error? where
  named := by
    rintro error step rfl hnamed
    obtain ⟨before, last, task, here, htask, hsent, hrejects⟩ :=
      proceeds.exists_rejects stepless hnamed
    obtain rfl := Option.some.inj (hrejects.step?.symm.trans hnamed)
    exact ⟨task.step_ne_auth, before, last, task, here, htask, hsent, rfl, hrejects⟩
  answered before e after here hstep hanswered := by
    obtain ⟨task, htask, hsent, hcases⟩ := proceeds.exists_task here hstep
    refine ⟨task, htask, hsent, ?_⟩
    rcases hcases with ⟨error, hlost, -⟩ | ⟨error, hrejects, hafter, herror⟩ | haccepts
    · cases hanswered.symm.trans hlost
    · refine ⟨.inr ⟨error, hrejects⟩, fun error' hrejects' ↦ ?_⟩
      obtain rfl := hrejects.unique hrejects'
      exact ⟨hrejects.step?, hafter, herror⟩
    · exact ⟨.inl haccepts, fun error hrejects ↦ absurd haccepts hrejects.not_accepts⟩
  lost before e after error here hlost := by
    refine ⟨stepless e ?_ error hlost, proceeds.of_lost here hlost⟩
    rw [here]
    exact List.mem_append_right _ List.mem_cons_self
  refused before answer after error here hrefused := by
    refine ⟨AccessToken.namesNoStep_ofReceived (fun e he ↦ ?_) error hrefused,
      proceeds.of_refused here hrefused⟩
    refine stepless (.answered cfg.loginRequest answer) ?_ e (failure?_eq_some_iff.2 he)
    rw [here]
    exact List.mem_append_right _ List.mem_cons_self
  unusable k task error here hfault := by
    exact ⟨Task.step?_of_fault? hfault, proceeds.of_fault here hfault⟩
  upload k task error here hfault :=
    ⟨fun _ _ split turn ↦ proceeds.eq_nil_of_uploadFault here hfault split turn,
      proceeds.of_uploadFault here hfault⟩

end Proceeds

/-- What a stepless world answers blames no step. -/
theorem World.Stepless.of_answers {world : World σ} (stepless : world.Stepless) {h : List Event}
    {s t : σ} (answers : world.Answers s h t) :
    ∀ e ∈ h, ∀ error, e.failure? = some error → error.step? = none := by
  induction h generalizing s with
  | nil => rintro _ ⟨⟩
  | cons e h ih =>
    obtain ⟨u, hreact, hrest⟩ := answers
    refine List.forall_mem_cons.2 ⟨fun error hlost ↦ ?_, ih hrest⟩
    cases e with
    | answered request answer =>
      refine stepless.execute request s error ?_
      rw [show world.execute request s = (answer, u) from hreact]
      exact failure?_eq_some_iff.1 hlost
    | fetched request place answer =>
      refine stepless.download request place s error ?_
      rw [show world.download request place s = (answer, u) from hreact]
      exact failure?_eq_some_iff.1 hlost
    | clock => cases hlost

/-! ### A rehearsal with a garbled reply -/

namespace Rehearsal

/-- The settings in the world that plays back replies. -/
def garbled : Context Playback := ⟨{}, Playback.world default⟩

/-- A login is answered with a token, and what comes next with an empty text. -/
def garbledReplies : Playback := ⟨[.text loginText, .text ""], none⟩

/-- What begin fails with if it is answered with an empty text. -/
def garbledError : Error := .malformedResponse .begin "no blank line between headers and body"

theorem exists_runScenario_garbled :
    ∃ y, (garbled.runScenario scenario).attempt (.start garbledReplies) =
      .ok (.error garbledError) y := by
  let begins : List Event := [.answered ({} : Config).loginRequest (.ok loginText),
    .answered ((({} : Config).beginRequest scenario.begin).withBearer "a") (.ok "")]
  have hrefused : (Except.ok "" >>= fun text ↦
      (Contract.begin .readOnly).receive Transaction.ofJson .begin text >>=
        Lifecycle.afterBegin {} scenario.begin) = .error garbledError := by
    have hread : Response.read "".toList = .error .noBlankLine := by
      simp [Response.read, Response.final, Response.splitHead]
    simp only [ok_bind, Contract.receive, Response.parse, hread]
    rfl
  have hbegin : garbled.config.Performs {} none (.begin scenario.begin) begins
      (.error garbledError) (some token) :=
    .call (.begin _ rfl) (.answered (.perStep rfl ofReceived_login) hrefused)
  have hplays : garbled.Plays (garbled.runScenario scenario) none begins (.error garbledError)
      (some token) :=
    Config.Drives.plays_runScenario rfl (.failed hbegin)
  have hanswers : garbled.world.Answers garbledReplies begins ⟨[], none⟩ := ⟨_, rfl, _, rfl, rfl⟩
  obtain ⟨y, hgives, -⟩ := hplays (.start garbledReplies) ⟨[], none⟩ hanswers rfl
  exact ⟨y, hgives.outcome⟩

end Rehearsal

/-! ### Runs -/

/-- **Attribution of errors.** The worlds of both senders blame no step by themselves. In every
world that does not, an invalid scenario is refused with an error that names no step, before
anything is sent, and the error of any other run is attributed to the plan of its scenario. -/
theorem Context.attributed_of_runScenario :
    (∀ {τ : Type} (server : Http.Server τ) (timeout : Span) (boundary : String) (now : Instant),
        (Http.world server timeout boundary now).Stepless) ∧
      (∀ {τ : Type} (program : Curl.Program τ) (timeout : Span) (now : Instant),
        (Curl.world program timeout now).Stepless) ∧
      ∀ (ctx : Context σ), ctx.world.Stepless → ∀ (scenario : Scenario) (world : σ), ∃ r y h,
        (ctx.runScenario scenario).attempt (.start world) = .ok r y ∧
          ctx.world.Answers world h y.world ∧ y.sent = sentIn h ∧
          ((∃ e, scenario.validate = .error e ∧ r = .error e ∧ e.step? = none ∧ h = []) ∨
            (scenario.validate = .ok () ∧ ∃ id lists,
              lists.length = scenario.dumpFormats.length ∧
              Attributed ctx.config (scenario.plan id lists) h (failure? r))) := by
  refine ⟨Http.stepless_world, Curl.stepless_world, fun ctx stepless scenario world ↦ ?_⟩
  obtain ⟨h, r, y, hgives, hcourse⟩ := ctx.exists_gives_runScenario scenario (.start world)
  refine ⟨r, y, h, hgives.outcome, hgives.answers, hgives.sent, ?_⟩
  rcases hcourse with ⟨e, hinvalid, rfl, rfl⟩ | ⟨hvalid, r', rfl, hdrives⟩
  · exact .inl ⟨e, hinvalid, rfl, scenario.namesNoStep_validate e hinvalid, rfl⟩
  · obtain ⟨id, lists, hlength, hproceeds⟩ := hdrives.proceeds_plan hvalid
    refine .inr ⟨hvalid, id, lists, hlength, ?_⟩
    have hattributed := hproceeds.attributed (stepless.of_answers hgives.answers)
    rcases r' with e | l
    · exact hattributed
    · -- a run that has been through all commands is finished, and so it is reported
      obtain ⟨report, hreport⟩ := (hdrives.arrives .start l rfl).exists_report List.getLast?_concat
      rw [ok_bind, hreport]
      exact hattributed

theorem Context.attributed_of_garbled :
    Rehearsal.garbled.world.Stepless ∧ ∃ y before last, ∃ task : Task,
      (Rehearsal.garbled.runScenario Rehearsal.scenario).attempt (.start Rehearsal.garbledReplies) =
        .ok (.error Rehearsal.garbledError) y ∧
      y.sent = sentIn (before ++ [last]) ∧ task.step = .begin ∧
      task.IsSentAs Rehearsal.garbled.config last ∧ task.Rejects last Rehearsal.garbledError := by
  have hstepless : Rehearsal.garbled.world.Stepless := Playback.stepless_world default
  obtain ⟨r, y, h, hrun, -, hsent, hends⟩ := (attributed_of_runScenario (σ := Playback)).2.2
    Rehearsal.garbled hstepless Rehearsal.scenario Rehearsal.garbledReplies
  obtain ⟨z, hgarbled⟩ := Rehearsal.exists_runScenario_garbled
  cases hrun.symm.trans hgarbled
  rcases hends with ⟨e, hinvalid, -⟩ | ⟨-, id, lists, -, hattributed⟩
  · cases hinvalid
  · obtain ⟨-, before, last, task, rfl, -, hsentAs, hstep, hrejects⟩ :=
      hattributed.named Rehearsal.garbledError .begin rfl rfl
    exact ⟨hstepless, _, before, last, task, hgarbled, hsent, hstep, hsentAs, hrejects⟩

end TransactionHarness
