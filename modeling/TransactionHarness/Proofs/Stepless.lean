import TransactionHarness.Curl.Machine
import TransactionHarness.Http.Site
import TransactionHarness.Playback
import TransactionHarness.Proofs.Grants
/-!
# Errors without a step

Only a reply that is rejected belongs to a step. Whatever else goes wrong is no fault of a step, and
its error names none: that a request is lost, that no token is given, that a path cannot be used.

* `NamesNoStep`: an outcome that is no error with a step.
* `World.Stepless`: a world whose own errors name no step.
* `Http.stepless_world`, `Curl.stepless_world`: whatever the server or the program does, the worlds
  of the senders are such worlds.
* `AccessToken.namesNoStep_ofReceived`: neither does a missing token blame a step, though the reply
  to a request for one is read by the same parser as the replies to steps.
-/

namespace TransactionHarness

variable {σ α β : Type}

/-- If the outcome is an error, it names no step. -/
def NamesNoStep (r : Except Error α) : Prop := ∀ e, r = .error e → e.step? = none

namespace NamesNoStep

theorem ok (a : α) : NamesNoStep (.ok a) := by
  rintro _ ⟨⟩

theorem error {e : Error} (h : e.step? = none) : NamesNoStep (.error e : Except _ α) :=
  fun _ he ↦ Except.error.inj he ▸ h

/-- An error that is passed on names no more than before. -/
theorem pass {e : Error} {r : Except Error α} (h : NamesNoStep r) (failed : r = .error e) :
    NamesNoStep (.error e : Except _ β) :=
  error (h e failed)

end NamesNoStep

/-! ### Tokens and paths -/

namespace AccessToken

theorem namesNoStep_ofAnswer (text : String) : NamesNoStep (ofAnswer text) := by
  intro e h
  obtain ⟨message, rfl, -⟩ := exists_of_ofAnswer_eq_error h
  rfl

/-- Where there is no token, no step is to blame. -/
theorem namesNoStep_ofReceived {answer : Except Error String} (stepless : NamesNoStep answer) :
    NamesNoStep (ofReceived answer) := by
  rcases answer with e | text
  · exact stepless.pass rfl
  · exact namesNoStep_ofAnswer text

end AccessToken

theorem UploadPath.namesNoStep_fileName (file : UploadPath) : NamesNoStep file.fileName := by
  unfold fileName
  split
  · exact .ok _
  · exact .error rfl

theorem Artifact.namesNoStep_localPath (directory path : String) :
    NamesNoStep (localPath directory path) := by
  have hname : NamesNoStep (fileName path) := by
    unfold fileName
    dsimp only
    split
    · exact .ok _
    · exact .error rfl
  unfold localPath
  split
  · exact .ok _
  · next hfailed => exact hname.pass hfailed

/-! ### Worlds -/

/-- The errors of the world itself name no step. -/
structure World.Stepless (world : World σ) : Prop where
  execute : ∀ request s, NamesNoStep (world.execute request s).1
  download : ∀ request place s, NamesNoStep (world.download request place s).1

namespace Http

theorem namesNoStep_encodeBody (boundary : String) (disk : Disk) (payload : Payload) :
    NamesNoStep (encodeBody boundary disk payload) := by
  unfold encodeBody
  split
  · exact .ok _
  · exact .ok _
  · exact .ok _
  split
  · exact .ok _
  · exact .error rfl

theorem Message.namesNoStep_ofRequest (boundary : String) (disk : Disk) (r : Request) :
    NamesNoStep (Message.ofRequest boundary disk r) := by
  unfold Message.ofRequest
  split
  · next hbody => exact (namesNoStep_encodeBody boundary disk r.body).pass hbody
  dsimp only
  split
  · exact .error rfl
  split
  · exact .ok _
  · exact .error rfl

namespace Site

variable (server : Server σ) (timeout : Span) (boundary : String) (r : Request)

theorem namesNoStep_readReaction (reaction : Reaction) :
    NamesNoStep (readReaction timeout r reaction) := by
  unfold readReaction
  split
  · exact .error rfl
  · exact .error rfl
  split
  · split
    · exact .ok _
    · exact .error rfl
  · exact .error rfl

theorem namesNoStep_readBody (head : Head) (rest : List UInt8) :
    NamesNoStep (readBody head rest) := by
  unfold readBody
  split
  · exact .ok _
  · exact .error rfl

theorem namesNoStep_send (s : Site σ) : NamesNoStep (send server timeout boundary r s).1 := by
  unfold send
  split
  · next hmessage => exact (Message.namesNoStep_ofRequest boundary s.disk r).pass hmessage
  · exact namesNoStep_readReaction timeout r _

theorem namesNoStep_execute (s : Site σ) :
    NamesNoStep (execute server timeout boundary r s).1 := by
  have hsend := namesNoStep_send server timeout boundary r s
  unfold execute
  split
  · next hfailed => exact hsend.pass (congrArg Prod.fst hfailed)
  split
  · exact .ok _
  · next hbody => exact (namesNoStep_readBody _ _).pass hbody

theorem namesNoStep_keep (status : Nat) (place : String) (body : List UInt8) (s : Site σ) :
    NamesNoStep (keep status place body s).1 := by
  unfold keep
  split
  · exact .error rfl
  · exact .ok _

theorem namesNoStep_download (place : String) (s : Site σ) :
    NamesNoStep (download server timeout boundary r place s).1 := by
  have hsend := namesNoStep_send server timeout boundary r s
  unfold download
  split
  · next hfailed => exact hsend.pass (congrArg Prod.fst hfailed)
  split
  · split
    · exact namesNoStep_keep _ _ _ _
    · next hbody => exact (namesNoStep_readBody _ _).pass hbody
  · exact .ok _

end Site

/-- Whatever the server does. -/
theorem stepless_world (server : Server σ) (timeout : Span) (boundary : String) (now : Instant) :
    (world server timeout boundary now).Stepless where
  execute request s := Site.namesNoStep_execute server timeout boundary request s
  download request place s := Site.namesNoStep_download server timeout boundary request place s

end Http

namespace Curl

theorem namesNoStep_bodyFlags (payload : Payload) : NamesNoStep (bodyFlags payload) := by
  unfold bodyFlags
  split
  · exact .ok _
  · exact .ok _
  · exact .ok _
  split
  · exact .ok _
  · exact .error rfl

theorem Invocation.namesNoStep_ofRequest (timeout : Span) (r : Request) :
    NamesNoStep (Invocation.ofRequest timeout r) := by
  unfold Invocation.ofRequest
  split
  · exact .ok _
  · next hflags => exact (namesNoStep_bodyFlags r.body).pass hflags

namespace Machine

variable (program : Program σ) (timeout : Span) (r : Request)

theorem namesNoStep_shownBy (c : Completed) : NamesNoStep (shownBy c) := by
  unfold shownBy
  split
  · exact .ok _
  · exact .error rfl

theorem namesNoStep_run (words : List String) (place? : Option String) (m : Machine σ) :
    NamesNoStep (run program words place? m).1 := by
  unfold run
  split
  · exact .error rfl
  · exact namesNoStep_shownBy _

theorem namesNoStep_execute (m : Machine σ) : NamesNoStep (execute program timeout r m).1 := by
  unfold execute
  split
  · next hinvocation => exact (Invocation.namesNoStep_ofRequest timeout r).pass hinvocation
  split
  · exact .ok _
  · next hfailed => exact (namesNoStep_run program _ none m).pass (congrArg Prod.fst hfailed)

theorem namesNoStep_settle (status : Nat) (place : String) (m : Machine σ) :
    NamesNoStep (settle status place m).1 := by
  unfold settle
  split
  · split
    · exact .ok _
    · exact .error rfl
  · exact .ok _

theorem namesNoStep_download (place : String) (m : Machine σ) :
    NamesNoStep (download program timeout r place m).1 := by
  unfold download
  split
  · exact .error rfl
  split
  · next hfailed =>
    exact (namesNoStep_run program _ (some place) m).pass (congrArg Prod.fst hfailed)
  split
  · exact namesNoStep_settle _ _ _
  · exact .error rfl

end Machine

/-- Whatever the program does. -/
theorem stepless_world (program : Program σ) (timeout : Span) (now : Instant) :
    (world program timeout now).Stepless where
  execute request m := Machine.namesNoStep_execute program timeout request m
  download request place m := Machine.namesNoStep_download program timeout request place m

end Curl

/-- Whatever is played back. -/
theorem Playback.stepless_world (now : Instant) : (Playback.world now).Stepless := by
  have hnext {α : Type} (read : Reply → Except Error α) (hread : ∀ reply, NamesNoStep (read reply))
      (p : Playback) : NamesNoStep (p.next read).1 := by
    unfold next
    split
    · exact .error rfl
    · exact hread _
  have htext (reply : Reply) : NamesNoStep (textOf reply) := by
    cases reply with
    | text => exact .ok _
    | kept | fail => exact .error rfl
  have houtcome (reply : Reply) : NamesNoStep (outcomeOf reply) := by
    cases reply with
    | kept => exact .ok _
    | text | fail => exact .error rfl
  refine ⟨fun request p ↦ ?_, fun _ _ p ↦ hnext outcomeOf houtcome p⟩
  simp only [world, execute]
  split
  · split
    · exact htext _
    · exact hnext textOf htext p
  · exact hnext textOf htext p

end TransactionHarness
