import TransactionHarness.Curl.Playback
import TransactionHarness.Proofs.Storage
/-!
# What failed downloads leave

A body is to be kept with a status of success only. Over HTTP it is written when all of it has
arrived, so a download that fails leaves the disk alone. A program writes while it runs, and whether
it succeeds is known when it has ended. What it has written is removed if it reports another status,
and it is left if it reports none.

* `Http.Site.disk_of_failed`: nothing is left over HTTP.
* `Curl.Completed.report`: the status that a program has reported, or what is said if it has not.
* `Curl.Machine.download_of_ran?`: a download, from what the program has done.
* `Curl.Machine.leaves_iff`: what a program has left.
-/

namespace TransactionHarness

variable {σ : Type}

/-- There is no download: a failure, or a status other than that of success. -/
def Failed (result : Except Error DownloadOutcome) : Prop :=
  ∀ outcome, result = .ok outcome → outcome.isSuccess = false

/-- The status is that of another answer, however many bytes are said to be kept. -/
theorem Failed.not_isSuccess {status bytes : Nat} (failed : Failed (.ok ⟨status, bytes⟩)) :
    ¬ DownloadOutcome.isSuccess ⟨status, 0⟩ = true := fun hgood ↦
  Bool.false_ne_true ((failed ⟨status, bytes⟩ rfl).symm.trans hgood)

/-! ### Over HTTP -/

namespace Http.Site

/-- With a status of success, nothing is kept only if nothing can be written. -/
theorem disk_keep_of_failed {status : Nat} (good : DownloadOutcome.isSuccess ⟨status, 0⟩ = true)
    {place : String} {body : List UInt8} {s : Site σ}
    (failed : Failed (keep status place body s).1) :
    (keep status place body s).2.disk = s.disk := by
  unfold keep at failed ⊢
  split
  · rfl
  · next hfault =>
    rw [hfault] at failed
    exact absurd good failed.not_isSuccess

/-- Over HTTP, a download that fails leaves the disk as it was. -/
theorem disk_of_failed {server : Server σ} {timeout : Span} {boundary : String} {r : Request}
    {place : String} {s : Site σ} (failed : Failed (download server timeout boundary r place s).1) :
    (download server timeout boundary r place s).2.disk = s.disk := by
  rw [← disk_send server timeout boundary r s]
  unfold download at failed ⊢
  generalize send server timeout boundary r s = sent at failed ⊢
  obtain ⟨e | ⟨head, rest⟩, s'⟩ := sent
  · rfl
  dsimp only at failed ⊢
  split
  · next hgood =>
    rw [if_pos hgood] at failed
    generalize readBody head rest = read at failed ⊢
    rcases read with e | body
    · rfl
    · exact disk_keep_of_failed hgood failed
  · rfl

end Http.Site

namespace Curl

/-! ### What a program has done -/

/-- The status that a program has reported for a request: it has come to a good end, and has shown
a number. -/
def Completed.report (url : String) (c : Completed) : Except Error Nat :=
  match Machine.shownBy c with
  | .error e => .error e
  | .ok shown =>
    match Machine.status? shown with
    | some status => .ok status
    | none => .error (.transport ("curl did not report an HTTP status for '" ++ url ++ "'"))

/-- What a program has written at a place. -/
def Completed.fileAt? (place : String) (c : Completed) : Option (List UInt8) :=
  match Disk.writeFault? place with
  | none => c.written?
  | some _ => none

/-- What a program has written at a place is there. -/
def Completed.Leaves (place : String) (disk : Disk) (c : Completed) : Prop :=
  ∃ content, c.fileAt? place = some content ∧ disk.read? place = some content

namespace Machine

variable (program : Program σ) (timeout : Span) (r : Request) (place : String) (m : Machine σ)

/-- What the program has done for a download, if it was started. -/
def ran? : Option Completed :=
  match Disk.directoryFault? place with
  | some _ => none
  | none => (start program (Invocation.ofDownload timeout r place).arguments m).1.toOption

variable {program timeout r place m}

theorem read?_keep_self (m : Machine σ) (c : Completed) :
    (m.keep (some place) c.written?).disk.read? place =
      (c.fileAt? place).or (m.disk.read? place) := by
  rcases hfault : Disk.writeFault? place with - | reason
  · rcases hwritten : c.written? with - | content
    · simp [keep, Completed.fileAt?, hfault, hwritten]
    · simp only [keep, Completed.fileAt?, hfault, hwritten, Option.some_or]
      exact Disk.read?_write_self content hfault
  · have hnothing : (m.keep (some place) c.written?).disk.read? place = m.disk.read? place := by
      rcases c.written? with - | content
      · rfl
      · simp only [keep, Disk.write, hfault]
    simpa [Completed.fileAt?, hfault] using hnothing

/-- A program that is not started leaves the disk as it was. -/
theorem disk_of_not_ran (hran : ran? program timeout r place m = none) :
    (download program timeout r place m).2.disk = m.disk := by
  have hstart := disk_start program (Invocation.ofDownload timeout r place).arguments m
  unfold ran? at hran
  unfold download
  split
  · rfl
  · next hdirectory =>
    simp only [hdirectory] at hran
    rcases hstarted : start program (Invocation.ofDownload timeout r place).arguments m with
      ⟨reason | c, m₁⟩
    · rw [hstarted] at hstart
      simpa only [run, hstarted] using hstart
    · rw [hstarted] at hran
      cases hran

/-- A download, from what the program has done: it is settled by the status that was reported. -/
theorem download_of_ran? {c : Completed} (hran : ran? program timeout r place m = some c) :
    ∃ m₁ : Machine σ, m₁.disk = m.disk ∧ download program timeout r place m =
      match c.report r.url with
      | .ok status => settle status place (m₁.keep (some place) c.written?)
      | .error e => (.error e, m₁.keep (some place) c.written?) := by
  have hstart := disk_start program (Invocation.ofDownload timeout r place).arguments m
  unfold ran? at hran
  split at hran
  · cases hran
  next hdirectory =>
  rcases hstarted : start program (Invocation.ofDownload timeout r place).arguments m with
    ⟨reason | c', m₁⟩
  · rw [hstarted] at hran
    cases hran
  · rw [hstarted] at hran hstart
    obtain rfl : c' = c := Option.some.inj hran
    refine ⟨m₁, hstart, ?_⟩
    simp only [download, hdirectory, run, hstarted, Completed.report]
    rcases hshown : shownBy c' with e | shown
    · rfl
    · rcases hstatus : status? shown with - | status <;> simp only [hstatus]

/-- Without success a status is settled in two ways: it is another one, and then nothing is kept, or
there is no file. -/
theorem settle_of_failed {status : Nat} (failed : Failed (settle status place m).1) :
    (settle status place m).2.disk.read? place = none ∨
      (settle status place m).2 = m ∧ ∃ reason, m.disk.content place = .error reason := by
  unfold settle at failed ⊢
  split
  · next hgood =>
    rw [if_pos hgood] at failed
    rcases hcontent : m.disk.content place with reason | content
    · exact .inr ⟨rfl, reason, rfl⟩
    · rw [hcontent] at failed
      exact absurd hgood failed.not_isSuccess
  · exact .inl (Disk.read?_remove_self m.disk place)

theorem read?_settle_of_ne {status : Nat} {other : String} (hne : other ≠ place) :
    (settle status place m).2.disk.read? other = m.disk.read? other := by
  unfold settle
  split
  · split <;> rfl
  · exact Disk.read?_remove_of_ne hne

/-- If there is no file, nothing has been written. -/
theorem fileAt?_of_content {c : Completed} {reason : String}
    (missing : (m.keep (some place) c.written?).disk.content place = .error reason) :
    c.fileAt? place = none := by
  unfold Disk.content at missing
  split at missing
  · next hfault => simp only [Completed.fileAt?, Disk.writeFault?, hfault]
  · split at missing
    · cases missing
    · next hread =>
      rw [read?_keep_self, Option.or_eq_none_iff] at hread
      exact hread.1

/-! ### What is left -/

theorem read?_download_of_ne {other : String} (hne : other ≠ place) :
    (download program timeout r place m).2.disk.read? other = m.disk.read? other := by
  rcases hran : ran? program timeout r place m with - | c
  · rw [disk_of_not_ran hran]
  · obtain ⟨m₁, hdisk, hdownload⟩ := download_of_ran? hran
    have hkeep : (m₁.keep (some place) c.written?).disk.read? other = m.disk.read? other := by
      rw [m₁.read?_keep (fun heq ↦ hne (Option.some.inj heq).symm), hdisk]
    rw [hdownload]
    split
    · rw [read?_settle_of_ne hne, hkeep]
    · exact hkeep

/-- **What a failed download leaves.** Whatever a program does, a download without success changes
the file at its place only, and that only if the program was started. What the program has written
there is left exactly if it has not reported a status: it has come to a bad end, or what it has
shown is no number. This is then what is said of the download. -/
theorem leaves_iff {m' : Machine σ} {result : Except Error DownloadOutcome}
    (answer : download program timeout r place m = (result, m')) (failed : Failed result) :
    (∀ other, other ≠ place → m'.disk.read? other = m.disk.read? other) ∧
    (ran? program timeout r place m = none → m'.disk = m.disk) ∧
    ∀ c, ran? program timeout r place m = some c →
      (c.Leaves place m'.disk ↔
        (c.fileAt? place).isSome = true ∧ ∃ e, c.report r.url = .error e) ∧
      ∀ e, c.report r.url = .error e →
        result = .error e ∧ m'.disk.read? place = (c.fileAt? place).or (m.disk.read? place) := by
  obtain rfl : (download program timeout r place m).1 = result := congrArg Prod.fst answer
  obtain rfl : (download program timeout r place m).2 = m' := congrArg Prod.snd answer
  refine ⟨fun _ ↦ read?_download_of_ne, disk_of_not_ran, fun c hran ↦ ?_⟩
  obtain ⟨m₁, hdisk, hdownload⟩ := download_of_ran? hran
  have hkeep : (m₁.keep (some place) c.written?).disk.read? place =
      (c.fileAt? place).or (m.disk.read? place) := hdisk ▸ m₁.read?_keep_self c
  rw [hdownload] at failed ⊢
  rcases hreport : c.report r.url with e | status
  · refine ⟨⟨?_, ?_⟩, ?_⟩
    · rintro ⟨content, hfile, -⟩
      exact ⟨Option.isSome_iff_exists.2 ⟨content, hfile⟩, e, rfl⟩
    · rintro ⟨hfile, -⟩
      obtain ⟨content, hfile⟩ := Option.isSome_iff_exists.1 hfile
      rw [hfile] at hkeep
      exact ⟨content, hfile, hkeep⟩
    · rintro _ ⟨⟩
      exact ⟨rfl, hkeep⟩
  · rw [hreport] at failed
    refine ⟨iff_of_false ?_ nofun, nofun⟩
    rintro ⟨content, hfile, hread⟩
    rcases settle_of_failed failed with hnone | ⟨-, reason, hmissing⟩
    · cases hread.symm.trans hnone
    · cases hfile.symm.trans (fileAt?_of_content hmissing)

/-! ### A transfer that is cut off -/

/-- The connection is lost behind the first bytes of a file. -/
def cut : Completed where
  ending := .exited 18
  shown := Http.bytes "200"
  written? := some (Http.bytes "PART")

/-- The machine on which the file is asked for. -/
def onCut : Machine Recording := ⟨⟨[cut], []⟩, {}⟩

theorem ran?_cut :
    ran? Recording.program ⟨60, 0⟩ (Request.get "http://h/d") "f" onCut = some cut := by
  decide +kernel

theorem failed_cut :
    Failed (download Recording.program ⟨60, 0⟩ (Request.get "http://h/d") "f" onCut).1 := by
  obtain ⟨m₁, -, hdownload⟩ := download_of_ran? ran?_cut
  rw [hdownload]
  exact nofun

theorem leaves_iff_cut :
    Failed (download Recording.program ⟨60, 0⟩ (Request.get "http://h/d") "f" onCut).1 ∧
      cut.Leaves "f"
        (download Recording.program ⟨60, 0⟩ (Request.get "http://h/d") "f" onCut).2.disk := by
  obtain ⟨-, -, hleaves⟩ := leaves_iff (Prod.eta _).symm failed_cut
  obtain ⟨hiff, -⟩ := hleaves cut ran?_cut
  exact ⟨failed_cut, hiff.2 ⟨by decide +kernel, _, rfl⟩⟩

/-- The first bytes are left where there was no file, and the download has failed. -/
theorem left_of_cut :
    ∃ (result : Except Error DownloadOutcome) (m' : Machine Recording),
      download Recording.program ⟨60, 0⟩ (Request.get "http://h/d") "f" onCut = (result, m') ∧
      Failed result ∧ onCut.disk.read? "f" = none ∧ cut.written? = some (Http.bytes "PART") ∧
      m'.disk.read? "f" = some (Http.bytes "PART") := by
  obtain ⟨m₁, hdisk, hdownload⟩ := download_of_ran? ran?_cut
  refine ⟨_, _, (Prod.eta _).symm, failed_cut, rfl, rfl, ?_⟩
  have hfile : cut.fileAt? "f" = some (Http.bytes "PART") := by decide +kernel
  rw [hdownload]
  show (m₁.keep (some "f") cut.written?).disk.read? "f" = _
  rw [m₁.read?_keep_self cut, hfile, Option.some_or]

end Machine

end Curl

end TransactionHarness
