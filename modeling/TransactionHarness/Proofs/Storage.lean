import Mathlib.Logic.Function.Basic
import TransactionHarness.Curl.Machine
import TransactionHarness.Http.Site
import TransactionHarness.Proofs.Confinement
import TransactionHarness.Proofs.Report
/-!
# Files that were downloaded

A download is kept under the name at the end of its path, so two downloads go to the same place
exactly if their paths end in the same name. The later one replaces the earlier one there, and all
others are found on the disk as they are recorded.

* `World.Stores`: a world that writes the body of each successful download to its place, and no
  other file. Both senders make such a world (`Http.stores_world`, `Curl.stores_world`), and so does
  a journal (`World.stores_journaled`).
* `Holds`: the files that recorded downloads have left.
* `Config.Drives.holds`: a course without a failure leaves them.
* `Context.files_of_runScenario`: what a report says about the disk.
-/

namespace TransactionHarness

variable {σ : Type}

/-! ### Worlds with files -/

/-- The files of a world. -/
abbrev Files : Type := String → Option (List UInt8)

/-- The world writes a file for each successful download: at its place, and with as many bytes as
the download is said to have. Nothing else that a run asks for changes a file. -/
structure World.Stores (world : World σ) (files : σ → Files) : Prop where
  execute (request : Request) (s : σ) : files (world.execute request s).2 = files s
  now (s : σ) : files (world.now s).2 = files s
  download {request : Request} {place : String} {s t : σ} {outcome : DownloadOutcome}
    (answer : world.download request place s = (.ok outcome, t))
    (success : outcome.isSuccess = true) :
    ∃ content, files t = Function.update (files s) place (some content) ∧
      content.length = outcome.bytes

namespace Http.Site

variable (server : Server σ) (timeout : Span) (boundary : String)

theorem disk_send (r : Request) (s : Site σ) :
    (send server timeout boundary r s).2.disk = s.disk := by
  unfold send
  split <;> rfl

theorem disk_execute (r : Request) (s : Site σ) :
    (execute server timeout boundary r s).2.disk = s.disk := by
  have hsend := disk_send server timeout boundary r s
  unfold execute
  split
  · next hfailed => rwa [hfailed] at hsend
  · next hsent =>
    rw [hsent] at hsend
    split <;> exact hsend

/-- Only a success writes, and it writes what has arrived. -/
theorem disk_download {r : Request} {place : String} {s t : Site σ} {outcome : DownloadOutcome}
    (answer : download server timeout boundary r place s = (.ok outcome, t))
    (success : outcome.isSuccess = true) :
    ∃ body, Disk.writeFault? place = none ∧ t.disk = s.disk.write place body ∧
      body.length = outcome.bytes := by
  have hsend := disk_send server timeout boundary r s
  unfold download at answer
  split at answer
  · cases answer
  next head rest s' hsent =>
  rw [hsent] at hsend
  split at answer
  · split at answer
    · next body _ =>
      unfold keep at answer
      split at answer
      · cases answer
      · next hfault =>
        have hwritable : Disk.writeFault? place = none := by
          rcases hdirectory : Disk.directoryFault? place with - | reason
          · rwa [hdirectory] at hfault
          · rw [hdirectory] at hfault
            cases hfault
        cases answer
        exact ⟨body, hwritable, congrArg (Disk.write · place body) hsend, rfl⟩
    · cases answer
  · next hfailure =>
    cases answer
    exact absurd success hfailure

end Http.Site

/-- Over HTTP, files are written for successful downloads. -/
theorem Http.stores_world (server : Server σ) (timeout : Span) (boundary : String)
    (now : Instant) : (Http.world server timeout boundary now).Stores fun s ↦ s.disk.read? where
  execute r s := congrArg Disk.read? (Site.disk_execute server timeout boundary r s)
  now _ := rfl
  download answer success := by
    obtain ⟨body, hwritable, hdisk, hlength⟩ :=
      Site.disk_download server timeout boundary answer success
    refine ⟨body, Function.eq_update_iff.2 ?_, hlength⟩
    rw [hdisk]
    exact ⟨Disk.read?_write_self body hwritable, fun _ hne ↦ Disk.read?_write_of_ne body hne⟩

namespace Curl.Machine

variable (program : Program σ)

theorem disk_start (words : List String) (m : Machine σ) :
    (start program words m).2.disk = m.disk := by
  unfold start
  split <;> rfl

theorem read?_keep (m : Machine σ) {place? : Option String} {other : String}
    (elsewhere : place? ≠ some other) (written? : Option (List UInt8)) :
    (m.keep place? written?).disk.read? other = m.disk.read? other := by
  unfold keep
  split
  · next place content =>
    have hne : other ≠ place := fun heq ↦ elsewhere (heq ▸ rfl)
    exact Disk.read?_write_of_ne content hne
  · rfl

/-- What a program writes goes to the place it was given, if it was given one. -/
theorem read?_run (words : List String) (m : Machine σ) {place? : Option String} {other : String}
    (elsewhere : place? ≠ some other) :
    (run program words place? m).2.disk.read? other = m.disk.read? other := by
  have hstart := disk_start program words m
  unfold run
  split
  · next hfailed =>
    rw [hfailed] at hstart
    exact congrArg (Disk.read? · other) hstart
  · next c m' hstarted =>
    rw [hstarted] at hstart
    exact (m'.read?_keep elsewhere c.written?).trans (congrArg (Disk.read? · other) hstart)

theorem read?_execute (timeout : Span) (r : Request) (m : Machine σ) :
    (execute program timeout r m).2.disk.read? = m.disk.read? := by
  funext other
  unfold execute
  split
  · rfl
  · next invocation _ =>
    have hrun := read?_run program invocation.arguments m (show none ≠ some other from nofun)
    split
    · next hshown => rwa [hshown] at hrun
    · next hfailed => rwa [hfailed] at hrun

/-- A success is told when the file is there, and with its size. -/
theorem read?_settle {status : Nat} {place : String} {m m' : Machine σ}
    {outcome : DownloadOutcome} (answer : settle status place m = (.ok outcome, m'))
    (success : outcome.isSuccess = true) :
    m' = m ∧ ∃ content, m.disk.read? place = some content ∧ content.length = outcome.bytes := by
  unfold settle at answer
  split at answer
  · split at answer
    · next content hcontent =>
      cases answer
      refine ⟨rfl, content, ?_, rfl⟩
      unfold Disk.content at hcontent
      split at hcontent
      · cases hcontent
      split at hcontent
      · next found => exact found.trans (congrArg some (Except.ok.inj hcontent))
      · cases hcontent
    · cases answer
  · next hfailure =>
    cases answer
    exact absurd success hfailure

theorem read?_download {timeout : Span} {r : Request} {place : String} {m m' : Machine σ}
    {outcome : DownloadOutcome} (answer : download program timeout r place m = (.ok outcome, m'))
    (success : outcome.isSuccess = true) :
    ∃ content, m'.disk.read? = Function.update m.disk.read? place (some content) ∧
      content.length = outcome.bytes := by
  unfold download at answer
  split at answer
  · cases answer
  have hrun (other : String) (hne : other ≠ place) :=
    read?_run program (Invocation.ofDownload timeout r place).arguments m
      (show some place ≠ some other from fun heq ↦ hne (Option.some.inj heq).symm)
  split at answer
  · cases answer
  next shown m'' hshown =>
  rw [hshown] at hrun
  split at answer
  · obtain ⟨rfl, content, hcontent, hlength⟩ := read?_settle answer success
    exact ⟨content, Function.eq_update_iff.2 ⟨hcontent, hrun⟩, hlength⟩
  · cases answer

end Curl.Machine

/-- A program that is told to download a file writes there, and it is the file that is measured. -/
theorem Curl.stores_world (program : Curl.Program σ) (timeout : Span) (now : Instant) :
    (Curl.world program timeout now).Stores fun m ↦ m.disk.read? where
  execute := Machine.read?_execute program timeout
  now _ := rfl
  download answer success := Machine.read?_download program answer success

/-! ### Files of recorded downloads -/

/-- The last download to each place has left a file there, with as many bytes as are recorded. -/
def Holds (files : Files) (downloads : List Download) : Prop :=
  ∀ before d after, downloads = before ++ d :: after →
    (∀ e ∈ after, e.localPath ≠ d.localPath) →
    ∃ content, files d.localPath = some content ∧ content.length = d.bytes

theorem holds_nil (files : Files) : Holds files [] := by
  intro before d after hsplit
  exact absurd hsplit.symm (by simp)

/-- A download leaves its file, and those of other places. -/
theorem Holds.concat {files : Files} {downloads : List Download} {d : Download}
    {content : List UInt8} (holds : Holds files downloads) (hlength : content.length = d.bytes) :
    Holds (Function.update files d.localPath (some content)) (downloads ++ [d]) := by
  intro before e after hsplit hlast
  rcases List.eq_nil_or_concat' after with rfl | ⟨after, d', rfl⟩
  · obtain ⟨-, hd⟩ := List.append_inj' hsplit rfl
    obtain rfl : d = e := (List.cons.inj hd).1
    exact ⟨content, Function.update_self .., hlength⟩
  · have hsplit' : downloads ++ [d] = (before ++ e :: after) ++ [d'] := by simpa using hsplit
    obtain ⟨hbefore, hd⟩ := List.append_inj' hsplit' rfl
    obtain rfl : d = d' := (List.cons.inj hd).1
    have hne : e.localPath ≠ d.localPath := (hlast d (by simp)).symm
    rw [Function.update_of_ne hne]
    exact holds before e after hbefore fun f hf ↦ hlast f (List.mem_append_left _ hf)

/-- Without downloads the files stay as they are. -/
theorem World.Stores.eq_of_not_fetched {world : World σ} {files : σ → Files}
    (stores : world.Stores files) {h : List Event} {s t : σ} (answers : world.Answers s h t)
    (unfetched : ∀ request place answer, .fetched request place answer ∉ h) :
    files t = files s := by
  induction h generalizing s with
  | nil =>
    have hsame : t = s := answers
    rw [hsame]
  | cons e h ih =>
    obtain ⟨u, hreacts, hrest⟩ := answers
    have hlater := ih hrest fun request place answer hmem ↦
      unfetched request place answer (List.mem_cons_of_mem _ hmem)
    rw [hlater]
    cases e with
    | answered request answer =>
      have hworld : world.execute request s = (answer, u) := hreacts
      have hfiles := stores.execute request s
      rwa [hworld] at hfiles
    | fetched request place answer => exact absurd List.mem_cons_self (unfetched _ _ _)
    | clock now =>
      have hworld : world.now s = (now, u) := hreacts
      have hfiles := stores.now s
      rwa [hworld] at hfiles

/-- Only downloads are recorded as downloads. -/
theorem Lifecycle.Advances.downloads_eq {cfg : Config} {l l' : Lifecycle} {command : Command}
    (advances : l.Advances cfg command l') (other : command ≠ .downloadAll) :
    l'.record.downloads = l.record.downloads := by
  cases advances with
  | downloadAll => exact absurd rfl other
  | begin | checkStatus | dump | load | finish => rfl

namespace Config

variable {cfg : Config} {world : World σ} {files : σ → Files} {h : List Event} {s t : σ}

/-- Downloads that succeed leave their files. -/
theorem Fetches.holds {token : String} {l : Lifecycle} {paths : List String}
    {r : Except Error Lifecycle} (fetches : cfg.Fetches token l paths h r)
    (stores : world.Stores files) {l' : Lifecycle} (success : r = .ok l')
    (answers : world.Answers s h t) (holds : Holds (files s) l.record.downloads) :
    Holds (files t) l'.record.downloads := by
  induction fetches generalizing s with
  | done l =>
    obtain rfl : t = s := answers
    exact Except.ok.inj success ▸ holds
  | unnamed | failed | refused => cases success
  | @next l path place _ outcome _ _ named good _ ih =>
    obtain ⟨u, hreacts, hrest⟩ := answers
    obtain ⟨content, hfiles, hlength⟩ := stores.download hreacts good
    refine ih success hrest ?_
    rw [hfiles]
    exact holds.concat (d := ⟨path, place, outcome.bytes⟩) hlength

/-- So does a command that succeeds. -/
theorem Performs.holds {l l' : Lifecycle} {kept kept' : Option AccessToken} {command : Command}
    (performs : cfg.Performs l kept command h (.ok l') kept') (stores : world.Stores files)
    (answers : world.Answers s h t) (holds : Holds (files s) l.record.downloads) :
    Holds (files t) l'.record.downloads := by
  cases performs with
  | call sends calls =>
    have hother : command ≠ .downloadAll := by
      rintro rfl
      cases sends
    rw [(Performs.call sends calls).advances.downloads_eq hother,
      stores.eq_of_not_fetched answers fun _ _ _ ↦ calls.not_fetched]
    exact holds
  | downloads _ obtains fetches outcome =>
    obtain ⟨l'', rfl, rfl⟩ := map_eq_ok_iff.1 outcome
    obtain ⟨u, htoken, hfetches⟩ := World.answers_append_iff.1 answers
    have hu := stores.eq_of_not_fetched htoken fun _ _ _ ↦ obtains.not_fetched
    have hfetched : Holds (files t) l''.record.downloads :=
      fetches.holds stores rfl hfetches (hu ▸ holds)
    exact hfetched

theorem Drives.holds {l : Lifecycle} {kept kept' : Option AccessToken} {commands : List Command}
    {r : Except Error Lifecycle} (drives : cfg.Drives l kept commands h r kept')
    (stores : world.Stores files) {l' : Lifecycle} (success : r = .ok l')
    (answers : world.Answers s h t) (holds : Holds (files s) l.record.downloads) :
    Holds (files t) l'.record.downloads := by
  induction drives generalizing s with
  | done l =>
    obtain rfl : t = s := answers
    exact Except.ok.inj success ▸ holds
  | refused | failed => cases success
  | next performs _ ih =>
    obtain ⟨u, hfirst, hrest⟩ := World.answers_append_iff.1 answers
    exact ih success hrest (performs.holds stores hfirst holds)

end Config

/-! ### Names and places -/

/-- The paths of the two downloads end in the same name. -/
def Download.SameName (d e : Download) : Prop :=
  ∃ name, Artifact.EndsIn name d.serverPath.toList ∧ Artifact.EndsIn name e.serverPath.toList

/-- Downloads are at the same place exactly if their paths end in the same name. -/
theorem Download.localPath_eq_iff {directory : String} {d e : Download}
    (hd : Artifact.localPath directory d.serverPath = .ok d.localPath)
    (he : Artifact.localPath directory e.serverPath = .ok e.localPath) :
    d.localPath = e.localPath ↔ d.SameName e := by
  obtain ⟨name, hfile, hends, hplace⟩ := Artifact.localPath_eq_ok_iff.1 hd
  obtain ⟨name', hfile', hends', hplace'⟩ := Artifact.localPath_eq_ok_iff.1 he
  constructor
  · intro hsame
    rw [hplace, hplace', String.ofList_inj] at hsame
    obtain rfl : name = name' := Path.join_inj hfile hfile' hsame
    exact ⟨name, hends, hends'⟩
  · rintro ⟨shared, hshared, hshared'⟩
    have hname : name = name' := calc
      name = Artifact.lastSegment d.serverPath.toList := hends.lastSegment_eq.symm
      _ = shared := hshared.lastSegment_eq
      _ = Artifact.lastSegment e.serverPath.toList := hshared'.lastSegment_eq.symm
      _ = name' := hends'.lastSegment_eq
    rw [hplace, hplace', hname]

/-- The downloads of a report are on the disk, as far as no later one has gone to the same place. -/
theorem Context.holds_of_runScenario {ctx : Context σ} {scenario : Scenario} {x y : Exchange σ}
    {report : Report} (reported : ctx.runScenario scenario x = .ok report y) {files : σ → Files}
    (stores : ctx.world.Stores files) : Holds (files y.world) report.record.downloads := by
  obtain ⟨h, r, z, hgives, hcourse⟩ := ctx.exists_gives_runScenario scenario x
  obtain ⟨rfl, rfl⟩ := hgives.outcome_eq (Action.attempt_eq_ok_iff.2 reported)
  rcases hcourse with ⟨e, -, -, hfailed⟩ | ⟨-, r', hreport, hdrives⟩
  · cases hfailed
  obtain ⟨l, rfl, hl⟩ := bind_eq_ok_iff.1 hreport.symm
  obtain ⟨how, id, final, -, -, -, rfl⟩ := Lifecycle.eq_of_report hl
  exact hdrives.holds stores rfl hgives.answers (holds_nil _)

/-! ### A name that is used twice -/

/-- What an event does to files: a download writes one that is full of zeros. -/
def Event.store (files : Files) : Event → Files
  | fetched _ place (.ok outcome) =>
    Function.update files place (some (List.replicate outcome.bytes 0))
  | _ => files

/-- The files that a history has left. -/
def filesIn (h : List Event) : Files := h.foldl Event.store fun _ ↦ none

/-- A journal has the files of the downloads in it. -/
theorem World.stores_journaled (world : World σ) :
    world.journaled.Stores fun s ↦ filesIn s.2 where
  execute request s := by simp [World.journaled, filesIn, Event.store]
  now s := by simp [World.journaled, filesIn, Event.store]
  download {request place s t outcome} answer success := by
    refine ⟨List.replicate outcome.bytes 0, ?_, List.length_replicate⟩
    have hjournal : t.2 = s.2 ++ [.fetched request place (.ok outcome)] :=
      (journal_of_reacts (e := .fetched request place (.ok outcome)) answer).2
    rw [hjournal]
    simp [filesIn, Event.store]

namespace Rehearsal

/-- A reply to a dump with two paths that end in the same name. -/
def clashText : String :=
  success ("\x7b\"transactionId\":\"T\",\"table\":\"t\"," ++
    "\"format\":\"csv\",\"downloadPathList\":[\"a/x\",\"b/x\"]\x7d")

def clashed : DumpResult := ⟨"T", "t", .csv, ["a/x", "b/x"]⟩

def replaced : Download := ⟨"a/x", "fs/dl/x", 1⟩

def replacing : Download := ⟨"b/x", "fs/dl/x", 2⟩

theorem receive_clash : (Contract.dump "T" "t" .csv).receive DumpResult.ofJson (.dump .csv)
    clashText = .ok clashed :=
  Contract.receive_of_read (toList_success _ _) (by decide +kernel)

/-- The scenario is carried out with both paths, in a world with files. -/
theorem exists_clash : ∃ (x y : Exchange (List Event × List Event)) (report : Report),
    Context.runScenario ⟨{}, World.replay.journaled⟩ scenario x = .ok report y ∧
      report.record.downloads = [replaced, replacing] := by
  have hfetches : ({} : Config).Fetches token.accessToken (statusChecked.afterDump "T" clashed)
      ["a/x", "b/x"] _
      (.ok (((statusChecked.afterDump "T" clashed).afterFetch replaced).afterFetch replacing)) :=
    .next rfl (show DownloadOutcome.isSuccess ⟨200, 1⟩ = true from rfl)
      (.next rfl (show DownloadOutcome.isSuccess ⟨200, 2⟩ = true from rfl) (.done _))
  obtain ⟨h, hdrives⟩ := exists_drives_of_fetches receive_clash hfetches rfl
  have hplays : Context.Plays ⟨{}, World.replay.journaled⟩ (Context.runScenario _ scenario) none h
      _ _ := hdrives.plays_runScenario rfl
  have hreplay := World.answers_replay h []
  rw [List.append_nil] at hreplay
  obtain ⟨y, hgives, -⟩ := hplays (.start (h, [])) _ (hreplay.journaled []) rfl
  exact ⟨_, y, _, hgives.apply_eq_ok, rfl⟩

end Rehearsal

/-! ### Files of reports -/

/-- **Files of a report.** In the report of a run, two downloads have the same place exactly if
their paths end in the same name. In a world with files, the file of each download that no later one
shares the name with is there in the end, with as many bytes as are recorded. -/
theorem Context.files_of_runScenario {ctx : Context σ} {scenario : Scenario} {x y : Exchange σ}
    {report : Report} (reported : ctx.runScenario scenario x = .ok report y) :
    (∀ d ∈ report.record.downloads, ∀ e ∈ report.record.downloads,
      d.localPath = e.localPath ↔ d.SameName e) ∧
    ∀ files : σ → Files, ctx.world.Stores files →
      ∀ before d after, report.record.downloads = before ++ d :: after →
        (∀ e ∈ after, ¬ d.SameName e) →
        ∃ content, files y.world d.localPath = some content ∧ content.length = d.bytes := by
  obtain ⟨l, harrives, hl⟩ := arrives_of_runScenario reported
  obtain ⟨how, id, final, -, -, -, rfl⟩ := Lifecycle.eq_of_report hl
  have hne : scenario.commands ≠ [] := by simp [Scenario.commands]
  obtain ⟨id', hmirrors⟩ := harrives.mirrors.resolve_left fun h ↦ hne h.1
  have hsame : ∀ d ∈ l.record.downloads, ∀ e ∈ l.record.downloads,
      d.localPath = e.localPath ↔ d.SameName e :=
    fun d hd e he ↦ Download.localPath_eq_iff (hmirrors.places d hd) (hmirrors.places e he)
  refine ⟨hsame, fun files stores before d after hsplit hlast ↦ ?_⟩
  have hholds := holds_of_runScenario reported stores
  refine hholds before d after hsplit fun e he hplace ↦ hlast e he ?_
  have hd : d ∈ l.record.downloads := hsplit ▸ List.mem_append_right _ List.mem_cons_self
  have he' : e ∈ l.record.downloads :=
    hsplit ▸ List.mem_append_right _ (List.mem_cons_of_mem _ he)
  exact (hsame d hd e he').1 hplace.symm

theorem Context.files_of_clash : ∃ (x y : Exchange (List Event × List Event)) (report : Report)
    (content : List UInt8),
    runScenario ⟨{}, World.replay.journaled⟩ Rehearsal.scenario x = .ok report y ∧
      report.record.downloads = [Rehearsal.replaced, Rehearsal.replacing] ∧
      Rehearsal.replaced.SameName Rehearsal.replacing ∧
      filesIn y.world.2 "fs/dl/x" = some content ∧ content.length = 2 := by
  obtain ⟨x, y, report, hrun, hdownloads⟩ := Rehearsal.exists_clash
  obtain ⟨hsame, hfiles⟩ := files_of_runScenario hrun
  have hstores := World.stores_journaled World.replay
  obtain ⟨content, hcontent, hlength⟩ := hfiles _ hstores [Rehearsal.replaced]
    Rehearsal.replacing [] hdownloads (by simp)
  have hname := (hsame Rehearsal.replaced (by simp [hdownloads]) Rehearsal.replacing
    (by simp [hdownloads])).1 rfl
  exact ⟨x, y, report, content, hrun, hdownloads, hname, hcontent, hlength⟩

/-- A download replaces an earlier one of another path: its file is not as it was recorded. -/
theorem Context.replaced_of_clash : ∃ (world : World (List Event × List Event))
    (files : List Event × List Event → Files) (x y : Exchange (List Event × List Event))
    (report : Report), world.Stores files ∧
      runScenario ⟨{}, world⟩ Rehearsal.scenario x = .ok report y ∧
      ∃ d ∈ report.record.downloads, ∃ e ∈ report.record.downloads,
        d.serverPath ≠ e.serverPath ∧ d.localPath = e.localPath ∧
        ∀ content, files y.world d.localPath = some content → content.length ≠ d.bytes := by
  obtain ⟨x, y, report, hrun, hdownloads⟩ := Rehearsal.exists_clash
  have hstores := World.stores_journaled World.replay
  obtain ⟨content, hcontent, hlength⟩ := holds_of_runScenario hrun hstores
    [Rehearsal.replaced] Rehearsal.replacing [] hdownloads (by simp)
  refine ⟨_, _, x, y, report, hstores, hrun, Rehearsal.replaced, by simp [hdownloads],
    Rehearsal.replacing, by simp [hdownloads], by decide, rfl, fun content' hcontent' hlength' ↦ ?_⟩
  -- the file is the one that the later download has left
  have hsame : content' = content := Option.some.inj (hcontent'.symm.trans hcontent)
  rw [hsame, hlength] at hlength'
  exact absurd hlength' (by decide)

end TransactionHarness
