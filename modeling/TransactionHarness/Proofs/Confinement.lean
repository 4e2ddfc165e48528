import TransactionHarness.Proofs.Places
import TransactionHarness.Proofs.Replay
/-!
# Confinement of downloads

The service chooses which files a run downloads. It does not choose where they are kept: every
place is a name directly in the download directory.

* `Config.Keeps`: a request for a file, and its place in the directory.
* `Config.Fetches.keeps`, `Config.Performs.keeps`, `Config.Drives.keeps`: there are no other
  downloads in a course.
* `Config.Fetches.of_nameless`: nothing is asked for behind a path that names no file.
* `Context.downloads_confined`: both, for a command and for a whole run.
-/

namespace TransactionHarness

variable {σ α : Type}

/-- The request of a download. -/
def Sent.download? : Sent → Option Request
  | execute _ => none
  | download request _ => some request

/-- The requests of the downloads in a log. -/
def downloadsIn (sent : List Sent) : List Request := sent.filterMap Sent.download?

theorem downloadsIn_append (sent sent' : List Sent) :
    downloadsIn (sent ++ sent') = downloadsIn sent ++ downloadsIn sent' :=
  List.filterMap_append

theorem exists_fetched_of_mem_sentIn {h : List Event} {request : Request} {place : String}
    (mem : .download request place ∈ sentIn h) :
    ∃ answer, .fetched request place answer ∈ h := by
  obtain ⟨e, he, hsent⟩ := List.mem_filterMap.1 mem
  cases e with
  | fetched request place answer =>
    cases hsent
    exact ⟨answer, he⟩
  | answered | clock => cases hsent

namespace Config

/-- The request asks for the file behind a path, and the place is in the download directory itself,
under the name at the end of that path. -/
inductive Keeps (cfg : Config) : Request → String → Prop where
  | intro {token path place : String} {name : List Char} (isFileName : Artifact.IsFileName name)
      (endsIn : Artifact.EndsIn name path.toList)
      (joined : place.toList = Path.join cfg.downloadDir.toList name)
      (parent : Path.parent? place.toList = some (Path.components cfg.downloadDir.toList)) :
      Keeps cfg (cfg.fetchRequest token path) place

variable {cfg : Config} {kept kept' : Option AccessToken} {h : List Event} {request : Request}
  {place : String} {answer : Except Error DownloadOutcome}

theorem keeps_of_localPath {path : String} (token : String)
    (h : Artifact.localPath cfg.downloadDir path = .ok place) :
    cfg.Keeps (cfg.fetchRequest token path) place := by
  obtain ⟨name, hfile, hend, rfl⟩ := Artifact.localPath_eq_ok_iff.1 h
  have hjoined : (String.ofList (Path.join cfg.downloadDir.toList name)).toList =
      Path.join cfg.downloadDir.toList name := String.toList_ofList
  refine .intro hfile hend hjoined ?_
  rw [hjoined, Path.parent?_join hfile]

/-! ### Downloads in a course -/

/-- Nothing is downloaded to obtain a token. -/
theorem Obtains.not_fetched {r : Except Error AccessToken} (obtains : cfg.Obtains kept h r kept') :
    .fetched request place answer ∉ h := by
  cases obtains <;> simp

theorem Calls.not_fetched {asked : Request} {receive : String → Except Error α}
    {r : Except Error α} (calls : cfg.Calls kept asked receive h r kept') :
    .fetched request place answer ∉ h := by
  cases calls with
  | noToken obtains => exact obtains.not_fetched
  | answered obtains => simp [obtains.not_fetched]

/-- Each download is that of a path, to the place of the path. -/
theorem Fetches.keeps {token : String} {l : Lifecycle} {paths : List String}
    {r : Except Error Lifecycle} (fetches : cfg.Fetches token l paths h r)
    (mem : .fetched request place answer ∈ h) : cfg.Keeps request place := by
  induction fetches with
  | done | unnamed => exact absurd mem List.not_mem_nil
  | failed named | refused named =>
    cases List.mem_singleton.1 mem
    exact keeps_of_localPath token named
  | next named _ _ ih =>
    rcases List.mem_cons.1 mem with heq | hrest
    · cases heq
      exact keeps_of_localPath token named
    · exact ih hrest

theorem Performs.keeps {l : Lifecycle} {command : Command} {r : Except Error Lifecycle}
    (performs : cfg.Performs l kept command h r kept')
    (mem : .fetched request place answer ∈ h) : cfg.Keeps request place := by
  cases performs with
  | call _ calls => exact absurd mem calls.not_fetched
  | nameless => exact absurd mem List.not_mem_nil
  | noToken _ obtains => exact absurd mem obtains.not_fetched
  | downloads _ obtains fetches =>
    have hmem := (List.mem_append.1 mem).resolve_left obtains.not_fetched
    exact fetches.keeps hmem

theorem Drives.keeps {l : Lifecycle} {commands : List Command} {r : Except Error Lifecycle}
    (drives : cfg.Drives l kept commands h r kept')
    (mem : .fetched request place answer ∈ h) : cfg.Keeps request place := by
  induction drives with
  | done | refused => exact absurd mem List.not_mem_nil
  | failed performs => exact performs.keeps mem
  | next performs _ ih =>
    rcases List.mem_append.1 mem with hfirst | hrest
    · exact performs.keeps hfirst
    · exact ih hrest

/-! ### Paths that name no file -/

theorem Obtains.downloadsIn_eq_nil {r : Except Error AccessToken}
    (obtains : cfg.Obtains kept h r kept') : downloadsIn (sentIn h) = [] := by
  cases obtains <;> rfl

/-- Downloads behind each other do not succeed if one of the paths names no file, and nothing is
asked for but the paths in front of it. -/
theorem Fetches.of_nameless {token : String} {l : Lifecycle} {before after : List String}
    {path : String} {r : Except Error Lifecycle}
    (fetches : cfg.Fetches token l (before ++ path :: after) h r)
    (nameless : Artifact.Nameless path) :
    r.isOk = false ∧ downloadsIn (sentIn h) <+: before.map (cfg.fetchRequest token) := by
  induction before generalizing l h with
  | nil =>
    cases fetches with
    | unnamed => exact ⟨rfl, List.prefix_refl _⟩
    | failed named | refused named | next named =>
      obtain ⟨name, hfile, hend, -⟩ := Artifact.localPath_eq_ok_iff.1 named
      exact absurd ⟨name, hfile, hend⟩ nameless
  | cons first before ih =>
    cases fetches with
    | unnamed => exact ⟨rfl, List.nil_prefix⟩
    | failed | refused => exact ⟨rfl, List.cons_prefix_cons.2 ⟨rfl, List.nil_prefix⟩⟩
    | next _ _ rest =>
      obtain ⟨hfails, hprefix⟩ := ih rest
      exact ⟨hfails, List.cons_prefix_cons.2 ⟨rfl, hprefix⟩⟩

end Config

/-! ### Runs -/

namespace Context

variable (ctx : Context σ)

variable {ctx} in
/-- What an action sends goes to the directory, if what its history has does. -/
theorem Gives.exists_keeps {act : Action σ α} {x y : Exchange σ} {h : List Event}
    {r : Except Error α} (gives : ctx.Gives act x h r y)
    (keeps : ∀ request place answer, .fetched request place answer ∈ h →
      ctx.config.Keeps request place) :
    ∃ new, y.sent = x.sent ++ new ∧
      ∀ request place, .download request place ∈ new → ctx.config.Keeps request place := by
  refine ⟨sentIn h, gives.sent, fun request place hmem ↦ ?_⟩
  obtain ⟨answer, hfetched⟩ := exists_fetched_of_mem_sentIn hmem
  exact keeps request place answer hfetched

/-- Where the loop over the paths comes to one that names no file, it ends. -/
theorem downloadAll_of_nameless {id : TransactionId} {l l' : Lifecycle} {x y z : Exchange σ}
    {before after : List String} {path token : String}
    (paths : l.session.downloadPaths = before ++ path :: after)
    (nameless : Artifact.Nameless path) (obtained : ctx.ensureToken x = .ok token y)
    (reached : before.foldlM (ctx.downloadOne token) l y = .ok l' z) :
    ctx.downloadAll id l x =
      .error (.invalidState ("download path '" ++ path ++ "' has no file name")) z := by
  have hplace : Artifact.localPath ctx.config.downloadDir path = .error _ :=
    Artifact.localPath_eq_error_iff.2 ⟨nameless, rfl⟩
  have hone : ctx.downloadOne token l' path z =
      .error (.invalidState ("download path '" ++ path ++ "' has no file name")) z := by
    rw [downloadOne, hplace]
    rfl
  rw [downloadAll, Action.bind_of_ok obtained, paths, List.foldlM_append]
  refine Action.bind_of_error ?_ _
  rw [Action.bind_of_ok reached, List.foldlM_cons]
  exact Action.bind_of_error hone _

theorem downloads_of_nameless {id : TransactionId} {l : Lifecycle} {x z : Exchange σ}
    {before after : List String} {path : String} {r : Except Error Lifecycle}
    (paths : l.session.downloadPaths = before ++ path :: after)
    (nameless : Artifact.Nameless path) (outcome : (ctx.downloadAll id l).attempt x = .ok r z) :
    r.isOk = false ∧ ∃ token new, z.sent = x.sent ++ new ∧
      downloadsIn new <+: before.map (ctx.config.fetchRequest token) := by
  obtain ⟨h, r', y, htoken, hobtains⟩ := ctx.exists_gives_ensureToken x
  rcases r' with e | token
  · have hgives : ctx.Gives (ctx.downloadAll id l) x h (.error e) y := htoken.bind_error
    obtain ⟨rfl, rfl⟩ := hgives.outcome_eq outcome
    refine ⟨rfl, "", sentIn h, hgives.sent, ?_⟩
    rw [hobtains.downloadsIn_eq_nil]
    exact List.nil_prefix
  · obtain ⟨h', r', y', hgives, hfetches, -⟩ :=
      ctx.exists_gives_fetches token.accessToken l.session.downloadPaths l y
    rw [paths] at hfetches
    obtain ⟨hfails, hprefix⟩ := hfetches.of_nameless nameless
    rcases r' with e | l'
    · have hall : ctx.Gives (ctx.downloadAll id l) x (h ++ h') (.error e) y' :=
        htoken.bind_ok hgives.bind_error
      obtain ⟨rfl, rfl⟩ := hall.outcome_eq outcome
      refine ⟨rfl, token.accessToken, sentIn (h ++ h'), hall.sent, ?_⟩
      rwa [sentIn_append, downloadsIn_append, hobtains.downloadsIn_eq_nil, List.nil_append]
    · cases hfails

/-- **Downloads stay in the download directory.** Whatever the settings, the world and the replies
are, each download of a command that the run allows, and each download of a whole run, has the
directory with a name behind it as its place. The loop over the paths ends with an error at the
first path that has no such name, and asks for none behind it. -/
theorem downloads_confined :
    (∀ command l act x r y, ctx.perform command l = some act → act.attempt x = .ok r y →
      ∃ new, y.sent = x.sent ++ new ∧
        ∀ request place, .download request place ∈ new → ctx.config.Keeps request place) ∧
    (∀ scenario x r y, (ctx.runScenario scenario).attempt x = .ok r y →
      ∃ new, y.sent = x.sent ++ new ∧
        ∀ request place, .download request place ∈ new → ctx.config.Keeps request place) ∧
    ∀ id l x before path after, l.session.downloadPaths = before ++ path :: after →
      Artifact.Nameless path →
      (∀ token y l' z, ctx.ensureToken x = .ok token y →
        before.foldlM (ctx.downloadOne token) l y = .ok l' z → ctx.downloadAll id l x =
          .error (.invalidState ("download path '" ++ path ++ "' has no file name")) z) ∧
      ∀ r z, (ctx.downloadAll id l).attempt x = .ok r z → r.isOk = false ∧
        ∃ token new, z.sent = x.sent ++ new ∧
          downloadsIn new <+: before.map (ctx.config.fetchRequest token) := by
  refine ⟨?_, ?_, ?_⟩
  · intro command l act x r y hallowed houtcome
    obtain ⟨h, r', y', hgives, hperforms⟩ := ctx.exists_gives_perform hallowed x
    obtain ⟨rfl, rfl⟩ := hgives.outcome_eq houtcome
    exact hgives.exists_keeps fun _ _ _ ↦ hperforms.keeps
  · intro scenario x r y houtcome
    obtain ⟨h, r', y', hgives, hcourse⟩ := ctx.exists_gives_runScenario scenario x
    obtain ⟨rfl, rfl⟩ := hgives.outcome_eq houtcome
    refine hgives.exists_keeps fun request place answer hmem ↦ ?_
    rcases hcourse with ⟨-, -, hnone, -⟩ | ⟨-, r', -, hdrives⟩
    · rw [hnone] at hmem
      exact absurd hmem List.not_mem_nil
    · exact hdrives.keeps hmem
  · intro id l x before path after hpaths hnameless
    refine ⟨fun token y l' z hobtained hreached ↦ ?_, fun r z houtcome ↦ ?_⟩
    · exact ctx.downloadAll_of_nameless hpaths hnameless hobtained hreached
    · exact ctx.downloads_of_nameless hpaths hnameless houtcome

end Context

namespace Rehearsal

/-- A run in which two paths are available, of which the second one leads out of a directory. -/
def dotted : Lifecycle :=
  { state := .dumped "T"
    session := ⟨some "T", ["a", "dl/.."], []⟩ }

/-- The file behind the first of the two paths is kept in the directory, and nothing else is asked
for. -/
theorem downloads_confined_dotted : ∃ x z request token,
    (({} : Config).replaying.downloadAll "T" dotted).attempt x =
      .ok (.error (.invalidState "download path 'dl/..' has no file name")) z ∧
    .download request "fs/dl/a" ∈ z.sent ∧ ({} : Config).Keeps request "fs/dl/a" ∧
    downloadsIn z.sent <+: [({} : Config).fetchRequest token "a"] := by
  have hplace : Artifact.localPath "fs/dl" "dl/.." =
      .error (.invalidState "download path 'dl/..' has no file name") := rfl
  have hnameless := (Artifact.localPath_eq_error_iff.1 hplace).1
  have hfetches : ({} : Config).Fetches "a" dotted ["a", "dl/.."]
      [.fetched (({} : Config).fetchRequest "a" "a") "fs/dl/a" (.ok ⟨200, 1⟩)] (.error _) :=
    .next rfl (show DownloadOutcome.isSuccess ⟨200, 1⟩ = true from rfl) (.unnamed hplace)
  obtain ⟨act, hallowed, hreplays⟩ := Config.Performs.replays
    (.downloads rfl (.perStep rfl ofReceived_login) hfetches rfl)
  obtain ⟨z, hgives, -⟩ := hreplays (.start _) [] (List.append_nil _).symm rfl
  have houtcome : (({} : Config).replaying.downloadAll "T" dotted).attempt _ = .ok _ z :=
    (Option.some.inj hallowed) ▸ hgives.outcome
  obtain ⟨new, hnew, hkeeps⟩ := (Context.downloads_confined _).1 _ _ _ _ _ _ hallowed hgives.outcome
  obtain ⟨-, token, new', hnew', hprefix⟩ :=
    ((Context.downloads_confined _).2.2 "T" _ _ ["a"] "dl/.." [] rfl hnameless).2 _ _ houtcome
  have hmem : .download (({} : Config).fetchRequest "a" "a") "fs/dl/a" ∈ z.sent := by
    rw [hgives.sent]
    exact List.mem_append_right _ (.tail _ (.head _))
  have hsame : z.sent = new := hnew
  have hsame' : z.sent = new' := hnew'
  exact ⟨_, z, _, token, houtcome, hmem, hkeeps _ _ (hsame ▸ hmem), hsame' ▸ hprefix⟩

end Rehearsal

end TransactionHarness
