import TransactionHarness.Proofs.Course
/-!
# Where requests go

Two addresses of the service are for tokens; everything else that a run sends belongs to a step. The
two kinds cannot be mistaken for each other: behind the common part of all addresses, those of steps
go on with another letter than those for tokens, whatever identifiers, tables and paths they hold.

* `Config.isTokenUrl`: the address is one of the two for tokens.
* `Config.isStep`: the event is a request that belongs to a step.
* `Config.isTokenUrl_of_sends`, `Config.isTokenUrl_fetchRequest`: where steps send.
* `Config.isStep_login`, `Config.isStep_refresh`: what is asked for a token is no step.
-/

namespace TransactionHarness

namespace Config

variable (cfg : Config)

/-- What follows the common part of all addresses. -/
def behindBase (path : String) : List Char := path.toList.dropWhile isSlash

theorem endpoint_eq_iff {path path' : String} :
    cfg.endpoint path = cfg.endpoint path' ↔ behindBase path = behindBase path' := by
  rw [endpoint, endpoint, String.ofList_inj, List.append_cancel_left_eq, List.cons_inj_right]
  rfl

/-- The address is one that gives tokens. -/
def isTokenUrl (url : String) : Bool :=
  url == cfg.endpoint "/auth" || url == cfg.endpoint "/refresh"

/-- What was sent is a login. -/
def isLogin (s : Sent) : Bool := s.request.url == cfg.endpoint "/auth"

@[simp] theorem isTokenUrl_auth : cfg.isTokenUrl (cfg.endpoint "/auth") = true := by
  simp [isTokenUrl]

@[simp] theorem isTokenUrl_refresh : cfg.isTokenUrl (cfg.endpoint "/refresh") = true := by
  simp [isTokenUrl]

/-- The event is a request that belongs to a step. -/
def isStep (e : Event) : Bool := e.request?.any fun request ↦ !cfg.isTokenUrl request.url

theorem isTokenUrl_of_isStep {e : Event} {request : Request} (step : cfg.isStep e = true)
    (asked : e.request? = some request) : cfg.isTokenUrl request.url = false := by
  simpa [isStep, asked] using step

/-! ### Addresses of steps -/

theorem head?_behindBase_auth : (behindBase "/auth").head? = some 'a' := by decide

theorem head?_behindBase_refresh : (behindBase "/refresh").head? = some 'r' := by decide

theorem endpoint_auth_ne_refresh : cfg.endpoint "/auth" ≠ cfg.endpoint "/refresh" := by
  rw [Ne, endpoint_eq_iff]
  decide

theorem isTokenUrl_of_head? {path : String} {c : Char} (head : (behindBase path).head? = some c)
    (notAuth : c ≠ 'a') (notRefresh : c ≠ 'r') : cfg.isTokenUrl (cfg.endpoint path) = false := by
  have hne {path' : String} {d : Char} (head' : (behindBase path').head? = some d) (hcd : c ≠ d) :
      cfg.endpoint path ≠ cfg.endpoint path' := by
    intro heq
    rw [cfg.endpoint_eq_iff.1 heq, head'] at head
    exact hcd (Option.some.inj head).symm
  simp [isTokenUrl, hne head?_behindBase_auth notAuth, hne head?_behindBase_refresh notRefresh]

/-- What stands first behind the base stays there when the path goes on. -/
theorem head?_behindBase_append {path : String} {c : Char} (rest : String)
    (head : (behindBase path).head? = some c) : (behindBase (path ++ rest)).head? = some c := by
  rw [behindBase, String.toList_append, List.dropWhile_append]
  split
  · next hempty =>
    -- nothing but slashes would have no first letter behind them
    rw [behindBase, List.isEmpty_iff.1 hempty] at head
    cases head
  · rw [List.head?_append, show (List.dropWhile isSlash path.toList).head? = some c from head]
    rfl

theorem isTokenUrl_fetchRequest (token path : String) :
    cfg.isTokenUrl (cfg.fetchRequest token path).url = false :=
  cfg.isTokenUrl_of_head? (c := 'd') (head?_behindBase_append _ (by decide)) (by decide) (by decide)

theorem isTokenUrl_loadRequest (id : TransactionId) (table : String) (file : UploadPath) :
    cfg.isTokenUrl (cfg.loadRequest id table file).url = false :=
  cfg.isTokenUrl_of_head? (c := 't')
    (head?_behindBase_append _ (head?_behindBase_append _ (head?_behindBase_append _ (by decide))))
    (by decide) (by decide)

/-- The requests of steps go elsewhere than those for tokens. -/
theorem isTokenUrl_of_sends {l : Lifecycle} {command : Command} {request : Request}
    {receive : String → Except Error Lifecycle} (sends : l.Sends cfg command request receive) :
    cfg.isTokenUrl request.url = false := by
  have htransaction {path : String} (head : (behindBase path).head? = some 't') :
      cfg.isTokenUrl (cfg.endpoint path) = false :=
    cfg.isTokenUrl_of_head? head (by decide) (by decide)
  have hmore {path : String} (rest : String) (head : (behindBase path).head? = some 't') :
      (behindBase (path ++ rest)).head? = some 't' :=
    head?_behindBase_append rest head
  cases sends with
  | begin => exact htransaction (by decide)
  | checkStatus => exact htransaction (hmore _ (by decide))
  | @dump id table format? =>
    -- the body depends on the format, the address does not
    have hurl :
        cfg.isTokenUrl (cfg.endpoint ("/transaction/dump/" ++ id ++ "/" ++ table)) = false :=
      htransaction (hmore _ (hmore _ (hmore _ (by decide))))
    cases format? <;> exact hurl
  | load => exact cfg.isTokenUrl_loadRequest _ _ _
  | finish => exact htransaction (hmore _ (hmore _ (hmore _ (by decide))))

/-! ### Events of a course -/

variable {cfg}

theorem isStep_login (cfg : Config) (answer : Except Error String) :
    cfg.isStep (.answered cfg.loginRequest answer) = false := by
  simp [isStep, Event.request?, loginRequest, Request.withForm, Request.post]

theorem isStep_refresh (cfg : Config) (token : String) (answer : Except Error String) :
    cfg.isStep (.answered (cfg.refreshRequest token) answer) = false := by
  simp [isStep, Event.request?, refreshRequest, Request.withForm, Request.post]

/-- What steps send goes elsewhere than to the addresses for tokens. -/
theorem isTokenUrl_of_mem_sentIn {h : List Event} (steps : ∀ e ∈ h, cfg.isStep e = true) :
    ∀ s ∈ sentIn h, cfg.isTokenUrl s.request.url = false := by
  intro s hs
  obtain ⟨e, he, hsent⟩ := List.mem_filterMap.1 hs
  refine cfg.isTokenUrl_of_isStep (steps e he) ?_
  rw [← e.map_request_sent?, hsent]
  rfl

/-- The steps of a history are what is sent to other addresses than those for tokens. -/
theorem filter_sentIn (cfg : Config) (h : List Event) :
    (sentIn h).filter (fun s ↦ !cfg.isTokenUrl s.request.url) = sentIn (h.filter cfg.isStep) := by
  rw [sentIn, sentIn, List.filter_filterMap, List.filterMap_filter]
  -- both sides look at one event at a time
  congr 1
  funext e
  cases e with
  | answered request | fetched request =>
    cases htoken : cfg.isTokenUrl request.url <;>
      simp [Event.sent?, isStep, Event.request?, Sent.request, htoken]
  | clock => rfl

end Config

end TransactionHarness
