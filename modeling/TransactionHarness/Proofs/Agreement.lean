import TransactionHarness.Proofs.Replay
/-!
# Contracts and decoders agree

A contract and the decoder beside it describe the same replies (`Contract.Terms`), so that a run
records exactly what the service has sent: what a command that succeeds adds to the record is the
value whose JSON form was the body of the reply.

* `Lifecycle.Sends.exists_add`: the value in the reply that advances a run is recorded.
* `Context.exists_add_of_perform`: the same of a command in any world.
* `Contract.Terms.agrees_with_decoder`: all that is said of contracts and decoders together.
-/

namespace TransactionHarness

open Json

/-! ### What a run records -/

/-- The record with the typed value of another reply. -/
def Record.add (record : Record) : (terms : Contract.Terms) → terms.Result → Record
  | .begin _, transaction => { record with begun := some transaction }
  | .status _ _, transaction => { record with status := some transaction }
  | .dump _ _ _, result => { record with dumps := record.dumps ++ [result] }
  | .load _ _ _, result => { record with loads := record.loads ++ [result] }
  | .finish _ _ _, transaction => { record with finished := some transaction }

/-- A reply that advances a run is received on some terms, and its value is recorded. -/
theorem Lifecycle.Sends.exists_add {cfg : Config} {l l' : Lifecycle} {command : Command}
    {request : Request} {receive : String → Except Error Lifecycle} {text : String}
    (sends : l.Sends cfg command request receive) (accepted : receive text = .ok l') :
    ∃ (terms : Contract.Terms) (x : terms.Result),
      terms.contract.receive terms.decode terms.contract.step text = .ok x ∧
        l'.record = l.record.add terms x := by
  cases sends with
  | begin request state =>
    obtain ⟨transaction, hreceive, hafter⟩ := bind_eq_ok_iff.1 accepted
    obtain ⟨session, -, hl'⟩ := bind_eq_ok_iff.1 hafter
    cases Except.ok.inj hl'
    exact ⟨.begin request.type, transaction, hreceive, rfl⟩
  | @checkStatus id state =>
    obtain ⟨transaction, hreceive, rfl⟩ := map_eq_ok_iff.1 accepted
    exact ⟨.status l.type id, transaction, hreceive, rfl⟩
  | @dump id table format? state =>
    obtain ⟨result, hreceive, rfl⟩ := map_eq_ok_iff.1 accepted
    exact ⟨.dump id table (format?.getD .standard), result, hreceive, rfl⟩
  | @load id table file name state named =>
    obtain ⟨result, hreceive, rfl⟩ := map_eq_ok_iff.1 accepted
    exact ⟨.load id table name, result, hreceive, rfl⟩
  | @finish id how state =>
    obtain ⟨transaction, hreceive, rfl⟩ := map_eq_ok_iff.1 accepted
    exact ⟨.finish l.type id how, transaction, hreceive, rfl⟩

/-- The world has answered the last event of a history last. -/
theorem World.exists_reacts_of_answers {σ : Type} {world : World σ} {h : List Event} {e : Event}
    {s t : σ} (answers : world.Answers s (h ++ [e]) t) : ∃ u, world.Reacts u t e := by
  induction h generalizing s with
  | nil =>
    obtain ⟨u, hreacts, rfl⟩ := answers
    exact ⟨s, hreacts⟩
  | cons _ _ ih =>
    obtain ⟨u, -, hrest⟩ := answers
    exact ih hrest

/-- A command that succeeds and is not a download has sent its request last, and what it adds to the
record is the value whose JSON form the world has answered with. -/
theorem Context.exists_add_of_perform {σ : Type} {ctx : Context σ} {l l' : Lifecycle}
    {command : Command} {act : Action σ Lifecycle} {x y : Exchange σ}
    (allowed : ctx.perform command l = some act) (succeeds : act x = .ok l' y)
    (replied : command ≠ .downloadAll) :
    ∃ (request : Request) (text : String) (terms : Contract.Terms) (value : terms.Result)
      (response : Response), y.sent.getLast? = some (.execute request) ∧
        (∃ w, ctx.world.execute request w = (.ok text, y.world)) ∧
        Response.parse terms.contract.step text = .ok response ∧
        l'.record = l.record.add terms value ∧ terms.encode value = response.body := by
  obtain ⟨h, r, z, hgives, hperforms⟩ := ctx.exists_gives_perform allowed x
  obtain ⟨rfl, rfl⟩ := hgives.outcome_eq (Action.attempt_eq_ok_iff.2 succeeds)
  cases hperforms with
  | downloads => exact absurd rfl replied
  | call sends calls =>
    cases calls with
    | answered obtains outcome =>
      obtain ⟨text, rfl, haccepted⟩ := bind_eq_ok_iff.1 outcome
      obtain ⟨terms, value, hreceive, hrecord⟩ := sends.exists_add haccepted
      obtain ⟨response, hparse, -, hbody, -⟩ := Contract.Terms.receive_eq_ok_iff.1 hreceive
      obtain ⟨w, hreacts⟩ := World.exists_reacts_of_answers hgives.answers
      have hsent := hgives.sent
      rw [sentIn_append, ← List.append_assoc] at hsent
      refine ⟨_, text, terms, value, response, ?_, ⟨w, hreacts⟩, hparse, hrecord, hbody.symm⟩
      rw [hsent]
      exact List.getLast?_concat

/-- **Contracts and decoders agree.** With the status line of success, a contract accepts a body and
the decoder reads a value from it exactly if the body is the JSON form of the value and the value
fits the terms. An accepted body that is not read is the result of a dump with a path that is not a
text, and is reported as a malformed response to that dump. So what a command adds to the record of
a run is the value whose JSON form the service has answered with.

The keys of a body ascend, as they do in every response (`Response.isCanonical_of_parse`). -/
theorem Contract.Terms.agrees_with_decoder {σ : Type} (ctx : Context σ) :
    (∀ (terms : Terms) (headers : List String) (body : Json), okStatusLine ∈ headers →
      body.IsCanonical →
        (∀ x, (terms.contract.verify headers body = .ok () ∧
            Response.bodyAs terms.decode terms.contract.step ⟨headers, body⟩ = .ok x) ↔
          body = terms.encode x ∧ terms.Fits x) ∧
        (terms.contract.verify headers body = .ok () →
          ((∃ e, Response.bodyAs terms.decode terms.contract.step ⟨headers, body⟩ = .error e) ↔
            terms.HasStrayPath body) ∧
          ∀ e, Response.bodyAs terms.decode terms.contract.step ⟨headers, body⟩ = .error e →
            ∃ reason, e = .malformedResponse terms.contract.step reason)) ∧
      ∀ (command : Command) (l l' : Lifecycle) (act : Action σ Lifecycle) (x y : Exchange σ),
        ctx.perform command l = some act → act x = .ok l' y → command ≠ .downloadAll →
          ∃ (request : Request) (text : String) (terms : Terms) (value : terms.Result)
            (response : Response), y.sent.getLast? = some (.execute request) ∧
              (∃ w, ctx.world.execute request w = (.ok text, y.world)) ∧
              Response.parse terms.contract.step text = .ok response ∧
              l'.record = l.record.add terms value ∧ terms.encode value = response.body := by
  refine ⟨fun terms headers body hline hcanonical ↦ ⟨fun x ↦ ?_, fun haccepted ↦ ⟨?_, ?_⟩⟩, ?_⟩
  · rw [accepts_iff, Response.bodyAs_eq_ok_iff, ← matches_and_decode_iff hcanonical]
    simp only [hline, and_true]
  · rw [← exists_decode_eq_error_iff hcanonical (accepts_iff.1 haccepted).1]
    simp only [Response.bodyAs_eq_error_iff]
    exact ⟨fun ⟨_, misfit, hmisfit, _⟩ ↦ ⟨misfit, hmisfit⟩,
      fun ⟨misfit, hmisfit⟩ ↦ ⟨_, misfit, hmisfit, rfl⟩⟩
  · intro e he
    obtain ⟨misfit, -, rfl⟩ := Response.bodyAs_eq_error_iff.1 he
    exact ⟨_, rfl⟩
  · exact fun _ _ _ _ _ _ ↦ Context.exists_add_of_perform

/-- In the rehearsal the transaction that begins is recorded as it was answered. And the reply to a
dump may be accepted with a path that is not a text, but is not read. -/
theorem Contract.Terms.agrees_with_decoder_rehearsal :
    (∃ (x y : Exchange (List Event)) (terms : Terms) (value : terms.Result) (response : Response),
      ({} : Config).replaying.begin ⟨.readOnly, 1, []⟩ {} x = .ok Rehearsal.begun y ∧
        Rehearsal.begun.record = ({} : Record).add terms value ∧
        terms.encode value = response.body) ∧
      ∃ reason, Response.bodyAs (dump "T" "t" .csv).decode (.dump .csv)
        ⟨[okStatusLine], DumpResult.withPaths "T" "t" .csv [.null]⟩ =
          .error (.malformedResponse (.dump .csv) reason) := by
  constructor
  · obtain ⟨h, hperforms⟩ := Rehearsal.exists_performs {} Rehearsal.begun none Rehearsal.openText
      (.begin ⟨.readOnly, 1, []⟩ rfl)
      (bind_eq_ok_iff.2 ⟨Rehearsal.opened, Rehearsal.receive_begin, rfl⟩)
    obtain ⟨act, hact, hreplays⟩ := hperforms.replays
    obtain ⟨y, hgives, -⟩ := hreplays (.start h) [] (List.append_nil h).symm rfl
    have hbegun := hgives.apply_eq_ok
    obtain ⟨_, _, terms, value, response, -, -, -, hrecord, hbody⟩ :=
      (agrees_with_decoder ({} : Config).replaying).2 _ _ _ act _ y hact hbegun
        Command.noConfusion
    cases hact
    exact ⟨_, y, terms, value, response, hbegun, hrecord, hbody⟩
  · have hcanonical : (DumpResult.withPaths "T" "t" .csv [.null]).IsCanonical := by
      refine ⟨?_, ⟨trivial, trivial⟩, trivial, trivial, trivial, trivial⟩
      show ["downloadPathList", "format", "table", "transactionId"].Pairwise (· < ·)
      decide
    obtain ⟨-, hread⟩ := (agrees_with_decoder ({} : Config).replaying).1 (dump "T" "t" .csv)
      [okStatusLine] _ List.mem_cons_self hcanonical
    obtain ⟨hstray, hreason⟩ := hread rfl
    obtain ⟨e, he⟩ := hstray.2 ⟨"T", "t", .csv, [.null], rfl, rfl, .null, List.mem_cons_self, nofun⟩
    obtain ⟨reason, rfl⟩ := hreason e he
    exact ⟨reason, he⟩

end TransactionHarness
