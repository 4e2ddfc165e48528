import Mathlib.Data.List.Induction
import TransactionHarness.Proofs.Reachable
/-!
# What a session recalls

A session is asked to take an identifier, to give it, and to add paths or a file. It may refuse the
first two. What it is at any moment can be said from what it has been asked until then, in whatever
order and whether it was refused or not, and so can its answer to what it is asked next.

* `Session.Operation`: what can be asked, carried out in place by `Operation.run`.
* `Session.Recounts`: the session is as a list of operations has made it. `Recounts.next` is one
  operation more, `recounts_after` all of them.
* `Session.Operation.Yields`: what comes of an operation, said from those before it.
* `Session.recalled`: the law of sessions, at every moment of every list of operations.
* `Context.Reaches.session_eq`: the session of a run is the one that its record tells of.

An operation that is refused does not end a list of them: the next one finds the session as it was
left. That it was left unchanged is a result and not a convention, since an operation that fails
keeps what it has written until then.
-/

namespace TransactionHarness

variable {σ : Type}

namespace Session

/-! ### Operations -/

/-- What can be asked of a session. -/
inductive Operation where
  | setId (id : TransactionId)
  | requireId
  | extendPaths (paths : List String)
  | recordFile (file : String)
  deriving DecidableEq, Repr

namespace Operation

/-- Carries out an operation on the session in place. Only `requireId` has something to tell. -/
def run : Operation → EStateM Error Session (Option TransactionId)
  | setId id => do
    set (← ofExcept ((← get).setId id))
    return none
  | requireId => do
    return some (← ofExcept (← get).requireId)
  | extendPaths paths => do
    modify (·.extendPaths paths)
    return none
  | recordFile file => do
    modify (·.recordFile file)
    return none

/-- The session behind an operation, whether it was refused or not. -/
def next (op : Operation) (s : Session) : Session :=
  match op.run s with
  | .ok _ s' => s'
  | .error _ s' => s'

/-- The identifier that a session is asked to take. -/
def id? : Operation → Option TransactionId
  | setId id => some id
  | _ => none

/-- The paths that a session is asked to add. -/
def paths : Operation → List String
  | extendPaths paths => paths
  | _ => []

/-- The file that a session is asked to add. -/
def file? : Operation → Option String
  | recordFile file => some file
  | _ => none

theorem isSome_id?_iff {op : Operation} : op.id?.isSome ↔ ∃ id, op = setId id := by
  cases op <;> simp [id?]

/-! ### What an operation does to a session -/

variable {s : Session} {first : TransactionId}

theorem run_setId_of_none (h : s.transactionId? = none) (id : TransactionId) :
    (setId id).run s = .ok none { s with transactionId? := some id } := by
  rcases s with ⟨- | present, paths, files⟩
  · rfl
  · cases h

/-- A session that has an identifier stays as it is. -/
theorem run_setId_of_some (h : s.transactionId? = some first) (id : TransactionId) :
    (setId id).run s = .error (.invalidState
      ("transaction id already set to " ++ first ++ ", refusing to replace it with " ++ id)) s := by
  rcases s with ⟨- | present, paths, files⟩
  · cases h
  · cases h
    rfl

theorem run_requireId_of_none (h : s.transactionId? = none) :
    requireId.run s = .error (.invalidState "no transaction has been started") s := by
  rcases s with ⟨- | present, paths, files⟩
  · rfl
  · cases h

theorem run_requireId_of_some (h : s.transactionId? = some first) :
    requireId.run s = .ok (some first) s := by
  rcases s with ⟨- | present, paths, files⟩
  · cases h
  · cases h
    rfl

theorem exists_refusal_iff (id : TransactionId) :
    (∃ message, (setId id).run s = .error (.invalidState message) s) ↔
      s.transactionId?.isSome := by
  rcases hid : s.transactionId? with - | first
  · simp [run_setId_of_none hid]
  · simp [run_setId_of_some hid]

theorem exists_requireId_iff :
    (∃ answer s', requireId.run s = .ok answer s') ↔ s.transactionId?.isSome := by
  rcases hid : s.transactionId? with - | first
  · simp [run_requireId_of_none hid]
  · simp [run_requireId_of_some hid]

/-- Of two identifiers, the first one stays. -/
theorem transactionId?_next (op : Operation) (s : Session) :
    (op.next s).transactionId? = s.transactionId?.or op.id? := by
  rcases s with ⟨- | present, paths, files⟩ <;> cases op <;> rfl

theorem downloadPaths_next (op : Operation) (s : Session) :
    (op.next s).downloadPaths = s.downloadPaths ++ op.paths := by
  cases op with
  | setId | requireId =>
    rcases s with ⟨- | present, paths, files⟩ <;> exact (List.append_nil _).symm
  | extendPaths => rfl
  | recordFile => exact (List.append_nil _).symm

theorem files_next (op : Operation) (s : Session) :
    (op.next s).files = s.files ++ op.file?.toList := by
  cases op with
  | setId | requireId =>
    rcases s with ⟨- | present, paths, files⟩ <;> exact (List.append_nil _).symm
  | extendPaths => exact (List.append_nil _).symm
  | recordFile => rfl

end Operation

/-! ### Lists of operations -/

/-- An empty session behind operations, each carried out on what the one before it has left. -/
def after (ops : List Operation) : Session := ops.foldl (fun s op ↦ op.next s) {}

theorem after_concat (ops : List Operation) (op : Operation) :
    after (ops ++ [op]) = op.next (after ops) :=
  List.foldl_concat _ _ _ _

/-- The session as the operations have made it: it has the first identifier that it was asked to
take, and all paths and files that it was asked to add, in order. -/
structure Recounts (s : Session) (ops : List Operation) : Prop where
  transactionId? : s.transactionId? = ops.findSome? Operation.id?
  downloadPaths : s.downloadPaths = ops.flatMap Operation.paths
  files : s.files = ops.filterMap Operation.file?

/-- What comes of an operation on a session that the operations in `past` have made. -/
inductive Operation.Yields (past : List Operation) (s : Session) :
    Operation → EStateM.Result Error Session (Option TransactionId) → Prop where
  | taken {id : TransactionId} (fresh : past.findSome? Operation.id? = none) :
      Yields past s (.setId id) (.ok none { s with transactionId? := some id })
  | refused {first id : TransactionId} (known : past.findSome? Operation.id? = some first) :
      Yields past s (.setId id) (.error (.invalidState
        ("transaction id already set to " ++ first ++ ", refusing to replace it with " ++ id)) s)
  | told {first : TransactionId} (known : past.findSome? Operation.id? = some first) :
      Yields past s .requireId (.ok (some first) s)
  | untold (fresh : past.findSome? Operation.id? = none) :
      Yields past s .requireId (.error (.invalidState "no transaction has been started") s)
  | extended {paths : List String} :
      Yields past s (.extendPaths paths)
        (.ok none { s with downloadPaths := s.downloadPaths ++ paths })
  | recorded {file : String} :
      Yields past s (.recordFile file) (.ok none { s with files := s.files ++ [file] })

/-- The second session recalls all that the first one does. -/
structure Grows (s s' : Session) : Prop where
  transactionId? : ∀ id, s.transactionId? = some id → s'.transactionId? = some id
  downloadPaths : s.downloadPaths <+: s'.downloadPaths
  files : s.files <+: s'.files

variable {s s' : Session} {past future : List Operation} {op : Operation}
  {r : EStateM.Result Error Session (Option TransactionId)}

theorem Operation.exists_yields (past : List Operation) (s : Session) (op : Operation) :
    ∃ r, op.Yields past s r := by
  cases op with
  | setId =>
    rcases hknown : past.findSome? Operation.id? with - | first
    · exact ⟨_, .taken hknown⟩
    · exact ⟨_, .refused hknown⟩
  | requireId =>
    rcases hknown : past.findSome? Operation.id? with - | first
    · exact ⟨_, .untold hknown⟩
    · exact ⟨_, .told hknown⟩
  | extendPaths => exact ⟨_, .extended⟩
  | recordFile => exact ⟨_, .recorded⟩

namespace Recounts

/-- The operations determine the session. -/
theorem unique (recounts : s.Recounts past) (recounts' : s'.Recounts past) : s = s' := by
  rcases s with ⟨id?, paths, files⟩
  rcases s' with ⟨id?', paths', files'⟩
  obtain ⟨rfl, rfl, rfl⟩ := recounts
  obtain ⟨rfl, rfl, rfl⟩ := recounts'
  rfl

/-- A session has an identifier exactly if it was asked to take one. -/
theorem isSome_iff (recounts : s.Recounts past) :
    s.transactionId?.isSome ↔ ∃ id, .setId id ∈ past := by
  rw [recounts.transactionId?, List.findSome?_isSome_iff]
  constructor
  · rintro ⟨op, hop, hid⟩
    obtain ⟨id, rfl⟩ := Operation.isSome_id?_iff.1 hid
    exact ⟨id, hop⟩
  · rintro ⟨id, hid⟩
    exact ⟨.setId id, hid, rfl⟩

theorem run_of_yields (recounts : s.Recounts past) (yields : op.Yields past s r) :
    op.run s = r := by
  cases yields with
  | taken fresh => exact Operation.run_setId_of_none (recounts.transactionId?.trans fresh) _
  | refused known => exact Operation.run_setId_of_some (recounts.transactionId?.trans known) _
  | told known => exact Operation.run_requireId_of_some (recounts.transactionId?.trans known)
  | untold fresh => exact Operation.run_requireId_of_none (recounts.transactionId?.trans fresh)
  | extended | recorded => rfl

/-- What comes of an operation is known from those before it. -/
theorem run_eq_iff (recounts : s.Recounts past) : op.run s = r ↔ op.Yields past s r := by
  refine ⟨?_, recounts.run_of_yields⟩
  rintro rfl
  obtain ⟨r, hyields⟩ := op.exists_yields past s
  rwa [recounts.run_of_yields hyields]

/-- One more operation adds what it brings. -/
theorem next (recounts : s.Recounts past) (op : Operation) :
    (op.next s).Recounts (past ++ [op]) where
  transactionId? := by
    rw [op.transactionId?_next, recounts.transactionId?, List.findSome?_append,
      List.findSome?_singleton]
  downloadPaths := by
    rw [op.downloadPaths_next, recounts.downloadPaths, List.flatMap_append,
      List.flatMap_singleton]
  files := by
    rw [op.files_next, recounts.files, List.filterMap_append]
    cases op <;> rfl

/-- What a session recalls, it recalls whatever it is asked later. -/
theorem grows (recounts : s.Recounts past) (recounts' : s'.Recounts (past ++ future)) :
    s.Grows s' where
  transactionId? := by
    intro id hid
    rw [recounts'.transactionId?, List.findSome?_append, ← recounts.transactionId?, hid]
    rfl
  downloadPaths := by
    rw [recounts.downloadPaths, recounts'.downloadPaths, List.flatMap_append]
    exact List.prefix_append _ _
  files := by
    rw [recounts.files, recounts'.files, List.filterMap_append]
    exact List.prefix_append _ _

end Recounts

theorem recounts_after (ops : List Operation) : (after ops).Recounts ops := by
  induction ops using List.reverseRecOn with
  | nil => exact ⟨rfl, rfl, rfl⟩
  | append_singleton ops op ih => exact after_concat ops op ▸ ih.next op

/-- **What a session recalls.** At any moment, a session has the first identifier that it was asked
to take, and all paths and files that it was asked to add, in order. What comes of the next
operation is known from this: it changes what is its own and nothing else. An identifier is refused
exactly if one was set before, which leaves the session as it is, and there is one to give exactly
if one was set before. Whatever is asked later, the identifier stays, and the lists of now stand at
the front of those of then. -/
theorem recalled (past future : List Operation) :
    (after past).Recounts past ∧
      (∀ (op : Operation) (r : EStateM.Result Error Session (Option TransactionId)),
        op.run (after past) = r ↔ op.Yields past (after past) r) ∧
      (∀ id, (∃ message,
        (Operation.setId id).run (after past) = .error (.invalidState message) (after past)) ↔
          ∃ first, .setId first ∈ past) ∧
      ((∃ answer s, Operation.requireId.run (after past) = .ok answer s) ↔
        ∃ first, .setId first ∈ past) ∧
      (after past).Grows (after (past ++ future)) := by
  have hpast := recounts_after past
  refine ⟨hpast, fun op r ↦ hpast.run_eq_iff, fun id ↦ ?_, ?_, hpast.grows (recounts_after _)⟩
  · rw [Operation.exists_refusal_iff, hpast.isSome_iff]
  · rw [Operation.exists_requireId_iff, hpast.isSome_iff]

example : after [.setId "T", .extendPaths ["a", "b"], .setId "U", .recordFile "x/a",
    .extendPaths ["c"]] = ⟨some "T", ["a", "b", "c"], ["x/a"]⟩ := rfl

end Session

/-! ### Sessions of runs -/

namespace Record

open Session

/-- What the session of a run with this record has been asked: the transaction that was begun has
given the identifier, each dump its paths, and each download its file. -/
def operations (record : Record) : List Operation :=
  record.begun.toList.map (fun transaction ↦ .setId transaction.id) ++
    record.dumps.map (fun result ↦ .extendPaths result.downloadPaths) ++
    record.downloads.map (fun download ↦ .recordFile download.localPath)

variable (record : Record)

theorem findSome?_operations :
    record.operations.findSome? Operation.id? = record.begun.map Transaction.id := by
  rcases hbegun : record.begun with - | transaction
  · simp [operations, hbegun, Operation.id?]
  · rw [operations, hbegun]
    rfl

theorem flatMap_operations :
    record.operations.flatMap Operation.paths = record.dumps.flatMap DumpResult.downloadPaths := by
  have hbegun : record.begun.toList.flatMap (fun t ↦ (Operation.setId t.id).paths) = [] :=
    List.flatMap_eq_nil_iff.2 fun _ _ ↦ rfl
  have hdownloads :
      record.downloads.flatMap (fun d ↦ (Operation.recordFile d.localPath).paths) = [] :=
    List.flatMap_eq_nil_iff.2 fun _ _ ↦ rfl
  rw [operations, List.flatMap_append, List.flatMap_append, List.flatMap_map, List.flatMap_map,
    List.flatMap_map, hbegun, hdownloads, List.nil_append, List.append_nil]
  rfl

theorem filterMap_operations :
    record.operations.filterMap Operation.file? = record.downloads.map Download.localPath := by
  simp [operations, List.filterMap_map, Function.comp_def, Operation.file?]

end Record

/-- Where the parts of a run agree, its session is the one that its record tells of. -/
theorem Lifecycle.Coherent.recounts {l : Lifecycle} (coherent : l.Coherent) :
    l.session.Recounts l.record.operations where
  transactionId? := by
    obtain ⟨transaction, hbegun, -, hid, -⟩ := coherent.begun
    rw [hid, l.record.findSome?_operations, hbegun]
    rfl
  downloadPaths := by rw [coherent.paths, l.record.flatMap_operations]
  files := by rw [coherent.files, l.record.filterMap_operations]

/-- The session of a run is what the operations in its record leave of an empty one, so that the law
of sessions holds of it. -/
theorem Context.Reaches.session_eq {ctx : Context σ} {commands : List Command} {l : Lifecycle}
    (reaches : ctx.Reaches commands l) : l.session = Session.after l.record.operations := by
  rcases reaches.arrives.coherent with ⟨-, rfl⟩ | ⟨hcoherent, -⟩
  · rfl
  · exact hcoherent.recounts.unique (Session.recounts_after _)

end TransactionHarness
