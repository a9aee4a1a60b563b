import AtomixCoordinator.Panics
import AtomixCoordinator.Decision

/-!
# The coordinator and the transaction state store

The coordinator decides a transaction by asking the transaction state store, which keeps
one record per transaction and lets the first decision win: `try_commit_transaction`
commits an undecided transaction at the epoch asked, `try_abort_transaction` aborts it,
and either call on a decided transaction changes nothing and answers with the decision
(`AtomixCoordinator.StoreRecord`). Other parties may abort a transaction as well, but only
its coordinator commits it, and the coordinator counts on that: `record_abort` panics with
"transaction committed without coordinator consent!" when the store answers committed,
and `commit` asserts that the store committed at the epoch it asked.

## The system

`AtomixCoordinator.SystemReachable` runs the coordinator against such a store, with aborts
of other parties interleaved at any point. A call of the client is one step: the store
serves the calls it makes, in order, and the answers the coordinator logged are the
store's (`AtomixCoordinator.serveCalls`). The coordinator makes at most one call to the
store in a call of the client, so an abort of another party made while the call runs is,
for the store, made before that call or after it. The store always answers: a store that
fails gives an answer the coordinator cannot handle, which `AtomixCoordinator.Panics`
covers.

## What holds

The store and the log agree on every run (`AtomixCoordinator.StoreAgrees`): the store
committed a transaction at an epoch exactly when the log holds that commit granted, it
aborted every transaction the log asked it to abort, and no call to the store got an
answer the coordinator cannot handle. Of the coordinator the proof needs only that its log
holds at most one call to the store (`AtomixCoordinator.TwoPhaseShape.decidesOnce`): that
call finds the transaction undecided or aborted by another party, never committed.

With the decision the state records (`AtomixCoordinator.DecisionRecorded`) this gives
`AtomixCoordinator.store_agrees_with_coordinator`: the coordinator never panics on an
answer of the store, the transaction is committed in the store exactly when it is in the
coordinator, at the epoch the coordinator asked, and a transaction the coordinator aborted
is aborted in the store. The converse of the last does not hold: when another party aborts
the transaction after its prepares, the store answers aborted to the commit and the
coordinator leaves the transaction preparing.
-/

namespace AtomixCoordinator

/-! ### The state store -/

/-- Modelled from the spec: what the transaction state store has recorded of one
transaction. -/
inductive StoreRecord where
  /-- Nothing is decided yet. -/
  | undecided
  /-- Committed at an epoch. -/
  | committed (epoch : UInt64)
  /-- Aborted. -/
  | aborted
  deriving DecidableEq, Repr

namespace StoreRecord

/-- Modelled from the spec: `try_commit_transaction` at `epoch`; an undecided transaction
commits, a decided one keeps its decision. -/
def tryCommit : StoreRecord → UInt64 → StoreRecord
  | undecided, epoch => committed epoch
  | r, _ => r

/-- Modelled from the spec: `try_abort_transaction`; an undecided transaction aborts, a
decided one keeps its decision. -/
def tryAbort : StoreRecord → StoreRecord
  | undecided => aborted
  | r => r

/-- Modelled from the spec: the answer of the store once a call left the record `r`. -/
def outcome : StoreRecord → Option OpResult
  | undecided => none
  | committed epoch => some (.transactionIsCommitted epoch)
  | aborted => some .transactionIsAborted

variable {r : StoreRecord} {epoch : UInt64}

@[simp] theorem tryAbort_eq_committed : r.tryAbort = committed epoch ↔ r = committed epoch := by
  cases r <;> simp [tryAbort]

theorem tryAbort_of_ne_committed (h : ∀ epoch, r ≠ committed epoch) : r.tryAbort = aborted := by
  cases r with
  | committed epoch => exact absurd rfl (h epoch)
  | _ => rfl

end StoreRecord

/-- Modelled from the spec: the state store serves one call of the coordinator. It updates
the record of the transaction the call names, and answers as the record then says; the
answer the coordinator logged must be that one. Other calls are not for the store. -/
def serveCall (store : Uuid → StoreRecord) : Event → Option (Uuid → StoreRecord)
  | .tryCommitTransaction id epoch answer =>
    if answer = ((store id).tryCommit epoch).outcome then
      some (Function.update store id ((store id).tryCommit epoch))
    else none
  | .tryAbortTransaction id answer =>
    if answer = (store id).tryAbort.outcome then
      some (Function.update store id (store id).tryAbort)
    else none
  | _ => some store

/-- Modelled from the spec: the state store serves the calls of a step, in order. -/
def serveCalls (store : Uuid → StoreRecord) (calls : List Event) :
    Option (Uuid → StoreRecord) :=
  calls.foldlM serveCall store

section Serve

variable {store store' : Uuid → StoreRecord} {ev : Event} {calls : List Event}

@[simp] theorem serveCalls_nil : serveCalls store [] = some store := rfl

theorem serveCalls_cons :
    serveCalls store (ev :: calls) = (serveCall store ev).bind (serveCalls · calls) := rfl

theorem serveCalls_append (calls' : List Event) :
    serveCalls store (calls ++ calls') = (serveCalls store calls).bind (serveCalls · calls') :=
  List.foldlM_append _ _ _ _

theorem serveCall_of_not_isStateStore (h : ev.isStateStore = false) :
    serveCall store ev = some store := by
  cases ev <;> simp_all [serveCall, Event.isStateStore]

/-- Calls none of which is for the store leave it as it is. -/
theorem serveCalls_of_not_isStateStore (h : ∀ ev ∈ calls, ev.isStateStore = false) :
    serveCalls store calls = some store := by
  induction calls with
  | nil => rfl
  | cons ev calls ih =>
    rw [serveCalls_cons, serveCall_of_not_isStateStore (h ev (List.mem_cons_self ev calls))]
    exact ih fun x hx => h x (List.mem_cons_of_mem ev hx)

/-- **What serving a call to the store can do**, when the store has committed nothing:
an abort aborts, a commit commits an undecided transaction and finds an aborted one
aborted, and the answers are the decisions. -/
theorem serveCall_cases (hnc : ∀ id epoch, store id ≠ .committed epoch)
    (hev : ev.isStateStore = true) (h : serveCall store ev = some store') :
    (∃ id, ev = .tryAbortTransaction id (some .transactionIsAborted) ∧
        store' = Function.update store id .aborted) ∨
      (∃ id epoch, store id = .undecided ∧
        ev = .tryCommitTransaction id epoch (some (.transactionIsCommitted epoch)) ∧
        store' = Function.update store id (.committed epoch)) ∨
      (∃ id epoch, store id = .aborted ∧
        ev = .tryCommitTransaction id epoch (some .transactionIsAborted) ∧ store' = store) := by
  cases ev with
  | tryAbortTransaction id answer =>
    rw [serveCall, StoreRecord.tryAbort_of_ne_committed (hnc id)] at h
    split_ifs at h with ha
    cases h
    exact .inl ⟨id, by rw [ha]; rfl, rfl⟩
  | tryCommitTransaction id epoch answer =>
    simp only [serveCall] at h
    split_ifs at h with ha
    cases h
    cases hr : store id with
    | undecided => exact .inr (.inl ⟨id, epoch, hr, by rw [ha, hr]; rfl, rfl⟩)
    | committed e => exact absurd hr (hnc id e)
    | aborted =>
      exact .inr (.inr ⟨id, epoch, hr, by rw [ha, hr]; rfl,
        (congrArg (Function.update store id) hr.symm).trans (Function.update_eq_self id store)⟩)
  | _ => simp [Event.isStateStore] at hev

end Serve

/-! ### The store agrees with the log -/

/-- **The store agrees with the log**: it committed a transaction at an epoch exactly
when the log holds that commit granted, it aborted every transaction the log asked it to
abort, and every answer it gave is one the coordinator handles. -/
structure StoreAgrees (store : Uuid → StoreRecord) (log : List Event) : Prop where
  committed_iff : ∀ id epoch, store id = .committed epoch ↔
    .tryCommitTransaction id epoch (some (.transactionIsCommitted epoch)) ∈ log
  aborted_of_mem : ∀ id answer, .tryAbortTransaction id answer ∈ log → store id = .aborted
  handled : ∀ ev ∈ log, ev.isStateStore = true → ev.isFatal = false

namespace StoreAgrees

variable {store store' : Uuid → StoreRecord} {log log' calls : List Event} {ev : Event}

theorem init : StoreAgrees (fun _ => .undecided) [] := ⟨by simp, by simp, by simp⟩

/-- An abort of another party keeps the agreement. -/
theorem abortElsewhere (h : StoreAgrees store log) (id : Uuid) :
    StoreAgrees (Function.update store id (store id).tryAbort) log := by
  refine ⟨fun id' epoch => ?_, fun id' answer hm => ?_, h.handled⟩
  · rw [← h.committed_iff, Function.update_apply]
    split_ifs with hid
    · rw [hid, StoreRecord.tryAbort_eq_committed]
    · rfl
  · rw [Function.update_apply, ← h.aborted_of_mem id' answer hm]
    split_ifs with hid
    · rw [hid, h.aborted_of_mem id answer (hid ▸ hm)]
      rfl
    · rfl

/-- The agreement reads only the calls to the store of the log. -/
theorem of_storeCalls (h : StoreAgrees store log)
    (hmem : ∀ x, x.isStateStore = true → (x ∈ log' ↔ x ∈ log)) : StoreAgrees store log' :=
  ⟨fun id epoch => (h.committed_iff id epoch).trans
      (hmem (.tryCommitTransaction id epoch (some (.transactionIsCommitted epoch))) rfl).symm,
    fun id answer hm =>
      h.aborted_of_mem id answer ((hmem (.tryAbortTransaction id answer) rfl).mp hm),
    fun x hx hs => h.handled x ((hmem x hs).mp hx) hs⟩

/-- Calls the store never sees keep the agreement. -/
theorem append_of_not_isStateStore (h : StoreAgrees store log) (hev : ev.isStateStore = false) :
    StoreAgrees store (log ++ [ev]) :=
  h.of_storeCalls fun x hx => by
    simp only [List.mem_append, List.mem_singleton, or_iff_left_iff_imp]
    rintro rfl
    simp [hx] at hev

/-- On a log with no call to the store, the agreement is the agreement with the calls
that follow it. -/
theorem append_iff (hlog : ∀ x ∈ log, x.isStateStore = false) :
    StoreAgrees store (log ++ calls) ↔ StoreAgrees store calls := by
  have hmem : ∀ x, x.isStateStore = true → (x ∈ log ++ calls ↔ x ∈ calls) := fun x hx => by
    simp only [List.mem_append, or_iff_right_iff_imp]
    exact fun hx' => absurd hx (by simp [hlog x hx'])
  exact ⟨fun h => h.of_storeCalls fun x hx => (hmem x hx).symm, fun h => h.of_storeCalls hmem⟩

/-- **Serving the first call to the store keeps the agreement.** -/
theorem serve (h : StoreAgrees store log) (hlog : ∀ x ∈ log, x.isStateStore = false)
    (hev : ev.isStateStore = true) (hs : serveCall store ev = some store') :
    StoreAgrees store' (log ++ [ev]) := by
  have hnc : ∀ id epoch, store id ≠ .committed epoch := fun id epoch hc =>
    absurd (hlog _ ((h.committed_iff id epoch).mp hc)) (by simp [Event.isStateStore])
  rw [append_iff hlog]
  rcases serveCall_cases hnc hev hs with ⟨id, rfl, rfl⟩ | ⟨id, epoch, -, rfl, rfl⟩ |
      ⟨id, epoch, -, rfl, rfl⟩
  · refine ⟨fun id' epoch' => ?_, fun id' _ hm => ?_, by simp⟩
    · rw [Function.update_apply]
      split_ifs <;> simp [hnc]
    · obtain ⟨rfl, -⟩ : id' = id ∧ _ := by simpa using hm
      simp
  · refine ⟨fun id' epoch' => ?_, by simp, by simp [Event.isFatal]⟩
    rw [Function.update_apply]
    split_ifs with hid
    · simp [hid, eq_comm]
    · simp [hid, hnc]
  · exact ⟨fun id' epoch' => by simp [hnc], by simp, by simp [Event.isFatal]⟩

/-- **Serving the calls of a step keeps the agreement**, as long as the log then holds at
most one call to the store. -/
theorem serveCalls (h : StoreAgrees store log)
    (hc : (log ++ calls).countP Event.isStateStore ≤ 1)
    (hs : AtomixCoordinator.serveCalls store calls = some store') :
    StoreAgrees store' (log ++ calls) := by
  induction calls generalizing store log with
  | nil =>
    cases hs
    simpa using h
  | cons ev calls ih =>
    rw [serveCalls_cons, Option.bind_eq_some] at hs
    obtain ⟨store₁, hs₁, hrest⟩ := hs
    have h₁ : StoreAgrees store₁ (log ++ [ev]) := by
      cases hev : ev.isStateStore
      · rw [serveCall_of_not_isStateStore hev] at hs₁
        cases hs₁
        exact h.append_of_not_isStateStore hev
      · have hlog : log.countP Event.isStateStore = 0 := by
          simp only [List.countP_append, List.countP_cons, hev, if_true] at hc
          omega
        exact h.serve (fun x hx => by simpa using List.countP_eq_zero.mp hlog x hx) hev hs₁
    simpa using ih h₁ (by simpa using hc) hrest

end StoreAgrees

/-! ### The system -/

/-- Modelled from the spec: the coordinator of a transaction and the state store. -/
structure System where
  coord : Config
  store : Uuid → StoreRecord

/-- The calls a call of the client makes: none once the run panicked. -/
def Config.stepCalls (k : Constants) (c : Config) (op : Op) (ans : Answers) : List Event :=
  if c.panicked then [] else (op.perform k ans c.tx).calls

theorem Config.trace_step (k : Constants) (c : Config) (op : Op) (ans : Answers) :
    (c.step k op ans).trace = c.trace ++ c.stepCalls k op ans := by
  cases h : c.panicked
  · simp [Config.stepCalls, h, Config.trace_step_of_live h]
  · simp [Config.stepCalls, h, Config.step_of_panicked h]

/-- Modelled from the spec: the configurations of the system some run reaches, the
state store serving the calls of the coordinator and aborts of other parties coming at any
point. -/
inductive SystemReachable (k : Constants) : System → Prop where
  /-- A fresh transaction, and a store that has recorded nothing. -/
  | init (id : Uuid) : SystemReachable k ⟨Config.init id, fun _ => .undecided⟩
  /-- A call of the client, whose calls to the state store the store serves. -/
  | call {sys : System} {store : Uuid → StoreRecord} (op : Op) (ans : Answers) :
      SystemReachable k sys → serveCalls sys.store (sys.coord.stepCalls k op ans) = some store →
      SystemReachable k ⟨sys.coord.step k op ans, store⟩
  /-- Another party aborts a transaction. -/
  | abortElsewhere {sys : System} (id : Uuid) :
      SystemReachable k sys →
      SystemReachable k ⟨sys.coord, Function.update sys.store id (sys.store id).tryAbort⟩

namespace SystemReachable

variable {k : Constants} {sys : System}

/-- The coordinator of the system runs as it does alone. -/
theorem reachable (h : SystemReachable k sys) : Reachable k sys.coord := by
  induction h with
  | init id => exact .init id
  | call op ans _ _ ih => exact .step op ans ih
  | abortElsewhere _ _ ih => exact ih

/-- **The store agrees with the log on every run.** -/
theorem storeAgrees (h : SystemReachable k sys) : StoreAgrees sys.store sys.coord.trace := by
  induction h with
  | init id => exact .init
  | @call sys store op ans hr hs ih =>
    have hc := (Reachable.step op ans hr.reachable).twoPhaseShape.decidesOnce.1
    rw [Config.trace_step] at hc ⊢
    exact ih.serveCalls hc hs
  | abortElsewhere id _ ih => exact ih.abortElsewhere id

/-- The store committed the transaction at an epoch exactly when the coordinator did and
its log holds that commit granted. -/
theorem committed_iff (h : SystemReachable k sys) (epoch : UInt64) :
    sys.store sys.coord.tx.id = .committed epoch ↔
      sys.coord.tx.state = .committed ∧
        .tryCommitTransaction sys.coord.tx.id epoch (some (.transactionIsCommitted epoch)) ∈
          sys.coord.trace := by
  rw [h.storeAgrees.committed_iff]
  exact ⟨fun hm => ⟨h.reachable.logsDecision.1.1.mpr ⟨epoch, hm⟩, hm⟩, And.right⟩

/-- A transaction the coordinator has not committed is not committed in the store. -/
theorem store_ne_committed (h : SystemReachable k sys) (hs : sys.coord.tx.state ≠ .committed)
    (epoch : UInt64) : sys.store sys.coord.tx.id ≠ .committed epoch :=
  fun hc => hs ((h.committed_iff epoch).mp hc).1

/-- A transaction the coordinator aborted is aborted in the store. -/
theorem store_aborted (h : SystemReachable k sys) (ha : sys.coord.tx.state = .aborted) :
    sys.store sys.coord.tx.id = .aborted :=
  let ⟨answer, hm⟩ := h.reachable.logsDecision.1.2.mp ha
  h.storeAgrees.aborted_of_mem _ answer hm

end SystemReachable

/-- **The coordinator and the state store agree.** On every run of the coordinator against
a state store that lets the first decision win, with aborts of other parties at any point,
no call to the store gets an answer the coordinator cannot handle, so the coordinator never
panics on one; the store commits the transaction at an epoch exactly when the coordinator
committed it and its log holds that commit granted; and a transaction the coordinator
aborted is aborted in the store. -/
theorem store_agrees_with_coordinator (k : Constants) (sys : System)
    (h : SystemReachable k sys) :
    (∀ ev ∈ sys.coord.trace, ev.isStateStore = true → ev.isFatal = false) ∧
      (sys.coord.panicked = true →
        ∃ ev, sys.coord.trace.getLast? = some ev ∧ ev.isStateStore = false) ∧
      (∀ epoch, sys.store sys.coord.tx.id = .committed epoch ↔
        sys.coord.tx.state = .committed ∧
          .tryCommitTransaction sys.coord.tx.id epoch (some (.transactionIsCommitted epoch)) ∈
            sys.coord.trace) ∧
      (sys.coord.tx.state = .aborted → sys.store sys.coord.tx.id = .aborted) := by
  refine ⟨h.storeAgrees.handled, fun hp => ?_, h.committed_iff, h.store_aborted⟩
  rw [h.reachable.panicked_eq_endsFatal, endsFatal_eq_true] at hp
  obtain ⟨ev, hl, hfatal⟩ := hp
  refine ⟨ev, hl, Bool.eq_false_iff.mpr fun hs => ?_⟩
  simp [h.storeAgrees.handled ev (List.mem_of_getLast?_eq_some hl) hs] at hfatal

/-- A `commit` that the state store grants at the epoch read: the store and the
coordinator both record the transaction committed at that epoch. -/
theorem store_agrees_with_coordinator_after_commit :
    SystemReachable ⟨0, 0⟩
        ⟨(Config.init 0).step ⟨0, 0⟩ .commit (.committing 1),
          Function.update (fun _ => StoreRecord.undecided) 0 (.committed 1)⟩ ∧
      (∀ ev ∈ ((Config.init 0).step ⟨0, 0⟩ .commit (.committing 1)).trace,
        ev.isStateStore = true → ev.isFatal = false) ∧
      (((Config.init 0).step ⟨0, 0⟩ .commit (.committing 1)).panicked = true →
        ∃ ev, ((Config.init 0).step ⟨0, 0⟩ .commit (.committing 1)).trace.getLast? = some ev ∧
          ev.isStateStore = false) ∧
      (∀ epoch, Function.update (fun _ => StoreRecord.undecided) 0 (.committed 1)
          ((Config.init 0).step ⟨0, 0⟩ .commit (.committing 1)).tx.id = .committed epoch ↔
        ((Config.init 0).step ⟨0, 0⟩ .commit (.committing 1)).tx.state = .committed ∧
          .tryCommitTransaction ((Config.init 0).step ⟨0, 0⟩ .commit (.committing 1)).tx.id epoch
              (some (.transactionIsCommitted epoch)) ∈
            ((Config.init 0).step ⟨0, 0⟩ .commit (.committing 1)).trace) ∧
      (((Config.init 0).step ⟨0, 0⟩ .commit (.committing 1)).tx.state = .aborted →
        Function.update (fun _ => StoreRecord.undecided) 0 (.committed 1)
          ((Config.init 0).step ⟨0, 0⟩ .commit (.committing 1)).tx.id = .aborted) :=
  have h : SystemReachable ⟨0, 0⟩
      ⟨(Config.init 0).step ⟨0, 0⟩ .commit (.committing 1),
        Function.update (fun _ => StoreRecord.undecided) 0 (.committed 1)⟩ :=
    @SystemReachable.call ⟨0, 0⟩ ⟨Config.init 0, fun _ => .undecided⟩ _ .commit (.committing 1)
      (.init 0) rfl
  ⟨h, store_agrees_with_coordinator ⟨0, 0⟩ _ h⟩

end AtomixCoordinator
