import AtomixCoordinator.Steps.Read

/-!
# What committing does

From a running transaction, `commit` marks it `Preparing`, dispatches one prepare to each
participant range (`AtomixCoordinator.prepareCalls`), reads the epoch, and takes the
results of the prepares in the order the join set gives them back. The join loop stops at
the first failure (`AtomixCoordinator.prepareJoinLoop_cases`): a task that failed aborts
the transaction, a range client error goes to the unwritten translation, which panics.
If every prepare succeeded, the state store is asked to commit at the epoch read, and its
answer decides the rest (`AtomixCoordinator.commitDecision`).
-/

namespace AtomixCoordinator

open Coord

/-- The join event of a prepare that succeeded. -/
def joinPrepared (rangeId : FullRangeId) : Event := .joinPrepare rangeId .prepared

/-! ### The join loop -/

section JoinLoop

variable {ans : Answers}

theorem prepareJoinLoop_of_prepared {l : List FullRangeId}
    (h : ∀ r ∈ l, ans.prepareTransaction r = .prepared) (tx : Transaction) :
    prepareJoinLoop ans l tx = ⟨tx, l.map joinPrepared, .ok ()⟩ := by
  induction l with
  | nil => rfl
  | cons r l ih =>
    have hr := h r (List.mem_cons_self r l)
    simp [prepareJoinLoop, hr, ih fun r' hr' => h r' (List.mem_cons_of_mem r hr'), joinPrepared]

/-- **What the join loop does.** Either every prepare succeeded, or the loop took the
successes before the first failure and stopped there: a failed task records an abort, a
range client error panics. -/
theorem prepareJoinLoop_cases (l : List FullRangeId) (tx : Transaction) :
    ((∀ r ∈ l, ans.prepareTransaction r = .prepared) ∧
        prepareJoinLoop ans l tx = ⟨tx, l.map joinPrepared, .ok ()⟩) ∨
      ∃ pre r post, l = pre ++ r :: post ∧ (∀ r' ∈ pre, ans.prepareTransaction r' = .prepared) ∧
        ((ans.prepareTransaction r = .joinError ∧
            prepareJoinLoop ans l tx = ⟨{ tx with state := .aborted },
              pre.map joinPrepared ++ .joinPrepare r .joinError :: abortCalls tx ans.tryAbortTransaction,
              abortedWith ans.tryAbortTransaction (.transactionAborted .prepareFailed)⟩) ∨
          (ans.prepareTransaction r = .rangeClientError ∧
            prepareJoinLoop ans l tx = ⟨tx, pre.map joinPrepared ++ [.joinPrepare r .rangeClientError],
              .panic⟩)) := by
  induction l with
  | nil => exact .inl ⟨by simp, rfl⟩
  | cons r l ih =>
    cases hr : ans.prepareTransaction r with
    | joinError =>
      refine .inr ⟨[], r, l, rfl, by simp, .inl ⟨hr, ?_⟩⟩
      simp [prepareJoinLoop, hr, recordAbort_bind_throw]
    | rangeClientError =>
      refine .inr ⟨[], r, l, rfl, by simp, .inr ⟨hr, ?_⟩⟩
      simp [prepareJoinLoop, hr, errorFromRangeclientError]
    | prepared =>
      have hstep : prepareJoinLoop ans (r :: l) tx = (prepareJoinLoop ans l tx).prepend
          [joinPrepared r] := by
        simp [prepareJoinLoop, hr, joinPrepared]
      rcases ih with ⟨hall, hl⟩ | ⟨pre, r', post, rfl, hpre, hfail⟩
      · refine .inl ⟨?_, by simp [hstep, hl]⟩
        simpa [hr] using hall
      · refine .inr ⟨r :: pre, r', post, rfl, by simpa [hr] using hpre, ?_⟩
        rcases hfail with ⟨hj, hl⟩ | ⟨hc, hl⟩
        · exact .inl ⟨hj, by simp [hstep, hl]⟩
        · exact .inr ⟨hc, by simp [hstep, hl]⟩

end JoinLoop

/-! ### Commit -/

/-- The prepares `commit` dispatches: one to each participant range, carrying what the
transaction read, wrote and deleted there. -/
def prepareCalls (tx : Transaction) : List Event :=
  tx.participantRanges.entries.map fun e => .prepareTransaction e.1 (prepareRequest e.2)

/-- What `commit` does once every prepare succeeded: ask the state store to commit at
`epoch`, and, if it did so at that epoch, mark the transaction committed and tell every
participant range. -/
def commitDecision (tx : Transaction) (epoch : UInt64) (answer : Option OpResult) :
    Outcome Unit :=
  match answer with
  | some (.transactionIsCommitted committedEpoch) =>
    if committedEpoch = epoch then
      ⟨{ tx with state := .committed }, .tryCommitTransaction tx.id epoch answer ::
        tx.participantRanges.keys.map (.commitTransaction · epoch), .ok ()⟩
    else ⟨tx, [.tryCommitTransaction tx.id epoch answer], .panic⟩
  | some .transactionIsAborted =>
    ⟨tx, [.tryCommitTransaction tx.id epoch answer], .err (.transactionAborted .other)⟩
  | none => ⟨tx, [.tryCommitTransaction tx.id epoch answer], .panic⟩

section Commit

variable {ans : Answers} {tx : Transaction}

/-- The order in which the join set gives back the prepares of `tx`. -/
abbrev joinOrderOf (ans : Answers) (tx : Transaction) : List FullRangeId :=
  ans.joinOrder.order tx.participantRanges.keys

theorem commit_of_not_running (h : tx.state ≠ .running) :
    commit ans tx = ⟨tx, [], .err tx.state.stillRunningError⟩ := by
  rw [commit, checkStillRunning_bind, if_neg h]

/-- A failed epoch read panics once the prepares are out. -/
theorem commit_of_readEpoch_none (h : tx.state = .running) (he : ans.readEpoch = none) :
    commit ans tx = ⟨{ tx with state := .preparing }, prepareCalls tx ++ [.readEpoch none],
      .panic⟩ := by
  rw [commit, checkStillRunning_bind, if_pos h]
  simp [he, prepareCalls]

/-- **A prepare that failed ends the commit** where the join loop stopped. -/
theorem commit_of_prepare_failed {epoch : UInt64} (h : tx.state = .running)
    (he : ans.readEpoch = some epoch)
    (hl : ∀ u, (prepareJoinLoop ans (joinOrderOf ans tx) { tx with state := .preparing }).ret ≠ .ok u) :
    commit ans tx = (prepareJoinLoop ans (joinOrderOf ans tx) { tx with state := .preparing }).prepend
      (prepareCalls tx ++ [.readEpoch (some epoch)]) := by
  rw [commit, checkStillRunning_bind, if_pos h]
  simp only [modifyTx_bind, getTx_bind, emit_bind, he]
  generalize hl' : prepareJoinLoop ans (joinOrderOf ans tx) { tx with state := .preparing } = o at hl
  obtain ⟨tx', calls, r⟩ := o
  cases r with
  | ok u => exact absurd rfl (hl u)
  | err e => simp [bind_of_err hl', prepareCalls]
  | panic => simp [bind_of_panic hl', prepareCalls]

/-- **Once every prepare succeeded, the state store decides.** -/
theorem commit_of_prepared {epoch : UInt64} (h : tx.state = .running)
    (he : ans.readEpoch = some epoch)
    (hp : ∀ r ∈ tx.participantRanges.keys, ans.prepareTransaction r = .prepared) :
    commit ans tx = (commitDecision { tx with state := .preparing } epoch ans.tryCommitTransaction).prepend
      (prepareCalls tx ++ .readEpoch (some epoch) :: (joinOrderOf ans tx).map joinPrepared) := by
  have hp' : ∀ r ∈ joinOrderOf ans tx, ans.prepareTransaction r = .prepared :=
    fun r hr => hp r ((ans.joinOrder.perm _).subset hr)
  rw [commit, checkStillRunning_bind, if_pos h]
  simp only [modifyTx_bind, getTx_bind, emit_bind, he]
  rw [bind_of_ok (prepareJoinLoop_of_prepared hp' _)]
  cases hc : ans.tryCommitTransaction with
  | none => simp [hc, commitDecision, prepareCalls]
  | some r =>
    cases r with
    | transactionIsAborted => simp [hc, commitDecision, prepareCalls]
    | transactionIsCommitted committedEpoch =>
      by_cases hce : committedEpoch = epoch <;> simp [hc, hce, commitDecision, prepareCalls]

/-- **What `commit` can do** from a running transaction: panic on a failed epoch read;
hand over to the state store once every prepare succeeded; or stop at the first prepare
that failed, recording an abort if the task failed and panicking on a range client
error. -/
theorem commit_cases (h : tx.state = .running) :
    (ans.readEpoch = none ∧ commit ans tx =
        ⟨{ tx with state := .preparing }, prepareCalls tx ++ [.readEpoch none], .panic⟩) ∨
      (∃ epoch, ans.readEpoch = some epoch ∧
        (∀ r ∈ tx.participantRanges.keys, ans.prepareTransaction r = .prepared) ∧
        commit ans tx = (commitDecision { tx with state := .preparing } epoch
          ans.tryCommitTransaction).prepend
            (prepareCalls tx ++ .readEpoch (some epoch) :: (joinOrderOf ans tx).map joinPrepared)) ∨
      (∃ epoch pre r post, ans.readEpoch = some epoch ∧ joinOrderOf ans tx = pre ++ r :: post ∧
        (∀ r' ∈ pre, ans.prepareTransaction r' = .prepared) ∧
        ((ans.prepareTransaction r = .joinError ∧ commit ans tx =
            ⟨{ tx with state := .aborted }, prepareCalls tx ++ .readEpoch (some epoch) ::
              (pre.map joinPrepared ++ .joinPrepare r .joinError :: abortCalls tx ans.tryAbortTransaction),
              abortedWith ans.tryAbortTransaction (.transactionAborted .prepareFailed)⟩) ∨
          (ans.prepareTransaction r = .rangeClientError ∧ commit ans tx =
            ⟨{ tx with state := .preparing }, prepareCalls tx ++ .readEpoch (some epoch) ::
              (pre.map joinPrepared ++ [.joinPrepare r .rangeClientError]), .panic⟩))) := by
  cases he : ans.readEpoch with
  | none => exact .inl ⟨rfl, commit_of_readEpoch_none h he⟩
  | some epoch =>
    refine .inr ?_
    rcases @prepareJoinLoop_cases ans (joinOrderOf ans tx) { tx with state := .preparing }
      with ⟨hall, -⟩ | ⟨pre, r, post, hl, hpre, hfail⟩
    · exact .inl ⟨epoch, rfl, fun r hr => hall r ((ans.joinOrder.perm _).symm.subset hr),
        commit_of_prepared h he fun r hr => hall r ((ans.joinOrder.perm _).symm.subset hr)⟩
    · refine .inr ⟨epoch, pre, r, post, rfl, hl, hpre, ?_⟩
      rcases hfail with ⟨hj, hloop⟩ | ⟨hc, hloop⟩
      · refine .inl ⟨hj, ?_⟩
        rw [commit_of_prepare_failed h he (by simp [hloop]), hloop]
        simp [abortCalls]
      · refine .inr ⟨hc, ?_⟩
        rw [commit_of_prepare_failed h he (by simp [hloop]), hloop]
        simp

end Commit

end AtomixCoordinator
