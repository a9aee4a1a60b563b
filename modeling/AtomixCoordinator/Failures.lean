import AtomixCoordinator.Lifecycle

/-!
# What a failed call leaves

A call of the client API that returns an error other than `TransactionAborted` failed
before it touched a participant range: at the state check, or while resolving its key.
The first changes nothing; the second may have cached the keyspace it resolved and made
lookups, and nothing else (`AtomixCoordinator.failed_call_changes_only_cache`). The errors
a read from a range, a prepare or the state store can cause are all `TransactionAborted`
(`AtomixCoordinator.readYourWrites_err_isAborted`,
`AtomixCoordinator.commit_err_isAborted_of_running`).

What a `TransactionAborted` error reports depends on its reason
(`AtomixCoordinator.aborted_error_reported`): a leadership change comes only from `get`
and a failed prepare only from `commit`, both after the abort was recorded; `Other` comes
from the state check of a transaction aborted before, or from a `commit` the state store
refused – the one case where the error does not mean that the transaction is aborted.
-/

namespace AtomixCoordinator

/-- What a call that failed before any participant range may have done to `tx`: cache the
id of one keyspace that was not cached, and ask the universe directory and the oracle;
nothing else changed, and no range server or state store was called. -/
def Outcome.OnlyResolved (tx : Transaction) (o : Outcome α) : Prop :=
  o.tx = tx.withCache o.tx.resolvedKeyspaces ∧ (∀ ev ∈ o.calls, ev.isLookup = true) ∧
    (o.tx.resolvedKeyspaces = tx.resolvedKeyspaces ∨
      ∃ ks id, ks ∉ tx.resolvedKeyspaces ∧
        o.tx.resolvedKeyspaces = tx.resolvedKeyspaces.insert ks id)

namespace Outcome

variable {tx : Transaction}

@[simp] theorem onlyResolved_map (f : α → β) (o : Outcome α) :
    (o.map f).OnlyResolved tx ↔ o.OnlyResolved tx := Iff.rfl

theorem onlyResolved_self (r : Ret α) : (⟨tx, [], r⟩ : Outcome α).OnlyResolved tx :=
  ⟨rfl, by simp, .inl rfl⟩

theorem onlyResolved_of_resolution {ks : Keyspace} {cache : HashMap Keyspace KeyspaceId}
    {calls : List Event} (h : Resolution ks tx.resolvedKeyspaces cache calls) (r : Ret α) :
    (⟨tx.withCache cache, calls, r⟩ : Outcome α).OnlyResolved tx := by
  refine ⟨rfl, h.isLookup, ?_⟩
  rcases h.grows with h | ⟨id, hks, h⟩
  · exact .inl h
  · exact .inr ⟨ks, id, hks, h⟩

end Outcome

/-! ### The errors that end a transaction -/

theorem abortedWith_eq_err {answer : Option OpResult} {e e' : Error}
    (h : (abortedWith answer e : Ret α) = .err e') : e' = e := by
  unfold abortedWith at h
  split at h <;> cases h
  rfl

/-- A read that fails returns `TransactionAborted`. -/
theorem readYourWrites_err_isAborted {k : Constants} {ans : Answers} {rangeId : FullRangeId}
    {key : Bytes} {tx : Transaction} {e : Error}
    (h : (readYourWrites k ans rangeId key tx).ret = .err e) : e.isAborted = true := by
  rcases readYourWrites_cases k ans rangeId key tx with ⟨_, -, hr⟩ | ⟨-, -, hr⟩ | ⟨-, -, hr⟩
  · simp [hr] at h
  · simp [hr] at h
  · rw [hr] at h
    rcases readFromRange_cases k ans rangeId key (tx.touch rangeId) with
      ⟨-, hf⟩ | ⟨_, -, -, hf⟩ | ⟨res, -, -, hf⟩
    · simp [hf] at h
    · rw [hf] at h
      rw [abortedWith_eq_err h]
      rfl
    · rw [hf] at h
      cases hv : res.vals.head? <;> simp [hv] at h

/-- A commit entered from a running transaction fails only with `TransactionAborted`. -/
theorem commit_err_isAborted_of_running {ans : Answers} {tx : Transaction} {e : Error}
    (hs : tx.state = .running) (h : (commit ans tx).ret = .err e) : e.isAborted = true := by
  rcases (@commit_cases ans _ hs) with ⟨-, hc⟩ | ⟨epoch, -, -, hc⟩ |
      ⟨_, _, _, _, -, -, -, ⟨-, hc⟩ | ⟨-, hc⟩⟩
  · simp [hc] at h
  · rw [hc, Outcome.prepend_ret] at h
    unfold commitDecision at h
    split at h
    · split_ifs at h
    · cases h
      rfl
    · cases h
  · rw [hc] at h
    rw [abortedWith_eq_err h]
    rfl
  · simp [hc] at h

/-! ### Failed calls -/

/-- A `put` or `del` that fails changes nothing but the keyspace cache: it failed before it
reached the participant range. -/
theorem bufferMutation_onlyResolved (ans : Answers) (ks : Keyspace) (key : Bytes)
    (update : ParticipantRange → ParticipantRange) (tx : Transaction) {e : Error}
    (h : (bufferMutation ans ks key update tx).ret = .err e) :
    (bufferMutation ans ks key update tx).OnlyResolved tx := by
  rcases bufferMutation_cases ans ks key tx update with
    ⟨-, hb⟩ | ⟨-, cache, calls, hres, ⟨_, -, -, hb⟩ | ⟨r, -, -, hb⟩⟩ <;> rw [hb]
  · exact Outcome.onlyResolved_self _
  · simp [hb] at h
  · exact Outcome.onlyResolved_of_resolution hres r

/-- **A call that fails with an error other than `TransactionAborted` changes nothing but
the keyspace cache**, which gains at most one entry, and calls neither a range server
nor the state store. -/
theorem failed_call_changes_only_cache (k : Constants) (op : Op) (ans : Answers)
    (tx : Transaction) (e : Error) (h : (op.perform k ans tx).ret = .err e)
    (he : e.isAborted = false) : (op.perform k ans tx).OnlyResolved tx := by
  cases op <;> simp only [Op.perform_get, Op.perform_put, Op.perform_del, Op.perform_commit,
    Op.perform_abort, Outcome.onlyResolved_map, Outcome.map_ret, Ret.map_eq_err_iff] at h ⊢
  case get ks key =>
    rcases get_cases k ans ks key tx with ⟨-, hg⟩ | ⟨-, cache, calls, hres, ⟨rangeId, -, -, hg⟩ | ⟨r, -, -, hg⟩⟩
    · rw [hg]
      exact Outcome.onlyResolved_self _
    · rw [hg, Outcome.prepend_ret] at h
      simp [readYourWrites_err_isAborted h] at he
    · rw [hg]
      exact Outcome.onlyResolved_of_resolution hres r
  case put ks key val => exact bufferMutation_onlyResolved ans ks key _ tx h
  case del ks key => exact bufferMutation_onlyResolved ans ks key _ tx h
  case commit =>
    by_cases hs : tx.state = .running
    · simp [commit_err_isAborted_of_running hs h] at he
    · rw [commit_of_not_running hs]
      exact Outcome.onlyResolved_self _
  case abort =>
    rw [abort_apply] at h ⊢
    split_ifs at h ⊢
    · rw [recordAbort_apply] at h
      split at h <;> cases h
    · exact Outcome.onlyResolved_self _

/-- Putting into a keyspace the universe directory does not know fails with
`KeyspaceDoesNotExist`, and leaves the transaction as it was. -/
theorem failed_put_of_unknown_keyspace :
    ((Op.put ⟨"", ""⟩ [] []).perform ⟨0, 0⟩ Answers.failing (Transaction.new 0)).ret =
        .err .keyspaceDoesNotExist ∧
      ((Op.put ⟨"", ""⟩ [] []).perform ⟨0, 0⟩ Answers.failing (Transaction.new 0)).OnlyResolved
        (Transaction.new 0) :=
  ⟨rfl, failed_call_changes_only_cache ⟨0, 0⟩ (.put ⟨"", ""⟩ [] []) Answers.failing
    (Transaction.new 0) .keyspaceDoesNotExist rfl rfl⟩

/-! ### Errors that report an abort -/

/-- What a call that returned `TransactionAborted reason` to `tx` did, by reason: a
leadership change or a failed prepare is reported once the abort was recorded; `Other`
either by the state check of a transaction aborted before, which changes nothing, or by a
commit the state store refused, which leaves the transaction preparing. -/
def Outcome.ReportsAbort (tx : Transaction) (o : Outcome α) : TransactionAbortReason → Prop
  | .rangeLeadershipChanged | .prepareFailed =>
    tx.state = .running ∧ o.tx.state = .aborted ∧
      ∃ answer, .tryAbortTransaction tx.id answer ∈ o.calls
  | .other =>
    (tx.state = .aborted ∧ o.tx = tx ∧ o.calls = []) ∨
      (tx.state = .running ∧ o.tx.state = .preparing ∧
        ∃ epoch, .tryCommitTransaction tx.id epoch (some .transactionIsAborted) ∈ o.calls)

section ReportsAbort

variable {k : Constants} {ans : Answers} {tx : Transaction} {reason : TransactionAbortReason}

@[simp] theorem Outcome.reportsAbort_map (f : α → β) (o : Outcome α) :
    (o.map f).ReportsAbort tx reason ↔ o.ReportsAbort tx reason := Iff.rfl

theorem State.stillRunningError_eq_aborted {s : State}
    (h : s.stillRunningError = .transactionAborted reason) : s = .aborted ∧ reason = .other := by
  cases s <;> simp [State.stillRunningError] at h ⊢
  exact h.symm

/-- A read reports an abort only when the range's leader changed, after recording it. -/
theorem readYourWrites_reportsAbort {rangeId : FullRangeId} {key : Bytes}
    (h : (readYourWrites k ans rangeId key tx).ret = .err (.transactionAborted reason)) :
    reason = .rangeLeadershipChanged ∧ (readYourWrites k ans rangeId key tx).tx.state = .aborted ∧
      ∃ answer, .tryAbortTransaction tx.id answer ∈ (readYourWrites k ans rangeId key tx).calls := by
  rcases readYourWrites_cases k ans rangeId key tx with ⟨_, -, hr⟩ | ⟨-, -, hr⟩ | ⟨-, -, hr⟩ <;>
    rw [hr] at h ⊢
  · simp at h
  · simp at h
  rcases readFromRange_cases k ans rangeId key (tx.touch rangeId) with
    ⟨-, hf⟩ | ⟨_, -, -, hf⟩ | ⟨res, -, -, hf⟩ <;> rw [hf] at h ⊢
  · simp at h
  · obtain rfl := Error.transactionAborted.inj (abortedWith_eq_err h)
    simp [abortCalls]
  · cases hv : res.vals.head? <;> simp [hv] at h

theorem get_reportsAbort {ks : Keyspace} {key : Bytes} (hs : tx.state = .running)
    (h : (get k ans ks key tx).ret = .err (.transactionAborted reason)) :
    reason = .rangeLeadershipChanged ∧ (get k ans ks key tx).ReportsAbort tx reason := by
  rcases get_cases k ans ks key tx with
    ⟨hs', -⟩ | ⟨-, cache, calls, hres, ⟨rangeId, -, -, hg⟩ | ⟨r, hr, -, hg⟩⟩
  · exact absurd hs hs'
  · rw [hg, Outcome.prepend_ret] at h
    obtain ⟨rfl, hst, answer, ha⟩ := readYourWrites_reportsAbort h
    rw [hg]
    exact ⟨rfl, hs, hst, answer, List.mem_append_right _ (by simpa using ha)⟩
  · rw [hg] at h
    subst h
    simp [Ret.FailedLookup, Error.isAborted] at hr

theorem bufferMutation_ret_ne_aborted {ks : Keyspace} {key : Bytes}
    {update : ParticipantRange → ParticipantRange} (hs : tx.state = .running) :
    (bufferMutation ans ks key update tx).ret ≠ .err (.transactionAborted reason) := by
  rcases bufferMutation_cases ans ks key tx update with
    ⟨hs', -⟩ | ⟨-, cache, calls, hres, ⟨_, -, -, hb⟩ | ⟨r, hr, -, hb⟩⟩
  · exact absurd hs hs'
  · simp [hb]
  · rw [hb]
    rintro rfl
    simp [Ret.FailedLookup, Error.isAborted] at hr

/-- A commit reports an abort after a failed prepare task, once it recorded the abort, or
when the state store refused the commit, leaving the transaction preparing. -/
theorem commit_reportsAbort (hs : tx.state = .running)
    (h : (commit ans tx).ret = .err (.transactionAborted reason)) :
    (reason = .prepareFailed ∨ reason = .other) ∧ (commit ans tx).ReportsAbort tx reason := by
  rcases @commit_cases ans _ hs with ⟨-, hc⟩ | ⟨epoch, -, -, hc⟩ |
      ⟨epoch, pre, r, post, -, -, -, ⟨-, hc⟩ | ⟨-, hc⟩⟩ <;> rw [hc] at h ⊢
  · simp at h
  · rw [Outcome.prepend_ret] at h
    generalize ans.tryCommitTransaction = answer at h ⊢
    unfold commitDecision at h ⊢
    split at h
    · split_ifs at h
    · cases h
      exact ⟨.inr rfl, .inr ⟨hs, rfl, epoch, by simp⟩⟩
    · cases h
  · obtain rfl := Error.transactionAborted.inj (abortedWith_eq_err h)
    exact ⟨.inl rfl, hs, rfl, ans.tryAbortTransaction, by simp [abortCalls]⟩
  · simp at h

/-- Every call of a running transaction that reports an abort does what the reason says. -/
theorem Op.perform_reportsAbort_of_running (op : Op) (hs : tx.state = .running)
    (h : (op.perform k ans tx).ret = .err (.transactionAborted reason)) :
    (op.perform k ans tx).ReportsAbort tx reason ∧
      (reason = .rangeLeadershipChanged → ∃ ks key, op = .get ks key) ∧
      (reason = .prepareFailed → op = .commit) ∧ (reason = .other → op = .commit) := by
  cases op <;> simp only [Op.perform_get, Op.perform_put, Op.perform_del, Op.perform_commit,
    Op.perform_abort, Outcome.reportsAbort_map, Outcome.map_ret, Ret.map_eq_err_iff] at h ⊢
  case get ks key =>
    obtain ⟨rfl, hr⟩ := get_reportsAbort hs h
    exact ⟨hr, fun _ => ⟨ks, key, rfl⟩, nofun, nofun⟩
  case put ks key val => exact absurd h (bufferMutation_ret_ne_aborted hs)
  case del ks key => exact absurd h (bufferMutation_ret_ne_aborted hs)
  case commit =>
    obtain ⟨hreason, hr⟩ := commit_reportsAbort hs h
    refine ⟨hr, ?_, fun _ => trivial, fun _ => trivial⟩
    rintro rfl
    simp at hreason
  case abort =>
    rw [abort_apply, if_neg (by simp [hs]), if_pos hs, recordAbort_apply] at h
    split at h <;> cases h

end ReportsAbort

/-- **What a `TransactionAborted` error reports.** A call that returns
`TransactionAborted(RangeLeadershipChanged)` is a `get` of a running transaction, and
`TransactionAborted(PrepareFailed)` a `commit` of one; both left the transaction aborted
and asked the state store to abort it. `TransactionAborted(Other)` comes either from the
state check of a transaction that was aborted before, and then nothing changed and
nothing was sent, or from a `commit` of a running transaction whose `try_commit` the state
store answered aborted, which leaves the transaction preparing. -/
theorem aborted_error_reported (k : Constants) (op : Op) (ans : Answers) (tx : Transaction)
    (reason : TransactionAbortReason)
    (h : (op.perform k ans tx).ret = .err (.transactionAborted reason)) :
    (op.perform k ans tx).ReportsAbort tx reason ∧
      (reason = .rangeLeadershipChanged → ∃ ks key, op = .get ks key) ∧
      (reason = .prepareFailed → op = .commit) ∧
      (reason = .other → tx.state = .running → op = .commit) := by
  by_cases hs : tx.state = .running
  · obtain ⟨hr, h1, h2, h3⟩ := Op.perform_reportsAbort_of_running op hs h
    exact ⟨hr, h1, h2, fun h _ => h3 h⟩
  · by_cases hop : op = .abort
    · subst hop
      rw [Op.perform_abort, Outcome.map_ret, Ret.map_eq_err_iff, abort_apply] at h
      split_ifs at h with ha
      exact absurd (State.stillRunningError_eq_aborted (Ret.err.inj h)).1 ha
    · rw [Op.perform_of_not_running k hop ans hs] at h ⊢
      obtain ⟨hst, rfl⟩ := State.stillRunningError_eq_aborted (Ret.err.inj h)
      exact ⟨.inl ⟨hst, rfl, rfl⟩, nofun, nofun, fun _ h => absurd h hs⟩

/-- A fresh transaction whose commit the state store refuses: the error reports an abort, and
the transaction is left preparing. -/
theorem aborted_error_reported_of_store_refusal :
    (Op.commit.perform ⟨0, 0⟩ storeAborts (Transaction.new 0)).ret =
        .err (.transactionAborted .other) ∧
      (Op.commit.perform ⟨0, 0⟩ storeAborts (Transaction.new 0)).ReportsAbort (Transaction.new 0)
        .other ∧
      (TransactionAbortReason.other = .rangeLeadershipChanged → ∃ ks key, Op.commit = .get ks key) ∧
      (TransactionAbortReason.other = .prepareFailed → Op.commit = .commit) ∧
      (TransactionAbortReason.other = .other → (Transaction.new 0).state = .running →
        Op.commit = .commit) :=
  have h : (Op.commit.perform ⟨0, 0⟩ storeAborts (Transaction.new 0)).ret =
      .err (.transactionAborted .other) := rfl
  ⟨h, aborted_error_reported ⟨0, 0⟩ .commit storeAborts (Transaction.new 0) .other h⟩

end AtomixCoordinator
