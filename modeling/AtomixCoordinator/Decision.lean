import AtomixCoordinator.TwoPhase

/-!
# The state records the decision

`Transaction.state` is the coordinator's own memory of how a transaction ended, and the
log says what it asked of the transaction state store. The two agree on every run
(`AtomixCoordinator.state_records_decision`): a transaction is committed exactly when its
log holds a `try_commit_transaction` that the state store answered committed at the epoch
asked, and aborted exactly when its log holds a `try_abort_transaction`.

The second half is what `record_abort` makes true: it marks the transaction aborted before
it calls the state store, and the mark stays whatever the store answers. The first is
what the commit path makes true: only the answer committed at the epoch asked moves the
state to committed. A store that answers aborted to the commit leaves the transaction
preparing, and its log then holds no abort either (`AtomixCoordinator.commit_of_store_aborted`).

The same calls make the log end with the decision
(`AtomixCoordinator.log_ends_with_decision`): a committed transaction's log ends with the
commit the store granted and a commit to every participant range, an aborted one's with
an abort to every participant range and the abort asked of the store, so every
participant is told how the transaction ended.

As for the shape of the log, both are settled per method for a running transaction
(`AtomixCoordinator.Op.perform_logsDecision`) – the reads of the log so far record
nothing – and a call of one that is not running changes nothing.
-/

namespace AtomixCoordinator

/-- **The state records the decision of the log**: committed exactly when the log holds a
commit the state store granted at the epoch asked, aborted exactly when it holds an abort
asked of the state store. -/
def DecisionRecorded (tx : Transaction) (trace : List Event) : Prop :=
  (tx.state = .committed ↔
      ∃ epoch, .tryCommitTransaction tx.id epoch (some (.transactionIsCommitted epoch)) ∈ trace) ∧
    (tx.state = .aborted ↔ ∃ answer, .tryAbortTransaction tx.id answer ∈ trace)

/-- The calls that end a commit the state store granted at `epoch`: the grant, then a
commit at `epoch` to every participant range. -/
def commitCalls (tx : Transaction) (epoch : UInt64) : List Event :=
  .tryCommitTransaction tx.id epoch (some (.transactionIsCommitted epoch)) ::
    tx.participantRanges.keys.map (.commitTransaction · epoch)

/-- **The log ends with the decision**: that of a committed transaction with the commit the
state store granted and a commit to every participant range, that of an aborted one with
an abort to every participant range and the abort asked of the state store. -/
def EndsWithDecision (tx : Transaction) (trace : List Event) : Prop :=
  (tx.state = .committed → ∃ pre epoch, trace = pre ++ commitCalls tx epoch) ∧
    (tx.state = .aborted → ∃ pre answer, trace = pre ++ abortCalls tx answer)

/-- What a call logs of its decision: its state records the decision its calls made, and
its calls end with it. -/
def LogsDecision (tx : Transaction) (calls : List Event) : Prop :=
  DecisionRecorded tx calls ∧ EndsWithDecision tx calls

section Building

variable {tx : Transaction} {reads calls : List Event}

theorem AllReads.not_mem {ev : Event} (h : AllReads reads) (hev : ev.isRead = false) :
    ev ∉ reads :=
  fun hm => by simpa [hev] using h ev hm

/-- Reads record no decision. -/
theorem DecisionRecorded.reads_append (h : AllReads reads) :
    DecisionRecorded tx (reads ++ calls) ↔ DecisionRecorded tx calls := by
  simp [DecisionRecorded, h.not_mem]

/-- Calls made before the decision leave it at the end of the log. -/
theorem EndsWithDecision.prepend (pre : List Event) (h : EndsWithDecision tx calls) :
    EndsWithDecision tx (pre ++ calls) := by
  refine ⟨fun hc => ?_, fun ha => ?_⟩
  · obtain ⟨p, epoch, rfl⟩ := h.1 hc
    exact ⟨pre ++ p, epoch, (List.append_assoc _ _ _).symm⟩
  · obtain ⟨p, answer, rfl⟩ := h.2 ha
    exact ⟨pre ++ p, answer, (List.append_assoc _ _ _).symm⟩

theorem EndsWithDecision.of_undecided (hc : tx.state ≠ .committed) (ha : tx.state ≠ .aborted) :
    EndsWithDecision tx calls :=
  ⟨fun h => absurd h hc, fun h => absurd h ha⟩

theorem LogsDecision.reads_append (h : AllReads reads) (h' : LogsDecision tx calls) :
    LogsDecision tx (reads ++ calls) :=
  ⟨(DecisionRecorded.reads_append h).mpr h'.1, h'.2.prepend reads⟩

/-- A running transaction that only read has decided nothing. -/
theorem LogsDecision.of_allReads (hs : tx.state = .running) (h : AllReads calls) :
    LogsDecision tx calls :=
  ⟨by simp [DecisionRecorded, hs, h.not_mem], .of_undecided (by simp [hs]) (by simp [hs])⟩

/-- Reads, then the calls of `record_abort`. -/
theorem LogsDecision.of_abortCalls (answer : Option OpResult) (pre : List Event) (h : AllReads pre) :
    LogsDecision { tx with state := .aborted } (pre ++ abortCalls tx answer) :=
  ⟨by simp [DecisionRecorded, h.not_mem, abortCalls], nofun, fun _ => ⟨pre, answer, rfl⟩⟩

end Building

/-! ### Every method logs its decision -/

section Methods

variable (k : Constants) (ans : Answers) (ks : Keyspace) (key : Bytes) {tx : Transaction}

theorem readFromRange_logsDecision (rangeId : FullRangeId) (hs : tx.state = .running) :
    LogsDecision (readFromRange k ans rangeId key tx).tx
      (readFromRange k ans rangeId key tx).calls := by
  rcases readFromRange_cases k ans rangeId key tx with ⟨-, h⟩ | ⟨res, -, -, h⟩ | ⟨_, -, -, h⟩ <;>
    rw [h]
  · exact .of_allReads hs (by simp [AllReads, Event.isRead])
  · exact .of_abortCalls _ [.get rangeId [key] (some res)] (by simp [AllReads, Event.isRead])
  · exact .of_allReads (by simpa using hs) (by simp [AllReads, Event.isRead])

theorem readYourWrites_logsDecision (rangeId : FullRangeId) (hs : tx.state = .running) :
    LogsDecision (readYourWrites k ans rangeId key tx).tx
      (readYourWrites k ans rangeId key tx).calls := by
  have hs' : (tx.touch rangeId).state = .running := by simp [hs]
  rcases readYourWrites_cases k ans rangeId key tx with ⟨_, -, h⟩ | ⟨-, -, h⟩ | ⟨-, -, h⟩ <;> rw [h]
  · exact .of_allReads hs' allReads_nil
  · exact .of_allReads hs' allReads_nil
  · exact readFromRange_logsDecision k ans key rangeId hs'

theorem get_logsDecision (hs : tx.state = .running) :
    LogsDecision (get k ans ks key tx).tx (get k ans ks key tx).calls := by
  rcases get_cases k ans ks key tx with ⟨hs', -⟩ | ⟨-, cache, calls, hres, ⟨rangeId, -, -, h⟩ | ⟨_, -, -, h⟩⟩
  · exact absurd hs hs'
  · rw [h, Outcome.prepend_tx, Outcome.prepend_calls]
    exact (readYourWrites_logsDecision k ans key rangeId (by simp [hs])).reads_append hres.allReads
  · rw [h]
    exact .of_allReads (by simp [hs]) hres.allReads

theorem bufferMutation_logsDecision (update : ParticipantRange → ParticipantRange)
    (hs : tx.state = .running) :
    LogsDecision (bufferMutation ans ks key update tx).tx
      (bufferMutation ans ks key update tx).calls := by
  rcases bufferMutation_cases ans ks key tx update with
    ⟨hs', -⟩ | ⟨-, cache, calls, hres, ⟨_, -, -, h⟩ | ⟨_, -, -, h⟩⟩
  · exact absurd hs hs'
  all_goals
    rw [h]
    exact .of_allReads (by simp [hs]) hres.allReads

theorem abort_logsDecision (hs : tx.state = .running) :
    LogsDecision (abort ans tx).tx (abort ans tx).calls := by
  have hna : tx.state ≠ .aborted := by simp [hs]
  rw [abort_apply, if_neg hna, if_pos hs, recordAbort_apply]
  exact .of_abortCalls _ [] allReads_nil

/-- **`commit` logs its decision**: the transaction is committed only by the state store's
answer committed at the epoch asked, and then every participant range is told; it is
aborted only after a failed prepare task, with the calls of `record_abort`. -/
theorem commit_logsDecision (hs : tx.state = .running) :
    LogsDecision (commit ans tx).tx (commit ans tx).calls := by
  rcases @commit_cases ans _ hs with ⟨-, h⟩ | ⟨epoch, -, -, h⟩ |
      ⟨epoch, pre, r, post, -, -, -, ⟨-, h⟩ | ⟨-, h⟩⟩ <;> rw [h]
  · simp [LogsDecision, DecisionRecorded, EndsWithDecision, prepareCalls]
  · generalize ans.tryCommitTransaction = answer
    unfold commitDecision
    split
    · split_ifs with he
      · subst he
        exact ⟨by simp [DecisionRecorded, prepareCalls, joinPrepared], fun _ => ⟨_, _, rfl⟩, nofun⟩
      · simp [LogsDecision, DecisionRecorded, EndsWithDecision, prepareCalls, joinPrepared,
          Ne.symm he]
    all_goals simp [LogsDecision, DecisionRecorded, EndsWithDecision, prepareCalls, joinPrepared]
  · refine ⟨by simp [DecisionRecorded, prepareCalls, joinPrepared, abortCalls], nofun,
      fun _ => ⟨prepareCalls tx ++ .readEpoch (some epoch) ::
        (pre.map joinPrepared ++ [.joinPrepare r .joinError]), ans.tryAbortTransaction, ?_⟩⟩
    simp [abortCalls]
  · simp [LogsDecision, DecisionRecorded, EndsWithDecision, prepareCalls, joinPrepared]

end Methods

/-- Every call of a running transaction logs its decision. -/
theorem Op.perform_logsDecision (k : Constants) (op : Op) (ans : Answers) {tx : Transaction}
    (hs : tx.state = .running) :
    LogsDecision (op.perform k ans tx).tx (op.perform k ans tx).calls := by
  cases op with
  | get ks key => simpa using get_logsDecision k ans ks key hs
  | put ks key val => simpa using bufferMutation_logsDecision ans ks key (·.bufferPut key val) hs
  | del ks key => simpa using bufferMutation_logsDecision ans ks key (·.bufferDel key) hs
  | commit => simpa using commit_logsDecision ans hs
  | abort => simpa using abort_logsDecision ans hs

/-- **Every reachable configuration logs its decision.** While the transaction runs its log
is all reads, so what the next call logs is what its own calls log. -/
theorem Reachable.logsDecision {k : Constants} {c : Config} (h : Reachable k c) :
    LogsDecision c.tx c.trace := by
  refine h.trace_induction _ (fun _ => .of_allReads rfl allReads_nil) fun c op ans hc hs _ => ?_
  obtain ⟨reads, decision, htrace, hreads, hrun, -⟩ := hc.twoPhaseShape
  rw [htrace, hrun hs, List.append_nil]
  exact (Op.perform_logsDecision k op ans hs).reads_append hreads

/-- **The state records the decision.** On every run the transaction is committed exactly
when its log holds a commit that the state store granted at the epoch asked, and aborted
exactly when its log holds an abort asked of the state store. -/
theorem state_records_decision (k : Constants) (c : Config) (h : Reachable k c) :
    (c.tx.state = .committed ↔ ∃ epoch,
        .tryCommitTransaction c.tx.id epoch (some (.transactionIsCommitted epoch)) ∈ c.trace) ∧
      (c.tx.state = .aborted ↔ ∃ answer, .tryAbortTransaction c.tx.id answer ∈ c.trace) :=
  h.logsDecision.1

/-- A `put` and a `commit` the state store grants: committed, with the grant in the log. -/
theorem state_records_decision_after_commit :
    Reachable ⟨0, 0⟩ ((((Config.init 0).step ⟨0, 0⟩ (.put ⟨"", ""⟩ [9] [1])
        (.routing ⟨1⟩ ⟨⟨1⟩, 2⟩))).step ⟨0, 0⟩ .commit (.committing 1)) ∧
      ((((((Config.init 0).step ⟨0, 0⟩ (.put ⟨"", ""⟩ [9] [1])
          (.routing ⟨1⟩ ⟨⟨1⟩, 2⟩))).step ⟨0, 0⟩ .commit (.committing 1)).tx.state = .committed ↔
        ∃ epoch, .tryCommitTransaction ((((Config.init 0).step ⟨0, 0⟩ (.put ⟨"", ""⟩ [9] [1])
            (.routing ⟨1⟩ ⟨⟨1⟩, 2⟩))).step ⟨0, 0⟩ .commit (.committing 1)).tx.id epoch
            (some (.transactionIsCommitted epoch)) ∈
          ((((Config.init 0).step ⟨0, 0⟩ (.put ⟨"", ""⟩ [9] [1])
            (.routing ⟨1⟩ ⟨⟨1⟩, 2⟩))).step ⟨0, 0⟩ .commit (.committing 1)).trace) ∧
        (((((Config.init 0).step ⟨0, 0⟩ (.put ⟨"", ""⟩ [9] [1])
            (.routing ⟨1⟩ ⟨⟨1⟩, 2⟩))).step ⟨0, 0⟩ .commit (.committing 1)).tx.state = .aborted ↔
          ∃ answer, .tryAbortTransaction ((((Config.init 0).step ⟨0, 0⟩ (.put ⟨"", ""⟩ [9] [1])
              (.routing ⟨1⟩ ⟨⟨1⟩, 2⟩))).step ⟨0, 0⟩ .commit (.committing 1)).tx.id answer ∈
            ((((Config.init 0).step ⟨0, 0⟩ (.put ⟨"", ""⟩ [9] [1])
              (.routing ⟨1⟩ ⟨⟨1⟩, 2⟩))).step ⟨0, 0⟩ .commit (.committing 1)).trace)) :=
  have h : Reachable ⟨0, 0⟩ ((((Config.init 0).step ⟨0, 0⟩ (.put ⟨"", ""⟩ [9] [1])
      (.routing ⟨1⟩ ⟨⟨1⟩, 2⟩))).step ⟨0, 0⟩ .commit (.committing 1)) :=
    .step .commit (.committing 1) (.step (.put ⟨"", ""⟩ [9] [1]) (.routing ⟨1⟩ ⟨⟨1⟩, 2⟩) (.init 0))
  ⟨h, state_records_decision ⟨0, 0⟩ _ h⟩

/-- **The log ends with the decision.** On every run the log of a committed transaction
ends with the commit the state store granted at some epoch and a commit at that epoch to
every participant range, and the log of an aborted one with an abort to every participant
range and the abort asked of the state store. -/
theorem log_ends_with_decision (k : Constants) (c : Config) (h : Reachable k c) :
    (c.tx.state = .committed → ∃ pre epoch, c.trace = pre ++ commitCalls c.tx epoch) ∧
      (c.tx.state = .aborted → ∃ pre answer, c.trace = pre ++ abortCalls c.tx answer) :=
  h.logsDecision.2

/-- A `put` and an `abort` whose call to the state store fails: the coordinator panics, but
only after marking the transaction aborted, and the log ends with the abort of the one
participant range and the abort asked of the state store. -/
theorem log_ends_with_decision_after_abort :
    Reachable ⟨0, 0⟩ ((((Config.init 0).step ⟨0, 0⟩ (.put ⟨"", ""⟩ [9] [1])
        (.routing ⟨1⟩ ⟨⟨1⟩, 2⟩))).step ⟨0, 0⟩ .abort (.routing ⟨1⟩ ⟨⟨1⟩, 2⟩)) ∧
      ((((((Config.init 0).step ⟨0, 0⟩ (.put ⟨"", ""⟩ [9] [1])
          (.routing ⟨1⟩ ⟨⟨1⟩, 2⟩))).step ⟨0, 0⟩ .abort (.routing ⟨1⟩ ⟨⟨1⟩, 2⟩)).tx.state =
            .committed →
        ∃ pre epoch, ((((Config.init 0).step ⟨0, 0⟩ (.put ⟨"", ""⟩ [9] [1])
            (.routing ⟨1⟩ ⟨⟨1⟩, 2⟩))).step ⟨0, 0⟩ .abort (.routing ⟨1⟩ ⟨⟨1⟩, 2⟩)).trace =
          pre ++ commitCalls ((((Config.init 0).step ⟨0, 0⟩ (.put ⟨"", ""⟩ [9] [1])
            (.routing ⟨1⟩ ⟨⟨1⟩, 2⟩))).step ⟨0, 0⟩ .abort (.routing ⟨1⟩ ⟨⟨1⟩, 2⟩)).tx epoch) ∧
        (((((Config.init 0).step ⟨0, 0⟩ (.put ⟨"", ""⟩ [9] [1])
            (.routing ⟨1⟩ ⟨⟨1⟩, 2⟩))).step ⟨0, 0⟩ .abort (.routing ⟨1⟩ ⟨⟨1⟩, 2⟩)).tx.state =
              .aborted →
          ∃ pre answer, ((((Config.init 0).step ⟨0, 0⟩ (.put ⟨"", ""⟩ [9] [1])
              (.routing ⟨1⟩ ⟨⟨1⟩, 2⟩))).step ⟨0, 0⟩ .abort (.routing ⟨1⟩ ⟨⟨1⟩, 2⟩)).trace =
            pre ++ abortCalls ((((Config.init 0).step ⟨0, 0⟩ (.put ⟨"", ""⟩ [9] [1])
              (.routing ⟨1⟩ ⟨⟨1⟩, 2⟩))).step ⟨0, 0⟩ .abort (.routing ⟨1⟩ ⟨⟨1⟩, 2⟩)).tx answer)) :=
  have h : Reachable ⟨0, 0⟩ ((((Config.init 0).step ⟨0, 0⟩ (.put ⟨"", ""⟩ [9] [1])
      (.routing ⟨1⟩ ⟨⟨1⟩, 2⟩))).step ⟨0, 0⟩ .abort (.routing ⟨1⟩ ⟨⟨1⟩, 2⟩)) :=
    .step .abort (.routing ⟨1⟩ ⟨⟨1⟩, 2⟩) (.step (.put ⟨"", ""⟩ [9] [1]) (.routing ⟨1⟩ ⟨⟨1⟩, 2⟩) (.init 0))
  ⟨h, log_ends_with_decision ⟨0, 0⟩ _ h⟩

end AtomixCoordinator
