import AtomixCoordinator.Steps.Abort

/-!
# What the data operations do

`get`, `put` and `del` share their first half: the state check, then the resolution of
the key to a range (`AtomixCoordinator.checkStillRunning_resolve_cases`). What follows
is one change to one participant range for `put` and `del`, and read-your-writes for
`get`: a buffered write or delete of the key answers it without a call, and otherwise the
key is read from its range (`AtomixCoordinator.readFromRange`), whose leader sequence
number is checked against the one the participant range pinned.
-/

namespace AtomixCoordinator

open Coord

/-! ### The changes to a participant range -/

/-- The participant range after a read observed the leader sequence number `current`. -/
def ParticipantRange.observe (k : Constants) (p : ParticipantRange) (current : BitVec 64) :
    ParticipantRange :=
  { p with leaderSequenceNumber := pinLeaderSequenceNumber k p.leaderSequenceNumber current }

/-- The participant range after a read of `key` passed the leader check. -/
def ParticipantRange.recordRead (p : ParticipantRange) (key : Bytes) : ParticipantRange :=
  { p with readset := p.readset.insert key () }

/-- A read that observes `0` leaves a leader sequence number of `0` as it is, whatever the
sentinels. -/
@[simp] theorem pinLeaderSequenceNumber_zero (k : Constants) : pinLeaderSequenceNumber k 0 0 = 0 := by
  unfold pinLeaderSequenceNumber
  split_ifs <;> rfl

/-! ### Reading from a range -/

section Reads

variable {k : Constants} {ans : Answers} {rangeId : FullRangeId} {key : Bytes}
  {tx : Transaction}

theorem readFromRange_of_get_none (h : ans.get = none) :
    readFromRange k ans rangeId key tx = ⟨tx, [.get rangeId [key] none], .panic⟩ := by
  simp [readFromRange, h]

/-- **A read that finds another leader than the pinned one aborts the transaction.** -/
theorem readFromRange_of_leader_changed {res : GetResult} (h : ans.get = some res)
    (hc : res.leaderSequenceNumber ≠
      ((tx.participant rangeId).observe k res.leaderSequenceNumber).leaderSequenceNumber.toBitVec) :
    readFromRange k ans rangeId key tx =
      ⟨{ tx.setParticipant rangeId ((tx.participant rangeId).observe k res.leaderSequenceNumber)
          with state := .aborted },
        .get rangeId [key] (some res) :: abortCalls (tx.setParticipant rangeId
          ((tx.participant rangeId).observe k res.leaderSequenceNumber)) ans.tryAbortTransaction,
        abortedWith ans.tryAbortTransaction (.transactionAborted .rangeLeadershipChanged)⟩ := by
  simp only [ParticipantRange.observe] at hc
  simp only [readFromRange, h, emit_bind, getParticipantRange_bind, setParticipantRange_bind,
    Transaction.participant_touch, Transaction.touch_setParticipant]
  rw [if_pos hc, recordAbort_bind_throw]
  rfl

/-- **A read that finds the pinned leader records the key as read.** -/
theorem readFromRange_of_leader_kept {res : GetResult} (h : ans.get = some res)
    (hc : res.leaderSequenceNumber =
      ((tx.participant rangeId).observe k res.leaderSequenceNumber).leaderSequenceNumber.toBitVec) :
    readFromRange k ans rangeId key tx =
      ⟨tx.setParticipant rangeId
          (((tx.participant rangeId).observe k res.leaderSequenceNumber).recordRead key),
        [.get rangeId [key] (some res)],
        match res.vals.head? with
        | some val => .ok val
        | none => .panic⟩ := by
  simp only [ParticipantRange.observe] at hc
  simp only [readFromRange, h, emit_bind, getParticipantRange_bind, setParticipantRange_bind,
    Transaction.participant_touch, Transaction.touch_setParticipant]
  rw [if_neg (not_not.mpr hc)]
  cases hv : res.vals.head? <;>
    simp [hv, ParticipantRange.recordRead, ParticipantRange.observe, Transaction.setParticipant,
      AList.insert_insert]

theorem readYourWrites_of_written {v : Bytes}
    (h : (tx.participant rangeId).writeset.lookup key = some v) :
    readYourWrites k ans rangeId key tx = ⟨tx.touch rangeId, [], .ok (some v)⟩ := by
  simp [readYourWrites, getParticipantRange_bind, h]

theorem readYourWrites_of_deleted (h : (tx.participant rangeId).writeset.lookup key = none)
    (hd : key ∈ (tx.participant rangeId).deleteset) :
    readYourWrites k ans rangeId key tx = ⟨tx.touch rangeId, [], .ok none⟩ := by
  simp [readYourWrites, getParticipantRange_bind, h, hd]

theorem readYourWrites_of_unbuffered (h : (tx.participant rangeId).writeset.lookup key = none)
    (hd : key ∉ (tx.participant rangeId).deleteset) :
    readYourWrites k ans rangeId key tx = readFromRange k ans rangeId key (tx.touch rangeId) := by
  simp [readYourWrites, getParticipantRange_bind, h, hd]

/-- **What a read from a range can do**: panic on a failed read, abort when the range
reports another leader than the pinned one, and otherwise record the read. -/
theorem readFromRange_cases (k : Constants) (ans : Answers) (rangeId : FullRangeId)
    (key : Bytes) (tx : Transaction) :
    (ans.get = none ∧ readFromRange k ans rangeId key tx = ⟨tx, [.get rangeId [key] none], .panic⟩) ∨
      (∃ res, ans.get = some res ∧ res.leaderSequenceNumber ≠
          ((tx.participant rangeId).observe k res.leaderSequenceNumber).leaderSequenceNumber.toBitVec ∧
        readFromRange k ans rangeId key tx =
          ⟨{ tx.setParticipant rangeId ((tx.participant rangeId).observe k res.leaderSequenceNumber)
              with state := .aborted },
            .get rangeId [key] (some res) :: abortCalls (tx.setParticipant rangeId
              ((tx.participant rangeId).observe k res.leaderSequenceNumber)) ans.tryAbortTransaction,
            abortedWith ans.tryAbortTransaction (.transactionAborted .rangeLeadershipChanged)⟩) ∨
      (∃ res, ans.get = some res ∧ res.leaderSequenceNumber =
          ((tx.participant rangeId).observe k res.leaderSequenceNumber).leaderSequenceNumber.toBitVec ∧
        readFromRange k ans rangeId key tx =
          ⟨tx.setParticipant rangeId
              (((tx.participant rangeId).observe k res.leaderSequenceNumber).recordRead key),
            [.get rangeId [key] (some res)],
            match res.vals.head? with
            | some val => .ok val
            | none => .panic⟩) := by
  cases h : ans.get with
  | none => exact .inl ⟨rfl, readFromRange_of_get_none h⟩
  | some res =>
    by_cases hc : res.leaderSequenceNumber =
        ((tx.participant rangeId).observe k res.leaderSequenceNumber).leaderSequenceNumber.toBitVec
    · exact .inr (.inr ⟨res, rfl, hc, readFromRange_of_leader_kept h hc⟩)
    · exact .inr (.inl ⟨res, rfl, hc, readFromRange_of_leader_changed h hc⟩)

/-- **What read-your-writes can do**: answer from the write buffer, answer from the
delete buffer, or read from the range. -/
theorem readYourWrites_cases (k : Constants) (ans : Answers) (rangeId : FullRangeId)
    (key : Bytes) (tx : Transaction) :
    (∃ v, (tx.participant rangeId).writeset.lookup key = some v ∧
        readYourWrites k ans rangeId key tx = ⟨tx.touch rangeId, [], .ok (some v)⟩) ∨
      ((tx.participant rangeId).writeset.lookup key = none ∧
        key ∈ (tx.participant rangeId).deleteset ∧
        readYourWrites k ans rangeId key tx = ⟨tx.touch rangeId, [], .ok none⟩) ∨
      ((tx.participant rangeId).writeset.lookup key = none ∧
        key ∉ (tx.participant rangeId).deleteset ∧
        readYourWrites k ans rangeId key tx = readFromRange k ans rangeId key (tx.touch rangeId)) := by
  cases h : (tx.participant rangeId).writeset.lookup key with
  | some v => exact .inl ⟨v, rfl, readYourWrites_of_written h⟩
  | none =>
    by_cases hd : key ∈ (tx.participant rangeId).deleteset
    · exact .inr (.inl ⟨rfl, hd, readYourWrites_of_deleted h hd⟩)
    · exact .inr (.inr ⟨rfl, hd, readYourWrites_of_unbuffered h hd⟩)

end Reads

/-! ### The data operations -/

/-- **What a data operation can do before it touches a participant range.** Unless the
transaction is running it fails the state check and does nothing else; otherwise it
resolves the key, which changes only the keyspace cache and makes only lookups, and then
either fails without ending the transaction or goes on from the range the key is routed
to. -/
theorem checkStillRunning_resolve_cases (ans : Answers) (ks : Keyspace) (key : Bytes)
    (f : FullRecordKey → Coord α) (tx : Transaction) :
    (tx.state ≠ .running ∧ (checkStillRunning >>= fun _ => resolveFullRecordKey ans ks key >>= f) tx =
        ⟨tx, [], .err tx.state.stillRunningError⟩) ∨
      (tx.state = .running ∧ ∃ cache calls, Resolution ks tx.resolvedKeyspaces cache calls ∧
        ((∃ rangeId, ans.fullRangeIdOfKey = some rangeId ∧ routedRanges calls = [rangeId] ∧
            (checkStillRunning >>= fun _ => resolveFullRecordKey ans ks key >>= f) tx =
              (f ⟨rangeId, key⟩ (tx.withCache cache)).prepend calls) ∨
          ∃ r : Ret α, r.FailedLookup ∧ routedRanges calls = [] ∧
            (checkStillRunning >>= fun _ => resolveFullRecordKey ans ks key >>= f) tx =
              ⟨tx.withCache cache, calls, r⟩)) := by
  rw [checkStillRunning_bind]
  by_cases hs : tx.state = .running
  · refine .inr ⟨hs, ?_⟩
    rw [if_pos hs]
    obtain ⟨cache, calls, hcalls, ⟨rangeId, hr, hrouted, hres⟩ | ⟨r, hr, hrouted, hres⟩⟩ :=
      resolveFullRecordKey_cases ans ks key tx
    · exact ⟨cache, calls, hcalls, .inl ⟨rangeId, hr, hrouted, bind_of_ok hres⟩⟩
    · refine ⟨cache, calls, hcalls, .inr ?_⟩
      cases r with
      | ok _ => exact hr.elim
      | err e => exact ⟨.err e, hr, hrouted, bind_of_err hres⟩
      | panic => exact ⟨.panic, trivial, hrouted, bind_of_panic hres⟩
  · exact .inl ⟨hs, if_neg hs⟩

section Operations

variable (k : Constants) (ans : Answers) (ks : Keyspace) (key val : Bytes) (tx : Transaction)

/-- **What `get` can do.** -/
theorem get_cases :
    (tx.state ≠ .running ∧ get k ans ks key tx = ⟨tx, [], .err tx.state.stillRunningError⟩) ∨
      (tx.state = .running ∧ ∃ cache calls, Resolution ks tx.resolvedKeyspaces cache calls ∧
        ((∃ rangeId, ans.fullRangeIdOfKey = some rangeId ∧ routedRanges calls = [rangeId] ∧
            get k ans ks key tx = (readYourWrites k ans rangeId key (tx.withCache cache)).prepend calls) ∨
          ∃ r : Ret (Option Bytes), r.FailedLookup ∧ routedRanges calls = [] ∧
            get k ans ks key tx = ⟨tx.withCache cache, calls, r⟩)) :=
  checkStillRunning_resolve_cases ans ks key (fun frk => readYourWrites k ans frk.rangeId key) tx

/-- A `get` of a running transaction whose keyspace is cached asks only the oracle, then
reads. -/
theorem get_of_cached {keyspaceId : KeyspaceId} {rangeId : FullRangeId}
    (hs : tx.state = .running) (hk : tx.resolvedKeyspaces.lookup ks = some keyspaceId)
    (hr : ans.fullRangeIdOfKey = some rangeId) :
    get k ans ks key tx =
      (readYourWrites k ans rangeId key tx).prepend [.fullRangeIdOfKey keyspaceId key (some rangeId)] := by
  have hres : resolveFullRecordKey ans ks key tx =
      ⟨tx, [.fullRangeIdOfKey keyspaceId key (some rangeId)], .ok ⟨rangeId, key⟩⟩ := by
    rw [resolveFullRecordKey, bind_of_ok_nil (resolveKeyspace_of_lookup_some hk)]
    simp [hr]
  rw [get, checkStillRunning_bind, if_pos hs, bind_of_ok hres]

/-- **What `put` and `del` can do**: the state check, the resolution, and then one change
to the participant range of the range the key is routed to. -/
theorem bufferMutation_cases (update : ParticipantRange → ParticipantRange) :
    (tx.state ≠ .running ∧ bufferMutation ans ks key update tx =
        ⟨tx, [], .err tx.state.stillRunningError⟩) ∨
      (tx.state = .running ∧ ∃ cache calls, Resolution ks tx.resolvedKeyspaces cache calls ∧
        ((∃ rangeId, ans.fullRangeIdOfKey = some rangeId ∧ routedRanges calls = [rangeId] ∧
            bufferMutation ans ks key update tx = ⟨(tx.withCache cache).setParticipant rangeId
              (update (tx.participant rangeId)), calls, .ok ()⟩) ∨
          ∃ r : Ret Unit, r.FailedLookup ∧ routedRanges calls = [] ∧
            bufferMutation ans ks key update tx = ⟨tx.withCache cache, calls, r⟩)) := by
  rcases checkStillRunning_resolve_cases ans ks key
      (fun frk => getParticipantRange frk.rangeId >>= fun p =>
        setParticipantRange frk.rangeId (update p)) tx with h | ⟨hs, cache, calls, hc, h⟩
  · exact .inl h
  · refine .inr ⟨hs, cache, calls, hc, ?_⟩
    rcases h with ⟨rangeId, hr, hrouted, h⟩ | h
    · refine .inl ⟨rangeId, hr, hrouted, ?_⟩
      simpa [getParticipantRange_bind_set] using h
    · exact .inr h

end Operations

end AtomixCoordinator
