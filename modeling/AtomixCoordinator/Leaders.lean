import AtomixCoordinator.Buffers

/-!
# Leader sequence numbers

A read from a range reports the leader sequence number of the range's current leader,
and `get` compares it with the one its participant range holds. The field starts at `0`
(`get_participant_range` writes the literal); a read that observes a value other than
`INVALID` while the field equals `UNSET` pins the field to that value; and the read
aborts the transaction when what it observed differs from the field after that step
(`AtomixCoordinator.get_leader_check`). So the field is the fold of that pinning step over
everything the transaction observed on the range
(`AtomixCoordinator.Reachable.leaderSequenceNumber`).

The spec creates a participant range with the field at `UNSET`, pins the first leader a
read observes, and aborts on any other (`AtomixCoordinator.PinsFirstLeader`). Where the
literal `0` is `UNSET` and `INVALID` is not, the code does so for every range that no
successful read observed at `UNSET`: all successful reads of it observed one leader, the
field holds it from the first of them on, and a read aborts, with
`TransactionAborted(RangeLeadershipChanged)` once the state store confirmed the abort,
exactly when it observes `INVALID` or another leader
(`AtomixCoordinator.leader_pinning_law`). The proof carries that invariant along the run
(`AtomixCoordinator.PinnedTo`, `AtomixCoordinator.Reachable.pinnedTo`).

Outside those conditions the rule fails: with `UNSET ≠ 0` nothing is ever pinned and every
read that observes anything but `0` aborts; with `UNSET = 0` an observed `0` pins nothing,
so the next read pins whatever it observes; with `INVALID = 0` a read observing `INVALID`
passes (`AtomixCoordinator.not_pinsFirstLeader`).
-/

namespace AtomixCoordinator

/-! ### What reads observed -/

/-- The leader sequence number a read from range `r` observed, if `ev` is one that got an
answer. -/
def Event.observedLeader (r : FullRangeId) : Event → Option (BitVec 64)
  | .get r' _ (some res) => if r' = r then some res.leaderSequenceNumber else none
  | _ => none

theorem Event.observedLeader_of_not_isRead {ev : Event} (h : ev.isRead = false) (r : FullRangeId) :
    ev.observedLeader r = none := by
  cases ev <;> simp_all [Event.isRead, Event.observedLeader]

theorem NoReads.observedLeaders {calls : List Event} (h : NoReads calls) (r : FullRangeId) :
    calls.filterMap (Event.observedLeader r) = [] :=
  List.filterMap_eq_nil_iff.mpr fun ev hev => Event.observedLeader_of_not_isRead (h ev hev) r

theorem Resolution.observedLeaders {ks : Keyspace} {old cache : HashMap Keyspace KeyspaceId}
    {calls : List Event} (h : Resolution ks old cache calls) (r : FullRangeId) :
    calls.filterMap (Event.observedLeader r) = [] :=
  List.filterMap_eq_nil_iff.mpr fun ev hev => by
    have := h.isLookup ev hev
    cases ev <;> simp_all [Event.isLookup, Event.observedLeader]

/-- Pinning leaves a field that differs from `UNSET` as it is. -/
theorem pinLeaderSequenceNumber_of_pinned {k : Constants} {field : UInt64}
    (h : field ≠ ⟨k.unsetLeaderSequenceNumber⟩) (current : BitVec 64) :
    pinLeaderSequenceNumber k field current = field := by
  simp [pinLeaderSequenceNumber, h]

theorem foldl_pinLeaderSequenceNumber_of_pinned {k : Constants} {field : UInt64}
    (h : field ≠ ⟨k.unsetLeaderSequenceNumber⟩) (obs : List (BitVec 64)) :
    obs.foldl (pinLeaderSequenceNumber k) field = field := by
  induction obs with
  | nil => rfl
  | cons o obs ih => rw [List.foldl_cons, pinLeaderSequenceNumber_of_pinned h, ih]

/-! ### One call -/

section Step

variable (k : Constants) (ans : Answers) (rangeId : FullRangeId) (key : Bytes) (tx : Transaction)
  (r : FullRangeId)

theorem readFromRange_leaderSequenceNumber :
    ((readFromRange k ans rangeId key tx).tx.participant r).leaderSequenceNumber =
      ((readFromRange k ans rangeId key tx).calls.filterMap (Event.observedLeader r)).foldl
        (pinLeaderSequenceNumber k) (tx.participant r).leaderSequenceNumber := by
  have hab : ∀ t answer, (abortCalls t answer).filterMap (Event.observedLeader r) = [] :=
    fun _ _ => NoReads.observedLeaders (by simp [abortCalls]) r
  rcases readFromRange_cases k ans rangeId key tx with ⟨-, hf⟩ | ⟨res, -, -, hf⟩ | ⟨res, -, -, hf⟩
  · simp [hf, Event.observedLeader]
  all_goals
    rw [hf]
    simp only [Transaction.participant_withState]
    by_cases h : rangeId = r
    · subst h
      simp [Event.observedLeader, hab, ParticipantRange.observe, ParticipantRange.recordRead]
    · simp [Event.observedLeader, hab, h, Ne.symm h, Transaction.participant_setParticipant]

theorem readYourWrites_leaderSequenceNumber :
    ((readYourWrites k ans rangeId key tx).tx.participant r).leaderSequenceNumber =
      ((readYourWrites k ans rangeId key tx).calls.filterMap (Event.observedLeader r)).foldl
        (pinLeaderSequenceNumber k) (tx.participant r).leaderSequenceNumber := by
  rcases readYourWrites_cases k ans rangeId key tx with ⟨_, -, h⟩ | ⟨-, -, h⟩ | ⟨-, -, h⟩
  · simp [h]
  · simp [h]
  · rw [h, readFromRange_leaderSequenceNumber, Transaction.participant_touch]

end Step

/-- `put` and `del` read nothing, and leave every leader sequence number as it was. -/
theorem bufferMutation_leaderSequenceNumber (k : Constants) (ans : Answers) (ks : Keyspace)
    (key : Bytes) (update : ParticipantRange → ParticipantRange)
    (hupdate : ∀ p, (update p).leaderSequenceNumber = p.leaderSequenceNumber)
    (tx : Transaction) (r : FullRangeId) :
    ((bufferMutation ans ks key update tx).tx.participant r).leaderSequenceNumber =
      ((bufferMutation ans ks key update tx).calls.filterMap (Event.observedLeader r)).foldl
        (pinLeaderSequenceNumber k) (tx.participant r).leaderSequenceNumber := by
  rcases bufferMutation_cases ans ks key tx update with
    ⟨-, h⟩ | ⟨-, cache, calls, hres, ⟨r0, -, -, h⟩ | ⟨_, -, -, h⟩⟩
  · simp [h]
  · by_cases hr : r = r0
    · subst hr
      simp [h, hres.observedLeaders, hupdate]
    · simp [h, hres.observedLeaders, hr, Transaction.participant_setParticipant]
  · simp [h, hres.observedLeaders]

/-- **A call moves the leader sequence number of each range by one pinning step per
answer of that range it read.** -/
theorem Op.perform_leaderSequenceNumber (k : Constants) (op : Op) (ans : Answers)
    (tx : Transaction) (r : FullRangeId) :
    ((op.perform k ans tx).tx.participant r).leaderSequenceNumber =
      ((op.perform k ans tx).calls.filterMap (Event.observedLeader r)).foldl
        (pinLeaderSequenceNumber k) (tx.participant r).leaderSequenceNumber := by
  cases op with
  | get ks key =>
    rcases get_cases k ans ks key tx with ⟨-, h⟩ | ⟨-, cache, calls, hres, ⟨r0, -, -, h⟩ | ⟨_, -, -, h⟩⟩
    · simp [h]
    · simp only [Op.perform_get, h, Outcome.map_tx, Outcome.map_calls, Outcome.prepend_tx,
        Outcome.prepend_calls, List.filterMap_append, hres.observedLeaders, List.nil_append]
      rw [readYourWrites_leaderSequenceNumber, Transaction.participant_withCache]
    · simp [h, hres.observedLeaders]
  | put ks key val =>
    simpa using bufferMutation_leaderSequenceNumber k ans ks key (·.bufferPut key val)
      (fun _ => rfl) tx r
  | del ks key =>
    simpa using bufferMutation_leaderSequenceNumber k ans ks key (·.bufferDel key) (fun _ => rfl) tx r
  | commit =>
    obtain ⟨hc, hn⟩ := commit_frame ans tx
    simp only [Op.perform_commit, Outcome.map_tx, Outcome.map_calls, hn.observedLeaders,
      List.foldl_nil]
    rw [hc]
    rfl
  | abort =>
    obtain ⟨hc, hn⟩ := abort_frame ans tx
    simp only [Op.perform_abort, Outcome.map_tx, Outcome.map_calls, hn.observedLeaders,
      List.foldl_nil]
    rw [hc]
    rfl

/-! ### Whole runs -/

/-- In every reachable configuration the field of each range is the fold of the pinning
step over what the transaction observed on it, from `0`. -/
theorem Reachable.leaderSequenceNumber {k : Constants} {c : Config} (h : Reachable k c)
    (r : FullRangeId) :
    (c.tx.participant r).leaderSequenceNumber =
      (c.trace.filterMap (Event.observedLeader r)).foldl (pinLeaderSequenceNumber k) 0 :=
  h.trace_induction (fun tx trace => (tx.participant r).leaderSequenceNumber =
      (trace.filterMap (Event.observedLeader r)).foldl (pinLeaderSequenceNumber k) 0)
    (fun _ => rfl) fun c op ans _ _ ih => by
    dsimp only at ih ⊢
    rw [Op.perform_leaderSequenceNumber, ih, List.filterMap_append, List.foldl_append]

/-! ### The leader check of a read -/

section Check

variable (k : Constants) (ans : Answers) (ks : Keyspace) (key : Bytes) (tx : Transaction)
  {keyspaceId : KeyspaceId} {r : FullRangeId}

/-- A `get` of a key of a cached keyspace that neither buffer of its range holds is a read
from that range. -/
theorem get_of_unbuffered (hs : tx.state = .running)
    (hk : tx.resolvedKeyspaces.lookup ks = some keyspaceId) (hr : ans.fullRangeIdOfKey = some r)
    (hw : (tx.participant r).writeset.lookup key = none) (hd : key ∉ (tx.participant r).deleteset) :
    get k ans ks key tx =
      (readFromRange k ans r key (tx.touch r)).prepend [.fullRangeIdOfKey keyspaceId key (some r)] := by
  rw [get_of_cached k ans ks key tx hs hk hr, readYourWrites_of_unbuffered hw hd]

/-- Such a `get` asks the range. -/
theorem get_asks_range_of_unbuffered (hs : tx.state = .running)
    (hk : tx.resolvedKeyspaces.lookup ks = some keyspaceId) (hr : ans.fullRangeIdOfKey = some r)
    (hw : (tx.participant r).writeset.lookup key = none) (hd : key ∉ (tx.participant r).deleteset) :
    .get r [key] ans.get ∈ (get k ans ks key tx).calls := by
  rw [get_of_unbuffered k ans ks key tx hs hk hr hw hd]
  rcases readFromRange_cases k ans r key (tx.touch r) with ⟨hg, h⟩ | ⟨_, hg, -, h⟩ | ⟨_, hg, -, h⟩ <;>
    simp [h, hg]

/-- A method that recorded an abort returns its error exactly when the state store
confirmed the abort. -/
theorem abortedWith_eq_err_iff {α : Type} {answer : Option OpResult} {e : Error} :
    (abortedWith answer e : Ret α) = .err e ↔ answer = some .transactionIsAborted := by
  unfold abortedWith
  split <;> simp_all

@[simp] theorem abortedWith_isOk {α : Type} (answer : Option OpResult) (e : Error) :
    (abortedWith answer e : Ret α).isOk = false := by
  unfold abortedWith
  split <;> rfl

/-- **A `get` observes no leader, or it reads from the range its key is routed to**, after
the lookups of the key, which observe none. -/
theorem get_observes_nothing_or_reads (hs : tx.state = .running) :
    (∀ r, (get k ans ks key tx).calls.filterMap (Event.observedLeader r) = []) ∨
      ∃ r cache calls, ans.fullRangeIdOfKey = some r ∧
        (∀ r', calls.filterMap (Event.observedLeader r') = []) ∧
        get k ans ks key tx =
          (readFromRange k ans r key ((tx.withCache cache).touch r)).prepend calls := by
  rcases get_cases k ans ks key tx with ⟨hs', -⟩ | ⟨-, cache, calls, hres, ⟨r0, hr0, -, h⟩ | ⟨_, -, -, h⟩⟩
  · exact absurd hs hs'
  · rcases readYourWrites_cases k ans r0 key (tx.withCache cache) with
      ⟨_, -, hy⟩ | ⟨-, -, hy⟩ | ⟨-, -, hy⟩
    · exact .inl fun r => by simp [h, hy, hres.observedLeaders]
    · exact .inl fun r => by simp [h, hy, hres.observedLeaders]
    · exact .inr ⟨r0, cache, calls, hr0, hres.observedLeaders, by rw [h, hy]⟩
  · exact .inl fun r => by simp [h, hres.observedLeaders]

/-- **The leader check of a read.** A `get` that read from range `r` aborts the
transaction exactly when what it observed differs from the field after the pinning step;
it then returns `TransactionAborted(RangeLeadershipChanged)` once the state store confirmed
the abort; and unless it panicked it succeeds exactly when the observation agrees. -/
theorem get_leader_check (hs : tx.state = .running) (hr : ans.fullRangeIdOfKey = some r)
    {res : GetResult} (hg : ans.get = some res)
    (hm : .get r [key] (some res) ∈ (get k ans ks key tx).calls) :
    ((get k ans ks key tx).tx.state = .aborted ↔ res.leaderSequenceNumber ≠
      (pinLeaderSequenceNumber k (tx.participant r).leaderSequenceNumber
        res.leaderSequenceNumber).toBitVec) ∧
    ((get k ans ks key tx).ret = .err (.transactionAborted .rangeLeadershipChanged) ↔
      res.leaderSequenceNumber ≠ (pinLeaderSequenceNumber k (tx.participant r).leaderSequenceNumber
        res.leaderSequenceNumber).toBitVec ∧
      ans.tryAbortTransaction = some .transactionIsAborted) ∧
    ((get k ans ks key tx).ret.isPanic = false → ((get k ans ks key tx).ret.isOk = true ↔
      res.leaderSequenceNumber = (pinLeaderSequenceNumber k (tx.participant r).leaderSequenceNumber
        res.leaderSequenceNumber).toBitVec)) := by
  rcases get_observes_nothing_or_reads k ans ks key tx hs with hno | ⟨r0, cache, calls, hr0, -, h⟩
  · have := List.filterMap_eq_nil_iff.mp (hno r) _ hm
    simp [Event.observedLeader] at this
  obtain rfl : r0 = r := Option.some.inj (hr0.symm.trans hr)
  rw [h, Outcome.prepend_tx, Outcome.prepend_ret]
  rcases readFromRange_cases k ans r0 key ((tx.withCache cache).touch r0) with
    ⟨hn, -⟩ | ⟨res', hg', hc, hf⟩ | ⟨res', hg', hc, hf⟩
  · simp [hg] at hn
  all_goals
    obtain rfl : res' = res := Option.some.inj (hg'.symm.trans hg)
    simp only [ParticipantRange.observe, Transaction.participant_touch,
      Transaction.participant_withCache] at hc
    rw [hf]
  · simp [hc, abortedWith_eq_err_iff]
  · refine ⟨⟨fun ha => by simp [hs] at ha, fun hne => absurd hc hne⟩,
      iff_of_false ?_ fun h' => h'.1 hc, fun hp => iff_of_true ?_ hc⟩
    · rcases res'.vals.head? with _ | _ <;> simp
    · revert hp
      rcases res'.vals.head? with _ | _ <;> simp [Ret.isPanic, Ret.isOk]

/-- A `get` observes the leader of range `r` at most once: when it reads from `r`. -/
theorem get_observedLeaders (hs : tx.state = .running) :
    (get k ans ks key tx).calls.filterMap (Event.observedLeader r) = [] ∨
      ∃ res, ans.fullRangeIdOfKey = some r ∧ ans.get = some res ∧
        .get r [key] (some res) ∈ (get k ans ks key tx).calls ∧
        (get k ans ks key tx).calls.filterMap (Event.observedLeader r) =
          [res.leaderSequenceNumber] := by
  rcases get_observes_nothing_or_reads k ans ks key tx hs with hno | ⟨r0, cache, calls, hr0, hcalls, h⟩
  · exact .inl (hno r)
  have hab : ∀ t answer, (abortCalls t answer).filterMap (Event.observedLeader r) = [] :=
    fun _ _ => NoReads.observedLeaders (by simp [abortCalls]) r
  rw [h, Outcome.prepend_calls, List.filterMap_append, hcalls, List.nil_append]
  rcases readFromRange_cases k ans r0 key ((tx.withCache cache).touch r0) with
    ⟨-, hf⟩ | ⟨res, hg, -, hf⟩ | ⟨res, hg, -, hf⟩
  · simp [hf, Event.observedLeader]
  all_goals
    rw [hf]
    by_cases h0 : r0 = r
    · subst h0
      exact .inr ⟨res, hr0, hg, by simp, by simp [Event.observedLeader, hab]⟩
    · simp [Event.observedLeader, hab, h0]

end Check

/-- `put` and `del` observe no leader. -/
theorem bufferMutation_observedLeaders (ans : Answers) (ks : Keyspace) (key : Bytes)
    (update : ParticipantRange → ParticipantRange) (tx : Transaction) (r : FullRangeId) :
    (bufferMutation ans ks key update tx).calls.filterMap (Event.observedLeader r) = [] := by
  rcases bufferMutation_cases ans ks key tx update with
    ⟨-, h⟩ | ⟨-, cache, calls, hres, ⟨_, -, -, h⟩ | ⟨_, -, -, h⟩⟩
  · simp [h]
  all_goals simp [h, hres.observedLeaders, Event.observedLeader]

/-- **A call that does not panic observes the leader of a range at most once**, and it
succeeds exactly when that observation agrees with the field after the pinning step. -/
theorem Op.perform_observes (k : Constants) (op : Op) (ans : Answers) (tx : Transaction)
    (r : FullRangeId) (hpanic : (op.perform k ans tx).ret.isPanic = false) :
    (op.perform k ans tx).calls.filterMap (Event.observedLeader r) = [] ∨
      ∃ v, (op.perform k ans tx).calls.filterMap (Event.observedLeader r) = [v] ∧
        ((op.perform k ans tx).ret.isOk = true ↔
          v = (pinLeaderSequenceNumber k (tx.participant r).leaderSequenceNumber v).toBitVec) := by
  by_cases hs : tx.state = .running
  swap
  · exact .inl (by rw [(Op.perform_idle k op ans hs).2]; rfl)
  cases op with
  | get ks key =>
    simp only [Op.perform_get, Outcome.map_calls, Outcome.map_ret, Ret.isOk_map,
      Ret.isPanic_map] at hpanic ⊢
    rcases get_observedLeaders k ans ks key tx hs with h | ⟨res, hr, hg, hm, h⟩
    · exact .inl h
    · exact .inr ⟨_, h, (get_leader_check k ans ks key tx hs hr hg hm).2.2 hpanic⟩
  | put ks key val =>
    exact .inl (by simpa using bufferMutation_observedLeaders ans ks key (·.bufferPut key val) tx r)
  | del ks key =>
    exact .inl (by simpa using bufferMutation_observedLeaders ans ks key (·.bufferDel key) tx r)
  | commit => exact .inl (by simpa using (commit_frame ans tx).2.observedLeaders r)
  | abort => exact .inl (by simpa using (abort_frame ans tx).2.observedLeaders r)

/-! ### The pinned leader along a run -/

/-- The leader sequence numbers that successful reads of range `r` observed in `history`. -/
def successfulObservations (r : FullRangeId) (history : List StepRecord) : List (BitVec 64) :=
  history.flatMap fun s => if s.ret.isOk then s.calls.filterMap (Event.observedLeader r) else []

@[simp] theorem successfulObservations_nil (r : FullRangeId) : successfulObservations r [] = [] :=
  rfl

@[simp] theorem successfulObservations_append_singleton (r : FullRangeId)
    (history : List StepRecord) (s : StepRecord) :
    successfulObservations r (history ++ [s]) = successfulObservations r history ++
      if s.ret.isOk then s.calls.filterMap (Event.observedLeader r) else [] := by
  simp [successfulObservations]

/-- A field pinned to what the successful reads `obs` of its range observed: all of them
observed one value other than `INVALID`, and the field holds it from the first of them on,
`0` before. -/
structure PinnedTo (k : Constants) (field : UInt64) (obs : List (BitVec 64)) : Prop where
  /-- The field holds the first observation, `0` before any. -/
  field_eq : field.toBitVec = obs.headD 0
  /-- Every observation is the first, and none is `INVALID`. -/
  agree : ∀ u ∈ obs, u = obs.headD 0 ∧ u ≠ k.invalidLeaderSequenceNumber

/-- An observation that disagrees with the field after the pinning step pinned nothing. -/
theorem pinLeaderSequenceNumber_of_mismatch {k : Constants} {field : UInt64} {v : BitVec 64}
    (h : v ≠ (pinLeaderSequenceNumber k field v).toBitVec) :
    pinLeaderSequenceNumber k field v = field := by
  unfold pinLeaderSequenceNumber at h ⊢
  split_ifs at h ⊢
  · exact absurd rfl h
  · rfl

section Pinned

variable {k : Constants} (hunset : k.unsetLeaderSequenceNumber = 0) {field : UInt64}
  {obs : List (BitVec 64)} {v : BitVec 64}
include hunset

/-- Before any observation the field is `UNSET`. -/
theorem PinnedTo.eq_unset_of_nil (h : PinnedTo k field []) :
    field = ⟨k.unsetLeaderSequenceNumber⟩ := by
  rw [hunset]
  exact congrArg UInt64.mk h.field_eq

/-- A field pinned to some observation no longer differs from `UNSET`. -/
theorem PinnedTo.pinLeaderSequenceNumber_of_cons {w : BitVec 64} (h : PinnedTo k field (w :: obs))
    (hw : w ≠ 0) (v : BitVec 64) : pinLeaderSequenceNumber k field v = field :=
  pinLeaderSequenceNumber_of_pinned (fun he => hw (by
    have hf := h.field_eq
    rw [he, List.headD_cons] at hf
    rw [← hf, hunset])) v

/-- **A successful read keeps the field pinned**: its observation agrees with the field
after the pinning step, and joins the observations. -/
theorem PinnedTo.observe (h : PinnedTo k field obs) (h0 : 0 ∉ obs ++ [v])
    (hv : v = (pinLeaderSequenceNumber k field v).toBitVec) :
    PinnedTo k (pinLeaderSequenceNumber k field v) (obs ++ [v]) := by
  rcases obs with _ | ⟨w, obs⟩
  · have hfield := h.eq_unset_of_nil hunset
    have hinv : v ≠ k.invalidLeaderSequenceNumber := fun hi => h0 (by
      rw [hv, pinLeaderSequenceNumber, if_neg (fun hc => hc.1 hi), hfield, hunset]; simp)
    have hpin : pinLeaderSequenceNumber k field v = ⟨v⟩ := by
      simp [pinLeaderSequenceNumber, hinv, hfield]
    exact ⟨by rw [hpin]; rfl, by simp [hinv]⟩
  · have hw : w ≠ 0 := fun hw => h0 (by simp [hw])
    rw [h.pinLeaderSequenceNumber_of_cons hunset hw] at hv ⊢
    refine ⟨h.field_eq, fun u hu => ?_⟩
    rcases List.mem_append.mp hu with hu | hu
    · exact h.agree u hu
    · rw [List.mem_singleton.mp hu, hv, h.field_eq]
      exact ⟨rfl, (h.agree w (List.mem_cons_self w obs)).2⟩

/-- **Against a pinned field, a read's observation disagrees with the field after the
pinning step exactly when it is `INVALID` or differs from an earlier observation.** -/
theorem PinnedTo.mismatch_iff (hinvalid : k.invalidLeaderSequenceNumber ≠ k.unsetLeaderSequenceNumber)
    (h : PinnedTo k field obs) (h0 : 0 ∉ obs) (v : BitVec 64) :
    v ≠ (pinLeaderSequenceNumber k field v).toBitVec ↔
      v = k.invalidLeaderSequenceNumber ∨ ∃ u ∈ obs, u ≠ v := by
  rcases obs with _ | ⟨w, obs⟩
  · have hfield := h.eq_unset_of_nil hunset
    by_cases hv : v = k.invalidLeaderSequenceNumber
    · simp [pinLeaderSequenceNumber, hv, hfield, hinvalid]
    · simp [pinLeaderSequenceNumber, hv, hfield]
  · have hw : w ≠ 0 := fun hw => h0 (by simp [hw])
    rw [h.pinLeaderSequenceNumber_of_cons hunset hw, h.field_eq, List.headD_cons]
    constructor
    · exact fun hne => .inr ⟨w, List.mem_cons_self w obs, Ne.symm hne⟩
    · rintro (rfl | ⟨u, hu, hne⟩)
      · exact Ne.symm (h.agree w (List.mem_cons_self w obs)).2
      · exact fun he => hne ((h.agree u hu).1.trans he.symm)

/-- **Along every live run the field of each range stays pinned to what successful reads
observed on it**, as long as none of them observed `UNSET`. -/
theorem Reachable.pinnedTo {c : Config} (h : Reachable k c) (r : FullRangeId)
    (hp : c.panicked = false) (hobs : 0 ∉ successfulObservations r c.history) :
    PinnedTo k (c.tx.participant r).leaderSequenceNumber (successfulObservations r c.history) := by
  induction h with
  | init id => exact ⟨rfl, by simp [Config.init]⟩
  | @step c op ans hc ih =>
    cases hpc : c.panicked
    swap
    · rw [Config.step_of_panicked hpc] at hp hobs ⊢
      exact ih hp hobs
    rw [Config.step_of_live hpc] at hp hobs ⊢
    simp only [successfulObservations_append_singleton] at hobs ⊢
    have hpin := ih hpc fun h0 => hobs (List.mem_append_left _ h0)
    rw [Op.perform_leaderSequenceNumber]
    rcases Op.perform_observes k op ans c.tx r hp with hl | ⟨v, hl, hok⟩
    · simpa [hl] using hpin
    · rw [hl] at hobs ⊢
      cases hret : (op.perform k ans c.tx).ret.isOk
      · rw [hret] at hok
        have hne : v ≠ _ := fun he => absurd (hok.mpr he) Bool.false_ne_true
        simpa [pinLeaderSequenceNumber_of_mismatch hne] using hpin
      · rw [hret] at hobs
        simpa using hpin.observe hunset hobs (hok.mp hret)

end Pinned

/-- **The pinning law.** Let `UNSET = 0`, so that the literal `0` a new participant range
starts from is `UNSET`, and `INVALID ≠ UNSET`. On every run that has not panicked, and for
every range `r` that no successful read observed at `UNSET`: every successful read of `r`
observed one and the same leader, other than `INVALID`; the field of `r` holds it from the
first of those reads on, `UNSET` before; and a `get` that reads from `r` aborts the
transaction exactly when it observes `INVALID` or a leader other than one an earlier
successful read observed, and returns `TransactionAborted(RangeLeadershipChanged)` exactly
when, besides, the state store confirmed the abort. -/
theorem leader_pinning_law (k : Constants) (hunset : k.unsetLeaderSequenceNumber = 0)
    (hinvalid : k.invalidLeaderSequenceNumber ≠ k.unsetLeaderSequenceNumber)
    (c : Config) (h : Reachable k c) (hp : c.panicked = false) (r : FullRangeId)
    (hobs : k.unsetLeaderSequenceNumber ∉ successfulObservations r c.history) :
    (∀ u ∈ successfulObservations r c.history,
      u = (successfulObservations r c.history).headD 0 ∧ u ≠ k.invalidLeaderSequenceNumber) ∧
    (c.tx.participant r).leaderSequenceNumber.toBitVec =
      (successfulObservations r c.history).headD 0 ∧
    ∀ ks key ans res, c.tx.state = .running → ans.fullRangeIdOfKey = some r →
      ans.get = some res → .get r [key] (some res) ∈ (get k ans ks key c.tx).calls →
      ((get k ans ks key c.tx).tx.state = .aborted ↔
        res.leaderSequenceNumber = k.invalidLeaderSequenceNumber ∨
          ∃ v ∈ successfulObservations r c.history, v ≠ res.leaderSequenceNumber) ∧
      ((get k ans ks key c.tx).ret = .err (.transactionAborted .rangeLeadershipChanged) ↔
        (res.leaderSequenceNumber = k.invalidLeaderSequenceNumber ∨
          ∃ v ∈ successfulObservations r c.history, v ≠ res.leaderSequenceNumber) ∧
        ans.tryAbortTransaction = some .transactionIsAborted) := by
  rw [hunset] at hobs
  have hpin := h.pinnedTo hunset r hp hobs
  refine ⟨hpin.agree, hpin.field_eq, fun ks key ans res hs hr hg hm => ?_⟩
  obtain ⟨habort, hret, -⟩ := get_leader_check k ans ks key c.tx hs hr hg hm
  rw [← hpin.mismatch_iff hunset hinvalid hobs]
  exact ⟨habort, hret⟩

/-- The answers under which a read of range `⟨⟨1⟩, 2⟩` observes the leader `v`, and the
state store confirms an abort. -/
def readsLeader (v : BitVec 64) : Answers :=
  { Answers.routing ⟨1⟩ ⟨⟨1⟩, 2⟩ with
    get := some ⟨[none], v⟩, tryAbortTransaction := some .transactionIsAborted }

/-- A `put` makes range `⟨⟨1⟩, 2⟩` a participant, and a `get` observing leader `5` pins
it; a second `get` that observes leader `7` then aborts the transaction with
`TransactionAborted(RangeLeadershipChanged)`. -/
theorem leader_pinning_law_after_two_reads :
    Reachable ⟨-1, 0⟩ (((Config.init 0).step ⟨-1, 0⟩ (.put ⟨"", ""⟩ [9] [1])
        (.routing ⟨1⟩ ⟨⟨1⟩, 2⟩)).step ⟨-1, 0⟩ (.get ⟨"", ""⟩ []) (readsLeader 5)) ∧
      (((Config.init 0).step ⟨-1, 0⟩ (.put ⟨"", ""⟩ [9] [1])
        (.routing ⟨1⟩ ⟨⟨1⟩, 2⟩)).step ⟨-1, 0⟩ (.get ⟨"", ""⟩ []) (readsLeader 5)).panicked =
        false ∧
      successfulObservations ⟨⟨1⟩, 2⟩ (((Config.init 0).step ⟨-1, 0⟩ (.put ⟨"", ""⟩ [9] [1])
        (.routing ⟨1⟩ ⟨⟨1⟩, 2⟩)).step ⟨-1, 0⟩ (.get ⟨"", ""⟩ []) (readsLeader 5)).history =
        [5] ∧
      ((((Config.init 0).step ⟨-1, 0⟩ (.put ⟨"", ""⟩ [9] [1])
        (.routing ⟨1⟩ ⟨⟨1⟩, 2⟩)).step ⟨-1, 0⟩ (.get ⟨"", ""⟩ []) (readsLeader 5)).tx.participant
          ⟨⟨1⟩, 2⟩).leaderSequenceNumber.toBitVec = 5 ∧
      (get ⟨-1, 0⟩ (readsLeader 7) ⟨"", ""⟩ [] (((Config.init 0).step ⟨-1, 0⟩
        (.put ⟨"", ""⟩ [9] [1]) (.routing ⟨1⟩ ⟨⟨1⟩, 2⟩)).step ⟨-1, 0⟩ (.get ⟨"", ""⟩ [])
          (readsLeader 5)).tx).ret = .err (.transactionAborted .rangeLeadershipChanged) :=
  have h : Reachable ⟨-1, 0⟩ (((Config.init 0).step ⟨-1, 0⟩ (.put ⟨"", ""⟩ [9] [1])
      (.routing ⟨1⟩ ⟨⟨1⟩, 2⟩)).step ⟨-1, 0⟩ (.get ⟨"", ""⟩ []) (readsLeader 5)) :=
    .step _ _ (.step _ _ (.init 0))
  have hobs : successfulObservations ⟨⟨1⟩, 2⟩ (((Config.init 0).step ⟨-1, 0⟩
      (.put ⟨"", ""⟩ [9] [1]) (.routing ⟨1⟩ ⟨⟨1⟩, 2⟩)).step ⟨-1, 0⟩ (.get ⟨"", ""⟩ [])
        (readsLeader 5)).history = [5] := rfl
  have hlaw := leader_pinning_law ⟨-1, 0⟩ rfl (by decide) _ h rfl ⟨⟨1⟩, 2⟩ (by rw [hobs]; decide)
  ⟨h, rfl, hobs, by rw [hlaw.2.1, hobs]; rfl, ((hlaw.2.2 ⟨"", ""⟩ [] (readsLeader 7) ⟨[none], 7⟩ rfl rfl rfl
    (by decide)).2.mpr ⟨.inr ⟨5, by rw [hobs]; exact List.mem_singleton_self 5, by decide⟩, rfl⟩)⟩

/-! ### The spec's fencing rule -/

/-- The spec's fencing rule for leader sequence numbers: a `get` that reads from range `r`
aborts the transaction exactly when it observes `INVALID`, or a leader other than one that
an earlier successful read of `r` observed. -/
def PinsFirstLeader (k : Constants) : Prop :=
  ∀ c, Reachable k c → c.panicked = false → ∀ ks key ans r res, c.tx.state = .running →
    ans.fullRangeIdOfKey = some r → ans.get = some res →
    .get r [key] (some res) ∈ (get k ans ks key c.tx).calls →
    ((get k ans ks key c.tx).tx.state = .aborted ↔
      res.leaderSequenceNumber = k.invalidLeaderSequenceNumber ∨
        ∃ v ∈ successfulObservations r c.history, v ≠ res.leaderSequenceNumber)

/-- Under the fencing rule, a read of an unbuffered key would pin and compare as the rule
says, for every leader it may observe. -/
theorem PinsFirstLeader.observe_iff {k : Constants} (hk : PinsFirstLeader k)
    (c : Config) (h : Reachable k c) (hp : c.panicked = false) (hs : c.tx.state = .running)
    (ks : Keyspace) (keyspaceId : KeyspaceId) (r : FullRangeId)
    (hks : c.tx.resolvedKeyspaces.lookup ks = some keyspaceId) (key : Bytes)
    (hw : (c.tx.participant r).writeset.lookup key = none)
    (hd : key ∉ (c.tx.participant r).deleteset) (o : BitVec 64) :
    o ≠ (pinLeaderSequenceNumber k (c.tx.participant r).leaderSequenceNumber o).toBitVec ↔
      o = k.invalidLeaderSequenceNumber ∨ ∃ v ∈ successfulObservations r c.history, v ≠ o := by
  have hm := get_asks_range_of_unbuffered k
    { Answers.routing keyspaceId r with get := some ⟨[none], o⟩ } ks key c.tx hs hks rfl hw hd
  rw [← (get_leader_check k _ ks key c.tx hs rfl rfl hm).1]
  exact hk c h hp ks key _ r ⟨[none], o⟩ hs rfl rfl hm

/-- **No choice of the sentinels makes the code keep the fencing rule.** After a `put`
that makes range `r` a participant: if `INVALID = 0`, a read observing `0` does not abort; if
`UNSET ≠ 0`, a first read observing a value other than `0` and `INVALID` aborts; and if
`UNSET = 0`, a read observing `0` pins nothing, so a second read observing another value
does not abort. -/
theorem not_pinsFirstLeader : ¬ ∃ k, PinsFirstLeader k := by
  rintro ⟨k, hk⟩
  set r : FullRangeId := ⟨⟨1⟩, 2⟩
  set c1 := (Config.init 0).step k (.put ⟨"", ""⟩ [9] [1]) (.routing ⟨1⟩ r)
  have hl1 : (c1.tx.participant r).leaderSequenceNumber = 0 := rfl
  have hd1 : [] ∉ (c1.tx.participant r).deleteset :=
    (by decide : [] ∉ (((Config.init 0).step ⟨0, 0⟩ (.put ⟨"", ""⟩ [9] [1])
      (.routing ⟨1⟩ ⟨⟨1⟩, 2⟩)).tx.participant ⟨⟨1⟩, 2⟩).deleteset)
  have h1 := hk.observe_iff c1 (.step _ _ (.init 0)) rfl rfl ⟨"", ""⟩ ⟨1⟩ r rfl [] rfl hd1
  rw [hl1, show successfulObservations r c1.history = [] from rfl] at h1
  -- `INVALID = 0`: a read observing `0` does not abort, though it observed `INVALID`.
  by_cases hinv : k.invalidLeaderSequenceNumber = 0
  · have := h1 0
    rw [pinLeaderSequenceNumber_zero, hinv] at this
    exact this.mpr (.inl rfl) rfl
  obtain ⟨o, ho0, hoinv⟩ : ∃ o : BitVec 64, o ≠ 0 ∧ o ≠ k.invalidLeaderSequenceNumber := by
    by_cases h : k.invalidLeaderSequenceNumber = 1
    · exact ⟨2, by decide, by rw [h]; decide⟩
    · exact ⟨1, by decide, Ne.symm h⟩
  by_cases hunset : k.unsetLeaderSequenceNumber = 0
  swap
  -- `UNSET ≠ 0`: nothing is pinned, so a first read observing `o` aborts.
  · have := h1 o
    have hpin : (0 : UInt64) ≠ ⟨k.unsetLeaderSequenceNumber⟩ := fun h =>
      hunset (congrArg UInt64.toBitVec h).symm
    rw [pinLeaderSequenceNumber_of_pinned hpin] at this
    exact hoinv ((this.mp ho0).resolve_right (by simp))
  -- `UNSET = 0`: a read observing `0` pins nothing, and a second read observing `o` pins `o`.
  set a0 : Answers := { Answers.routing ⟨1⟩ r with get := some ⟨[none], 0⟩ }
  have hget : get k a0 ⟨"", ""⟩ [] c1.tx =
      ⟨c1.tx.setParticipant r (((c1.tx.participant r).observe k 0).recordRead []),
        [.fullRangeIdOfKey ⟨1⟩ [] (some r), .get r [[]] (some ⟨[none], 0⟩)], .ok none⟩ := by
    rw [get_of_unbuffered k a0 ⟨"", ""⟩ [] c1.tx rfl rfl rfl rfl hd1,
      readFromRange_of_leader_kept rfl (by
        rw [Transaction.participant_touch]
        simp only [ParticipantRange.observe, hl1, pinLeaderSequenceNumber_zero]
        rfl)]
    simp only [Transaction.touch_setParticipant, Transaction.participant_touch]
    rfl
  have hstep : c1.step k (.get ⟨"", ""⟩ []) a0 =
      ⟨c1.tx.setParticipant r (((c1.tx.participant r).observe k 0).recordRead []),
        c1.history ++ [⟨.get ⟨"", ""⟩ [], a0, [.fullRangeIdOfKey ⟨1⟩ [] (some r),
          .get r [[]] (some ⟨[none], 0⟩)], .ok (.value none)⟩], false⟩ := by
    rw [Config.step_of_live rfl, Op.perform_get, hget]
    rfl
  have hl2 : ((c1.step k (.get ⟨"", ""⟩ []) a0).tx.participant r).leaderSequenceNumber = 0 := by
    rw [hstep]
    simp only [Transaction.participant_setParticipant_self, ParticipantRange.recordRead,
      ParticipantRange.observe, hl1, pinLeaderSequenceNumber_zero]
  have h2 := hk.observe_iff _ (.step _ _ (.step _ _ (.init 0))) (by rw [hstep]) (by rw [hstep]; rfl)
    ⟨"", ""⟩ ⟨1⟩ r (by rw [hstep]; rfl) [] (by rw [hstep]; rfl) (by rw [hstep]; exact hd1) o
  rw [hl2, pinLeaderSequenceNumber, if_pos ⟨hoinv, by rw [hunset]; rfl⟩,
    show successfulObservations r (c1.step k (.get ⟨"", ""⟩ []) a0).history = [0] by
      rw [hstep]; rfl] at h2
  exact h2.mpr (.inr ⟨0, List.mem_singleton_self 0, Ne.symm ho0⟩) rfl

end AtomixCoordinator
