import AtomixCoordinator.Keyspaces

/-!
# The two-phase shape of a run

The coordinator is the decider of a two-phase commit, and what it sends over a whole run
has one shape (`AtomixCoordinator.TwoPhaseShape`): reads – lookups and reads from range
servers – for as long as the transaction runs, and then at most one round of decision,
after which it sends nothing:

* an **abort round** (`AtomixCoordinator.AbortRound`): an abort to every participant
  range and one call to the state store, made by `abort` or by a read that found the
  leader of a range changed;
* a **prepare round** (`AtomixCoordinator.PrepareRound`): one prepare to every
  participant range and one epoch read, after which the join loop takes the prepare
  results in whatever order the join set gives them back
  (`AtomixCoordinator.JoinRound`). A failed task is followed by an abort round, a range
  client error by nothing at all (the coordinator panics), and only once every prepare
  succeeded does the coordinator ask the state store to commit at the epoch it read,
  telling the participants to commit only if the store committed at that epoch.

`AtomixCoordinator.joinPrepare` events are not calls but the log of a prepare task as the
join loop takes it; they say which prepares had completed when the decision was asked for.

Every call of a running transaction keeps the log in that shape
(`AtomixCoordinator.Op.perform_twoPhaseShape`), and a call of one that is not running
sends nothing; so every reachable configuration has it, and in particular its log holds
at most one call to the state store and never both a commit and an abort
(`AtomixCoordinator.trace_has_two_phase_shape`).
-/

namespace AtomixCoordinator

/-! ### Kinds of calls -/

/-- A call that commits: the commit asked of the state store, or a commit sent to a
participant range. -/
def Event.isCommit : Event → Bool
  | .tryCommitTransaction _ _ _ | .commitTransaction _ _ => true
  | _ => false

/-- A call that aborts: the abort asked of the state store, or an abort sent to a
participant range. -/
def Event.isAbort : Event → Bool
  | .tryAbortTransaction _ _ | .abortTransaction _ => true
  | _ => false

/-- A call to the transaction state store. -/
def Event.isStateStore : Event → Bool
  | .tryCommitTransaction _ _ _ | .tryAbortTransaction _ _ => true
  | _ => false

theorem Event.decides_of_isRead {ev : Event} (h : ev.isRead = true) :
    ev.isCommit = false ∧ ev.isAbort = false ∧ ev.isStateStore = false := by
  cases ev <;> simp_all [Event.isRead, Event.isCommit, Event.isAbort, Event.isStateStore]

/-- Every call of `calls` is a read. -/
def AllReads (calls : List Event) : Prop := ∀ ev ∈ calls, ev.isRead = true

section AllReads

variable {calls calls' : List Event}

@[simp] theorem allReads_nil : AllReads [] := List.forall_mem_nil _

@[simp] theorem allReads_append : AllReads (calls ++ calls') ↔ AllReads calls ∧ AllReads calls' :=
  List.forall_mem_append

theorem Resolution.allReads {ks : Keyspace} {old cache : HashMap Keyspace KeyspaceId}
    (h : Resolution ks old cache calls) : AllReads calls := fun ev hev =>
  Event.isRead_of_isLookup (h.isLookup ev hev)

end AllReads

/-! ### The rounds -/

/-- An abort round of transaction `id` over the ranges `P`: an abort to each, then one
call to the state store. -/
def AbortRound (id : Uuid) (P : List FullRangeId) (calls : List Event) : Prop :=
  ∃ answer, calls = P.map .abortTransaction ++ [.tryAbortTransaction id answer]

/-- What follows the epoch read of a commit that read `epoch`: the prepare results, taken
in an order that reorders `P`, up to the first that failed, and then an abort round after
a failed task, nothing after a range client error, and, once every prepare succeeded,
one call to the state store at `epoch`, followed by a commit at `epoch` to every range of
`P` only if the store committed at `epoch`. -/
def JoinRound (id : Uuid) (P : List FullRangeId) (epoch : UInt64) (calls : List Event) : Prop :=
  (∃ done r rest aborts, (done ++ r :: rest).Perm P ∧ AbortRound id P aborts ∧
      calls = done.map joinPrepared ++ .joinPrepare r .joinError :: aborts) ∨
    (∃ done r rest, (done ++ r :: rest).Perm P ∧
      calls = done.map joinPrepared ++ [.joinPrepare r .rangeClientError]) ∨
    (∃ (order : List FullRangeId) (answer : Option OpResult) (commits : List Event), order.Perm P ∧
      calls = order.map joinPrepared ++ .tryCommitTransaction id epoch answer :: commits ∧
      (commits = [] ∨ answer = some (.transactionIsCommitted epoch) ∧
        commits = P.map (.commitTransaction · epoch)))

/-- A prepare round of transaction `id` over the ranges `P`: one prepare to each range,
one epoch read, and, if it gave an epoch, what follows it. -/
def PrepareRound (id : Uuid) (P : List FullRangeId) (calls : List Event) : Prop :=
  ∃ (prepares : List (FullRangeId × PrepareRequest)) (rest : List Event),
    prepares.map Prod.fst = P ∧
    calls = prepares.map (fun q => .prepareTransaction q.1 q.2) ++ rest ∧
    (rest = [.readEpoch none] ∨
      ∃ epoch joins, rest = .readEpoch (some epoch) :: joins ∧ JoinRound id P epoch joins)

/-- **The two-phase shape** of the log of transaction `tx`: reads, then – never while `tx`
runs – at most one abort round or prepare round over the participant ranges of `tx`. -/
def TwoPhaseShape (tx : Transaction) (trace : List Event) : Prop :=
  ∃ reads decision, trace = reads ++ decision ∧ AllReads reads ∧
    (tx.state = .running → decision = []) ∧
    (decision = [] ∨ AbortRound tx.id tx.participantRanges.keys decision ∨
      PrepareRound tx.id tx.participantRanges.keys decision)

/-! ### Building the shape -/

section Shape

variable {tx tx' : Transaction} {trace calls : List Event}

theorem TwoPhaseShape.of_allReads (h : AllReads calls) : TwoPhaseShape tx calls :=
  ⟨calls, [], by simp, h, fun _ => rfl, .inl rfl⟩

theorem TwoPhaseShape.of_abortCalls (answer : Option OpResult) (pre : List Event)
    (h : AllReads pre) :
    TwoPhaseShape { tx with state := .aborted } (pre ++ abortCalls tx answer) :=
  ⟨pre, _, rfl, h, nofun, .inr (.inl ⟨answer, rfl⟩)⟩

/-- Reads made before a call keep the shape of what the call sent. -/
theorem TwoPhaseShape.reads_append (pre : List Event) (hpre : AllReads pre)
    (h : TwoPhaseShape tx calls) : TwoPhaseShape tx (pre ++ calls) := by
  obtain ⟨reads, decision, rfl, hr, hrun, hd⟩ := h
  exact ⟨pre ++ reads, decision, by simp, by simp [hpre, hr], hrun, hd⟩

/-- A log of a running transaction is all reads, and so the calls that follow it keep
their shape. -/
theorem TwoPhaseShape.append (h : TwoPhaseShape tx trace) (hs : tx.state = .running)
    (h' : TwoPhaseShape tx' calls) : TwoPhaseShape tx' (trace ++ calls) := by
  obtain ⟨reads, decision, rfl, hr, hrun, -⟩ := h
  rw [hrun hs, List.append_nil]
  exact h'.reads_append reads hr

end Shape

/-! ### Every method keeps the shape -/

section Methods

variable (k : Constants) (ans : Answers) (ks : Keyspace) (key val : Bytes) {tx : Transaction}

theorem readYourWrites_twoPhaseShape (rangeId : FullRangeId) (tx : Transaction) :
    TwoPhaseShape (readYourWrites k ans rangeId key tx).tx
      (readYourWrites k ans rangeId key tx).calls := by
  rcases readYourWrites_cases k ans rangeId key tx with ⟨_, -, h⟩ | ⟨-, -, h⟩ | ⟨-, -, h⟩
  · simpa [h] using TwoPhaseShape.of_allReads allReads_nil
  · simpa [h] using TwoPhaseShape.of_allReads allReads_nil
  rw [h]
  rcases readFromRange_cases k ans rangeId key (tx.touch rangeId) with
    ⟨-, h'⟩ | ⟨res, -, -, h'⟩ | ⟨_, -, -, h'⟩ <;> rw [h']
  · exact .of_allReads (by simp [AllReads, Event.isRead])
  · exact .of_abortCalls _ [.get rangeId [key] (some res)] (by simp [AllReads, Event.isRead])
  · exact .of_allReads (by simp [AllReads, Event.isRead])

theorem get_twoPhaseShape (hs : tx.state = .running) :
    TwoPhaseShape (get k ans ks key tx).tx (get k ans ks key tx).calls := by
  rcases get_cases k ans ks key tx with ⟨hs', -⟩ | ⟨-, cache, calls, hres, ⟨rangeId, -, -, h⟩ | ⟨_, -, -, h⟩⟩
  · exact absurd hs hs'
  · rw [h, Outcome.prepend_tx, Outcome.prepend_calls]
    exact (readYourWrites_twoPhaseShape k ans key rangeId _).reads_append calls hres.allReads
  · rw [h]
    exact .of_allReads hres.allReads

theorem bufferMutation_twoPhaseShape (update : ParticipantRange → ParticipantRange) :
    TwoPhaseShape (bufferMutation ans ks key update tx).tx
      (bufferMutation ans ks key update tx).calls := by
  rcases bufferMutation_cases ans ks key tx update with
    ⟨-, h⟩ | ⟨-, cache, calls, hres, ⟨_, -, -, h⟩ | ⟨_, -, -, h⟩⟩ <;> rw [h]
  · exact .of_allReads allReads_nil
  · exact .of_allReads hres.allReads
  · exact .of_allReads hres.allReads

theorem abort_twoPhaseShape (hs : tx.state = .running) :
    TwoPhaseShape (abort ans tx).tx (abort ans tx).calls := by
  have hna : tx.state ≠ .aborted := by simp [hs]
  rw [abort_apply, if_neg hna, if_pos hs, recordAbort_apply]
  exact .of_abortCalls _ [] allReads_nil

/-- The calls of the decision once every prepare succeeded: one call to the state store,
and commits to every participant range only if it committed at the epoch read. -/
theorem commitDecision_calls (tx : Transaction) (epoch : UInt64) (answer : Option OpResult) :
    ∃ commits, (commitDecision tx epoch answer).calls =
        .tryCommitTransaction tx.id epoch answer :: commits ∧
      (commits = [] ∨ answer = some (.transactionIsCommitted epoch) ∧
        commits = tx.participantRanges.keys.map (.commitTransaction · epoch)) := by
  unfold commitDecision
  split
  · split_ifs with he
    · exact ⟨_, rfl, .inr ⟨by rw [he], rfl⟩⟩
    · exact ⟨[], rfl, .inl rfl⟩
  all_goals exact ⟨[], rfl, .inl rfl⟩

/-- The prepares `commit` dispatches, one to each participant range. -/
theorem prepareCalls_eq (tx : Transaction) :
    prepareCalls tx = (tx.participantRanges.entries.map fun e => (e.1, prepareRequest e.2)).map
      (fun q => .prepareTransaction q.1 q.2) := by
  simp [prepareCalls]

theorem prepareCalls_targets (tx : Transaction) :
    (tx.participantRanges.entries.map fun e => (e.1, prepareRequest e.2)).map Prod.fst =
      tx.participantRanges.keys := by
  simp [AList.keys, List.keys, Function.comp_def]

/-- **`commit` makes a prepare round.** -/
theorem commit_twoPhaseShape (hs : tx.state = .running) :
    TwoPhaseShape (commit ans tx).tx (commit ans tx).calls := by
  refine ⟨[], _, rfl, allReads_nil, fun h => absurd h (commit_state_of_running ans hs), .inr (.inr ?_)⟩
  have hframe := congrArg (fun t : Transaction => (t.id, t.participantRanges)) (commit_frame ans tx).1
  simp only [Prod.mk.injEq] at hframe
  show PrepareRound _ _ (commit ans tx).calls
  rw [hframe.1, hframe.2]
  have hperm : (joinOrderOf ans tx).Perm tx.participantRanges.keys := ans.joinOrder.perm _
  rcases (@commit_cases ans _ hs) with ⟨-, hc⟩ | ⟨epoch, -, -, hc⟩ |
      ⟨epoch, pre, r, post, -, hl, -, ⟨-, hc⟩ | ⟨-, hc⟩⟩
  · rw [hc, prepareCalls_eq]
    exact ⟨_, _, prepareCalls_targets tx, rfl, .inl rfl⟩
  · obtain ⟨commits, hcalls, hcommits⟩ :=
      commitDecision_calls { tx with state := .preparing } epoch ans.tryCommitTransaction
    rw [hc, Outcome.prepend_calls, hcalls, prepareCalls_eq, List.append_assoc]
    exact ⟨_, _, prepareCalls_targets tx, rfl, .inr ⟨epoch, _, rfl,
      .inr (.inr ⟨_, _, commits, hperm, rfl, hcommits⟩)⟩⟩
  · rw [hl] at hperm
    rw [hc, prepareCalls_eq]
    exact ⟨_, _, prepareCalls_targets tx, rfl, .inr ⟨epoch, _, rfl,
      .inl ⟨pre, r, post, _, hperm, ⟨ans.tryAbortTransaction, rfl⟩, rfl⟩⟩⟩
  · rw [hl] at hperm
    rw [hc, prepareCalls_eq]
    exact ⟨_, _, prepareCalls_targets tx, rfl, .inr ⟨epoch, _, rfl,
      .inr (.inl ⟨pre, r, post, hperm, rfl⟩)⟩⟩

end Methods

/-- **Every call of a running transaction keeps the shape.** -/
theorem Op.perform_twoPhaseShape (k : Constants) (op : Op) (ans : Answers) {tx : Transaction}
    (hs : tx.state = .running) :
    TwoPhaseShape (op.perform k ans tx).tx (op.perform k ans tx).calls := by
  cases op with
  | get ks key => simpa using get_twoPhaseShape k ans ks key hs
  | put ks key val => simpa using bufferMutation_twoPhaseShape ans ks key (·.bufferPut key val)
  | del ks key => simpa using bufferMutation_twoPhaseShape ans ks key (·.bufferDel key)
  | commit => simpa using commit_twoPhaseShape ans hs
  | abort => simpa using abort_twoPhaseShape ans hs

/-- **Every reachable configuration has the two-phase shape.** -/
theorem Reachable.twoPhaseShape {k : Constants} {c : Config} (h : Reachable k c) :
    TwoPhaseShape c.tx c.trace :=
  h.trace_induction _ (fun _ => .of_allReads allReads_nil) fun _ op ans _ hs ih =>
    ih.append hs (Op.perform_twoPhaseShape k op ans hs)

/-! ### What the shape rules out -/

/-- A list of calls decides once: it holds at most one call to the state store, and not
both a commit and an abort. -/
def DecidesOnce (calls : List Event) : Prop :=
  calls.countP Event.isStateStore ≤ 1 ∧
    (calls.countP Event.isCommit = 0 ∨ calls.countP Event.isAbort = 0)

section DecidesOnce

variable {id : Uuid} {P : List FullRangeId} {calls : List Event}

theorem AllReads.decidesNothing (h : AllReads calls) :
    calls.countP Event.isStateStore = 0 ∧ calls.countP Event.isCommit = 0 ∧
      calls.countP Event.isAbort = 0 := by
  refine ⟨?_, ?_, ?_⟩ <;> refine List.countP_eq_zero.mpr fun ev hev => ?_ <;>
    simp [Event.decides_of_isRead (h ev hev)]

theorem AbortRound.decidesOnce (h : AbortRound id P calls) :
    calls.countP Event.isStateStore = 1 ∧ calls.countP Event.isCommit = 0 := by
  obtain ⟨answer, rfl⟩ := h
  simp [Function.comp_def, Event.isStateStore, Event.isCommit]

theorem JoinRound.decidesOnce {epoch : UInt64} (h : JoinRound id P epoch calls) :
    DecidesOnce calls := by
  rcases h with ⟨done, r, -, aborts, -, habort, rfl⟩ | ⟨done, r, -, -, rfl⟩ |
    ⟨order, answer, commits, -, rfl, rfl | ⟨-, rfl⟩⟩
  · obtain ⟨hstore, hcommit⟩ := habort.decidesOnce
    simp [DecidesOnce, hstore, hcommit, Function.comp_def, joinPrepared, Event.isStateStore,
      Event.isCommit]
  all_goals simp [DecidesOnce, Function.comp_def, joinPrepared, Event.isStateStore, Event.isAbort]

theorem PrepareRound.decidesOnce (h : PrepareRound id P calls) : DecidesOnce calls := by
  obtain ⟨prepares, rest, -, rfl, rfl | ⟨epoch, joins, rfl, hjoins⟩⟩ := h
  · simp [DecidesOnce, Function.comp_def, Event.isStateStore, Event.isCommit]
  · simpa [DecidesOnce, Function.comp_def, Event.isStateStore, Event.isCommit, Event.isAbort]
      using hjoins.decidesOnce

/-- A log of the two-phase shape decides once. -/
theorem TwoPhaseShape.decidesOnce {tx : Transaction} {trace : List Event}
    (h : TwoPhaseShape tx trace) : DecidesOnce trace := by
  obtain ⟨reads, decision, rfl, hreads, -, hdecision⟩ := h
  have hd : DecidesOnce decision := by
    rcases hdecision with rfl | habort | hprepare
    · simp [DecidesOnce]
    · obtain ⟨h1, h2⟩ := habort.decidesOnce
      exact ⟨h1.le, .inl h2⟩
    · exact hprepare.decidesOnce
  simpa [DecidesOnce, hreads.decidesNothing] using hd

end DecidesOnce

/-- **The two-phase shape of every run.** The log of every reachable configuration is
reads followed, once the transaction no longer runs, by at most one abort round or
prepare round over its participant ranges, after which nothing is sent; so it holds at
most one call to the state store, and no commit or no abort. -/
theorem trace_has_two_phase_shape (k : Constants) (c : Config) (h : Reachable k c) :
    TwoPhaseShape c.tx c.trace ∧ c.trace.countP Event.isStateStore ≤ 1 ∧
      (c.trace.countP Event.isCommit = 0 ∨ c.trace.countP Event.isAbort = 0) :=
  ⟨h.twoPhaseShape, h.twoPhaseShape.decidesOnce⟩

/-- A `put` and a `commit` that goes through: the log is a lookup pair, then a full
prepare round. -/
theorem trace_has_two_phase_shape_after_commit :
    Reachable ⟨0, 0⟩ ((((Config.init 0).step ⟨0, 0⟩ (.put ⟨"", ""⟩ [9] [1])
        (.routing ⟨1⟩ ⟨⟨1⟩, 2⟩))).step ⟨0, 0⟩ .commit (.committing 1)) ∧
      TwoPhaseShape ((((Config.init 0).step ⟨0, 0⟩ (.put ⟨"", ""⟩ [9] [1])
          (.routing ⟨1⟩ ⟨⟨1⟩, 2⟩))).step ⟨0, 0⟩ .commit (.committing 1)).tx
        ((((Config.init 0).step ⟨0, 0⟩ (.put ⟨"", ""⟩ [9] [1])
          (.routing ⟨1⟩ ⟨⟨1⟩, 2⟩))).step ⟨0, 0⟩ .commit (.committing 1)).trace ∧
      ((((Config.init 0).step ⟨0, 0⟩ (.put ⟨"", ""⟩ [9] [1])
          (.routing ⟨1⟩ ⟨⟨1⟩, 2⟩))).step ⟨0, 0⟩ .commit (.committing 1)).trace.countP
          Event.isStateStore ≤ 1 ∧
      (((((Config.init 0).step ⟨0, 0⟩ (.put ⟨"", ""⟩ [9] [1])
          (.routing ⟨1⟩ ⟨⟨1⟩, 2⟩))).step ⟨0, 0⟩ .commit (.committing 1)).trace.countP
          Event.isCommit = 0 ∨
        ((((Config.init 0).step ⟨0, 0⟩ (.put ⟨"", ""⟩ [9] [1])
          (.routing ⟨1⟩ ⟨⟨1⟩, 2⟩))).step ⟨0, 0⟩ .commit (.committing 1)).trace.countP
          Event.isAbort = 0) :=
  have h : Reachable ⟨0, 0⟩ ((((Config.init 0).step ⟨0, 0⟩ (.put ⟨"", ""⟩ [9] [1])
      (.routing ⟨1⟩ ⟨⟨1⟩, 2⟩))).step ⟨0, 0⟩ .commit (.committing 1)) :=
    .step .commit (.committing 1) (.step (.put ⟨"", ""⟩ [9] [1]) (.routing ⟨1⟩ ⟨⟨1⟩, 2⟩) (.init 0))
  ⟨h, trace_has_two_phase_shape ⟨0, 0⟩ _ h⟩

end AtomixCoordinator
