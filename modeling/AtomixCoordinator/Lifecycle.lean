import AtomixCoordinator.Run
import AtomixCoordinator.Steps.Commit

/-!
# The life cycle of a transaction

The spec's state machine (`AtomixCoordinator.State.Step`): a running transaction enters
`Preparing` when `commit` is called and is aborted by `abort` or by a read that found a
new leader; a preparing one ends `Committed` or `Aborted`; nothing leaves those two, and
nothing returns to `Running`. The coordinator keeps to it call by call
(`AtomixCoordinator.Op.Moves`, `AtomixCoordinator.Op.perform_moves`): `get` and `abort`
may abort a running transaction, `commit` takes a running one to `Preparing` and perhaps
one move further, `put` and `del` never move it. A call other than `abort` on a
transaction that is not running fails the state check and does nothing else, so once
`commit` is entered no later data operation or commit succeeds
(`AtomixCoordinator.transaction_lifecycle`).

`Preparing` is meant to be seen only while `commit` runs. It is not: when the state store
answers that the transaction was aborted, `commit` returns `TransactionAborted` and leaves
the state `Preparing`, so that a later `abort` is refused as if the transaction had
committed (`AtomixCoordinator.commit_store_abort_leaves_preparing`).
-/

namespace AtomixCoordinator

/-! ### The state machine of the spec -/

/-- The moves of a transaction's state that the spec allows. -/
inductive State.Step : State → State → Prop
  /-- `commit` is entered. -/
  | prepare : State.Step .running .preparing
  /-- The state store decided to commit. -/
  | commit : State.Step .preparing .committed
  /-- A prepare failed, or the state store decided to abort. -/
  | abortPreparing : State.Step .preparing .aborted
  /-- `abort`, or a read that found the leader of a range changed. -/
  | abort : State.Step .running .aborted

/-- The states a transaction in state `s` may come to, by allowed moves. -/
def State.Reaches (s s' : State) : Prop := Relation.ReflTransGen State.Step s s'

namespace State

theorem Reaches.refl (s : State) : s.Reaches s := Relation.ReflTransGen.refl

/-- No move of the spec's ends in `Running`. -/
theorem Step.ne_running {s s' : State} (h : State.Step s s') : s' ≠ .running := by
  cases h <;> simp

/-- **Nothing leaves `Committed` or `Aborted`.** -/
theorem eq_of_reaches_of_final {s s' : State} (hs : s = .committed ∨ s = .aborted)
    (h : s.Reaches s') : s' = s := by
  induction h with
  | refl => rfl
  | tail _ hst ih =>
    subst ih
    rcases hs with rfl | rfl <;> cases hst

/-- **Nothing returns to `Running`.** -/
theorem ne_running_of_reaches {s s' : State} (hs : s ≠ .running) (h : s.Reaches s') :
    s' ≠ .running := by
  induction h with
  | refl => exact hs
  | tail _ hst _ => exact hst.ne_running

end State

/-- The moves of the state that one call of the client API may make. -/
inductive Op.Moves : Op → State → State → Prop
  /-- The call leaves the state as it was. -/
  | stay (op : Op) (s : State) : Op.Moves op s s
  /-- A read found the leader of a range changed. -/
  | getAbort (ks : Keyspace) (key : Bytes) : Op.Moves (.get ks key) .running .aborted
  /-- `abort` of a running transaction. -/
  | abort : Op.Moves .abort .running .aborted
  /-- `commit` is entered and stops in `Preparing`. -/
  | commitPrepare : Op.Moves .commit .running .preparing
  /-- `commit` is entered and takes one more move from `Preparing`. -/
  | commitDecide {s : State} (h : State.Step .preparing s) : Op.Moves .commit .running s

/-- The moves of one call are moves of the spec's state machine. -/
theorem Op.Moves.reaches {op : Op} {s s' : State} (h : op.Moves s s') : s.Reaches s' := by
  cases h with
  | stay => exact .refl _
  | getAbort => exact .single .abort
  | abort => exact .single .abort
  | commitPrepare => exact .single .prepare
  | commitDecide h => exact (Relation.ReflTransGen.single .prepare).tail h

/-! ### The state each method leaves -/

section Methods

variable (k : Constants) (ans : Answers) (ks : Keyspace) (key val : Bytes)
  (rangeId : FullRangeId)

theorem readFromRange_state (tx : Transaction) :
    (readFromRange k ans rangeId key tx).tx.state = tx.state ∨
      (readFromRange k ans rangeId key tx).tx.state = .aborted := by
  rcases readFromRange_cases k ans rangeId key tx with ⟨-, h⟩ | ⟨_, -, -, h⟩ | ⟨_, -, -, h⟩ <;>
    simp [h]

theorem readYourWrites_state (tx : Transaction) :
    (readYourWrites k ans rangeId key tx).tx.state = tx.state ∨
      (readYourWrites k ans rangeId key tx).tx.state = .aborted := by
  rcases readYourWrites_cases k ans rangeId key tx with ⟨_, -, h⟩ | ⟨-, -, h⟩ | ⟨-, -, h⟩
  · simp [h]
  · simp [h]
  · simpa [h] using readFromRange_state k ans key rangeId (tx.touch rangeId)

/-- `get` leaves the state as it was, or aborts a running transaction. -/
theorem get_state (tx : Transaction) :
    (get k ans ks key tx).tx.state = tx.state ∨
      (tx.state = .running ∧ (get k ans ks key tx).tx.state = .aborted) := by
  rcases get_cases k ans ks key tx with ⟨-, h⟩ | ⟨hs, cache, calls, -, ⟨rangeId, -, -, h⟩ | ⟨_, -, -, h⟩⟩
  · simp [h]
  · rcases readYourWrites_state k ans key rangeId (tx.withCache cache) with h' | h' <;>
      simp_all
  · simp [h]

/-- `put` and `del` leave the state as it was. -/
theorem bufferMutation_state (update : ParticipantRange → ParticipantRange) (tx : Transaction) :
    (bufferMutation ans ks key update tx).tx.state = tx.state := by
  rcases bufferMutation_cases ans ks key tx update with
    ⟨-, h⟩ | ⟨-, cache, calls, -, ⟨_, -, -, h⟩ | ⟨_, -, -, h⟩⟩ <;> simp [h]

theorem commitDecision_state (tx : Transaction) (epoch : UInt64) (answer : Option OpResult) :
    (commitDecision tx epoch answer).tx.state = tx.state ∨
      (commitDecision tx epoch answer).tx.state = .committed := by
  unfold commitDecision
  split
  · split_ifs <;> simp
  · simp
  · simp

/-- **A commit of a running transaction enters `Preparing`**, and stops there or takes
one more move of the spec's: to `Committed` when the state store granted it, to `Aborted`
when a prepare task failed to join. -/
theorem commit_enters_preparing {tx : Transaction} (h : tx.state = .running) :
    (commit ans tx).tx.state = .preparing ∨ State.Step .preparing (commit ans tx).tx.state := by
  rcases (@commit_cases ans _ h) with ⟨-, hc⟩ | ⟨epoch, -, -, hc⟩ |
      ⟨_, _, _, _, -, -, -, ⟨-, hc⟩ | ⟨-, hc⟩⟩
  · simp [hc]
  · rw [hc, Outcome.prepend_tx]
    rcases commitDecision_state { tx with state := .preparing } epoch ans.tryCommitTransaction
      with h' | h' <;> rw [h']
    · exact .inl rfl
    · exact .inr .commit
  · rw [hc]
    exact .inr .abortPreparing
  · simp [hc]

/-- **Once entered, `commit` never leaves the transaction running.** -/
theorem commit_state_of_running {tx : Transaction} (h : tx.state = .running) :
    (commit ans tx).tx.state ≠ .running := by
  rcases commit_enters_preparing ans h with h' | h'
  · simp [h']
  · exact h'.ne_running

theorem commit_state_of_not_running {tx : Transaction} (h : tx.state ≠ .running) :
    (commit ans tx).tx.state = tx.state := by
  simp [commit_of_not_running h]

end Methods

/-! ### Every call keeps to the state machine -/

section Calls

variable (k : Constants)

/-- **Every call moves the state by the moves of its kind only.** -/
theorem Op.perform_moves (op : Op) (ans : Answers) (tx : Transaction) :
    op.Moves tx.state (op.perform k ans tx).tx.state := by
  cases op with
  | get ks key =>
    rcases get_state k ans ks key tx with h | ⟨hs, h⟩
    · simpa [h] using Op.Moves.stay (.get ks key) tx.state
    · simpa [h, hs] using Op.Moves.getAbort ks key
  | put ks key val =>
    simpa [bufferMutation_state] using Op.Moves.stay (.put ks key val) tx.state
  | del ks key => simpa [bufferMutation_state] using Op.Moves.stay (.del ks key) tx.state
  | commit =>
    by_cases hs : tx.state = .running
    · rw [Op.perform_commit, Outcome.map_tx, hs]
      rcases commit_enters_preparing ans hs with h | h
      · rw [h]
        exact .commitPrepare
      · exact .commitDecide h
    · simpa [commit_state_of_not_running ans hs] using Op.Moves.stay .commit tx.state
  | abort =>
    rw [Op.perform_abort, Outcome.map_tx, abort_apply]
    split_ifs with ha hr
    · exact .stay _ _
    · rw [hr, recordAbort_apply]
      exact .abort
    · exact .stay _ _

/-- Every call moves the state by allowed moves only. -/
theorem Op.perform_reaches (op : Op) (ans : Answers) (tx : Transaction) :
    tx.state.Reaches (op.perform k ans tx).tx.state :=
  (Op.perform_moves k op ans tx).reaches

/-- **A call other than `abort` on a transaction that is not running fails the state
check, and does nothing else.** -/
theorem Op.perform_of_not_running {op : Op} (hop : op ≠ .abort) (ans : Answers)
    {tx : Transaction} (h : tx.state ≠ .running) :
    op.perform k ans tx = ⟨tx, [], .err tx.state.stillRunningError⟩ := by
  cases op with
  | get ks key =>
    rcases get_cases k ans ks key tx with ⟨-, h'⟩ | ⟨h', -⟩
    · simp [h']
    · exact absurd h' h
  | put ks key val =>
    rcases bufferMutation_cases ans ks key tx (·.bufferPut key val) with ⟨-, h'⟩ | ⟨h', -⟩
    · simp [h']
    · exact absurd h' h
  | del ks key =>
    rcases bufferMutation_cases ans ks key tx (·.bufferDel key) with ⟨-, h'⟩ | ⟨h', -⟩
    · simp [h']
    · exact absurd h' h
  | commit => simp [commit_of_not_running h]
  | abort => exact absurd rfl hop

/-- A call of a transaction that is not running sends nothing and changes nothing. -/
theorem Op.perform_idle (op : Op) (ans : Answers) {tx : Transaction} (hs : tx.state ≠ .running) :
    (op.perform k ans tx).tx = tx ∧ (op.perform k ans tx).calls = [] := by
  by_cases hop : op = .abort
  · subst hop
    rw [Op.perform_abort, abort_apply, if_neg hs]
    split_ifs <;> simp
  · simp [Op.perform_of_not_running k hop ans hs]

/-- Once a transaction is not running, every later call other than `abort` fails. -/
theorem steps_of_not_running (reqs : List (Op × Answers)) :
    ∀ c : Config, c.tx.state ≠ .running →
      ∃ later, (c.steps k reqs).history = c.history ++ later ∧
        ∀ s ∈ later, s.op ≠ .abort → ∃ e, s.ret = .err e := by
  induction reqs with
  | nil => exact fun c _ => ⟨[], by simp, by simp⟩
  | cons req reqs ih =>
    intro c hc
    obtain ⟨op, ans⟩ := req
    have hc' : (c.step k op ans).tx.state ≠ .running := by
      unfold Config.step
      split_ifs
      · exact hc
      · exact State.ne_running_of_reaches hc (Op.perform_reaches k op ans c.tx)
    obtain ⟨later, hlater, hfail⟩ := ih _ hc'
    obtain ⟨first, hfirst, hfirst'⟩ := Config.history_step k c op ans
    refine ⟨first ++ later, by simp [hlater, hfirst], ?_⟩
    intro s hs hop
    rcases List.mem_append.mp hs with hs | hs
    · rcases hfirst' with rfl | rfl
      · simp at hs
      · rw [List.mem_singleton.mp hs] at hop ⊢
        exact ⟨c.tx.state.stillRunningError, by simp [Op.perform_of_not_running k hop ans hc]⟩
    · exact hfail s hs hop

/-- A live run that calls `commit` leaves the running state for good. -/
theorem Config.step_commit_ne_running {c : Config} (h : c.panicked = false) (ans : Answers) :
    (c.step k .commit ans).tx.state ≠ .running := by
  rw [Config.step_of_live h]
  by_cases hr : c.tx.state = .running
  · simpa using commit_state_of_running ans hr
  · exact State.ne_running_of_reaches hr (Op.perform_reaches k .commit ans c.tx)

/-- **The life cycle of a transaction.** Every call moves the state by the moves of its
kind only: `get` and `abort` from `Running` to `Aborted`, `commit` from `Running` to
`Preparing` and perhaps on to `Committed` or `Aborted`, or not at all; nothing leaves
`Committed` or `Aborted`; a call other than `abort` on a transaction that is not running
returns an error and changes nothing, sending nothing; and so, once `commit` is entered,
no later `get`, `put`, `del` or `commit` succeeds. -/
theorem transaction_lifecycle :
    (∀ (tx : Transaction) (op : Op) (ans : Answers),
      op.Moves tx.state (op.perform k ans tx).tx.state) ∧
    (∀ (tx : Transaction) (op : Op) (ans : Answers), tx.state = .committed ∨ tx.state = .aborted →
      (op.perform k ans tx).tx.state = tx.state) ∧
    (∀ (tx : Transaction) (op : Op) (ans : Answers), tx.state ≠ .running → op ≠ .abort →
      op.perform k ans tx = ⟨tx, [], .err tx.state.stillRunningError⟩) ∧
    (∀ (c : Config) (ans : Answers) (reqs : List (Op × Answers)),
      ∃ later, ((c.step k .commit ans).steps k reqs).history =
          (c.step k .commit ans).history ++ later ∧
        ∀ s ∈ later, s.op ≠ .abort → ∃ e, s.ret = .err e) := by
  refine ⟨fun tx op ans => Op.perform_moves k op ans tx, fun tx op ans hf =>
      State.eq_of_reaches_of_final hf (Op.perform_reaches k op ans tx),
    fun tx op ans h hop => Op.perform_of_not_running k hop ans h, fun c ans reqs => ?_⟩
  cases hl : c.panicked
  · exact steps_of_not_running k reqs _ (Config.step_commit_ne_running k hl ans)
  · rw [Config.step_of_panicked hl, Config.steps_of_panicked hl]
    exact ⟨[], by simp, by simp⟩

end Calls

/-! ### Induction over runs -/

/-- **Induction over runs.** A property of the transaction and its log holds on every run
if it holds of a new transaction and every call of a running transaction keeps it: a call
of one that is not running changes nothing, and a panic ends the run. -/
theorem Reachable.trace_induction {k : Constants} (P : Transaction → List Event → Prop)
    (init : ∀ id, P (Transaction.new id) [])
    (step : ∀ (c : Config) (op : Op) (ans : Answers), Reachable k c → c.tx.state = .running →
      P c.tx c.trace →
        P (op.perform k ans c.tx).tx (c.trace ++ (op.perform k ans c.tx).calls))
    {c : Config} (h : Reachable k c) : P c.tx c.trace := by
  induction h with
  | init id => exact init id
  | @step c op ans hc ih =>
    cases hp : c.panicked
    · have htx : (c.step k op ans).tx = (op.perform k ans c.tx).tx := by rw [Config.step_of_live hp]
      rw [Config.trace_step_of_live hp, htx]
      by_cases hs : c.tx.state = .running
      · exact step c op ans hc hs ih
      · obtain ⟨htx', hcalls⟩ := Op.perform_idle k op ans hs
        rwa [htx', hcalls, List.append_nil]
    · rwa [Config.step_of_panicked hp]

/-! ### When the state store aborts -/

/-- **A commit the state store refuses stays `Preparing`.** Once every prepare
succeeded, an answer of the state store that the transaction is aborted makes `commit`
return `TransactionAborted(Other)` with the state still `Preparing`, after which `abort`
is refused as `TransactionNoLongerRunning` and sends nothing. -/
theorem commit_of_store_aborted {ans : Answers} {tx : Transaction} {epoch : UInt64}
    (h : tx.state = .running) (he : ans.readEpoch = some epoch)
    (hp : ∀ r ∈ tx.participantRanges.keys, ans.prepareTransaction r = .prepared)
    (hc : ans.tryCommitTransaction = some .transactionIsAborted) (ans' : Answers) :
    (commit ans tx).ret = .err (.transactionAborted .other) ∧
      (commit ans tx).tx.state = .preparing ∧
      abort ans' (commit ans tx).tx = ⟨(commit ans tx).tx, [], .err .transactionNoLongerRunning⟩ := by
  rw [commit_of_prepared h he hp]
  simp [commitDecision, hc, abort_apply, State.stillRunningError]

/-- The answers under which the state store aborts a transaction whose epoch read gave
`1`. -/
def storeAborts : Answers :=
  { Answers.failing with readEpoch := some 1, tryCommitTransaction := some .transactionIsAborted }

/-- A fresh transaction committed while the state store answers that it is aborted: the
commit fails with `TransactionAborted(Other)` but leaves the state `Preparing`, and the
`abort` that follows fails with `TransactionNoLongerRunning`. -/
theorem commit_store_abort_leaves_preparing :
    (commit storeAborts (Transaction.new 0)).ret = .err (.transactionAborted .other) ∧
      (commit storeAborts (Transaction.new 0)).tx.state = .preparing ∧
      (abort storeAborts (commit storeAborts (Transaction.new 0)).tx).ret =
        .err .transactionNoLongerRunning := by
  obtain ⟨hret, hstate, habort⟩ := @commit_of_store_aborted storeAborts (Transaction.new 0) 1 rfl rfl
    (by simp [Transaction.new]) rfl storeAborts
  exact ⟨hret, hstate, by rw [habort]⟩

end AtomixCoordinator
