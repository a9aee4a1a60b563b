import AtomixCoordinator.TwoPhase

/-!
# When the coordinator panics

The coordinator handles some answers of its collaborators and not others. It `unwrap`s
the keyspace id the universe directory returns, the result of a read and its first value,
the epoch read and the answers of the state store; it sends a range client error to a
translation that is not written yet and panics; it asserts that the state store committed
at the epoch asked, and panics when the store says that a transaction it was told to abort
committed. `AtomixCoordinator.Event.isFatal` lists those answers, read off the source.

The list is exact. Every call panics right after the answer it cannot handle, and at no
other time (`AtomixCoordinator.Op.perform_panicsOnFatal`), so on every run the coordinator
has panicked exactly when the last call of its log got a fatal answer
(`AtomixCoordinator.panics_exactly_on_fatal_answers`). The proof follows the monadic
structure of the methods: the property holds of the state check and of a resolution, and
binding keeps it (`AtomixCoordinator.Coord.panicsOnFatal_bind`); the reads, the abort and
the commit are settled from their case lemmas, since there an answer is logged before the
code looks at it.
-/

namespace AtomixCoordinator

/-- **An answer the coordinator cannot handle**, after which it panics: a keyspace id that
does not parse, a read that failed or returned no value, a failed epoch read, a range
client error of a prepare, a failed call to the state store, a commit at another epoch
than the one asked, and an abort the state store did not confirm. -/
def Event.isFatal : Event → Bool
  | .getKeyspaceInfo _ (.found none) => true
  | .get _ _ none => true
  | .get _ _ (some res) => res.vals.isEmpty
  | .readEpoch none => true
  | .joinPrepare _ .rangeClientError => true
  | .tryCommitTransaction _ epoch (some (.transactionIsCommitted committedEpoch)) =>
    committedEpoch != epoch
  | .tryCommitTransaction _ _ none => true
  | .tryAbortTransaction _ (some .transactionIsAborted) => false
  | .tryAbortTransaction _ _ => true
  | _ => false

/-- The last call of `calls` got a fatal answer. -/
def endsFatal (calls : List Event) : Bool := calls.getLast?.any Event.isFatal

section EndsFatal

variable {ev : Event} {calls calls' : List Event}

@[simp] theorem Event.isFatal_tryAbortTransaction (id : Uuid) (answer : Option OpResult) :
    (Event.tryAbortTransaction id answer).isFatal = (answer != some .transactionIsAborted) := by
  rcases answer with _ | _ | _ <;> rfl

@[simp] theorem endsFatal_nil : endsFatal [] = false := rfl

@[simp] theorem endsFatal_cons :
    endsFatal (ev :: calls) = if calls = [] then ev.isFatal else endsFatal calls := by
  cases calls <;> simp [endsFatal, List.getLast?_cons]

@[simp] theorem endsFatal_append_cons :
    endsFatal (calls ++ ev :: calls') = endsFatal (ev :: calls') := by
  simp [endsFatal, List.getLast?_append, List.getLast?_cons]

theorem endsFatal_append :
    endsFatal (calls ++ calls') = if calls' = [] then endsFatal calls else endsFatal calls' := by
  cases calls' <;> simp

theorem endsFatal_eq_true : endsFatal calls = true ↔
    ∃ ev, calls.getLast? = some ev ∧ ev.isFatal = true := by
  unfold endsFatal
  cases calls.getLast? <;> simp

/-- Calls none of which got a fatal answer do not end with one. -/
theorem endsFatal_eq_false (h : ∀ ev ∈ calls, ev.isFatal = false) : endsFatal calls = false := by
  cases hl : calls.getLast? with
  | none => simp [endsFatal, hl]
  | some ev => simpa [endsFatal, hl] using h ev (List.mem_of_getLast?_eq_some hl)

end EndsFatal

/-- A call panicked exactly when its last call got a fatal answer. -/
def Outcome.PanicsOnFatal (o : Outcome α) : Prop := o.ret.isPanic = endsFatal o.calls

namespace Outcome

variable {o : Outcome α}

@[simp] theorem panicsOnFatal_map (f : α → β) : (o.map f).PanicsOnFatal ↔ o.PanicsOnFatal := by
  simp [PanicsOnFatal]

theorem PanicsOnFatal.endsFatal_of_ok (h : o.PanicsOnFatal) {a : α} (hok : o.ret = .ok a) :
    endsFatal o.calls = false := by
  rw [← h, hok]
  rfl

/-- Calls made before a call that made calls of its own leave it the last word. -/
theorem PanicsOnFatal.prepend_of_ne_nil (h : o.PanicsOnFatal) (hne : o.calls ≠ [])
    (pre : List Event) : (o.prepend pre).PanicsOnFatal := by
  simpa [PanicsOnFatal, endsFatal_append, hne] using h

/-- Calls whose last answer was handled, made before a call. -/
theorem PanicsOnFatal.prepend (h : o.PanicsOnFatal) {pre : List Event}
    (hpre : endsFatal pre = false) : (o.prepend pre).PanicsOnFatal := by
  by_cases hne : o.calls = []
  · simp only [PanicsOnFatal, prepend_ret, prepend_calls, hne, List.append_nil, hpre] at h ⊢
    simpa using h
  · exact h.prepend_of_ne_nil hne pre

end Outcome

/-- **Binding keeps the property**: a computation that panics exactly on a fatal answer,
followed by computations that do, panics exactly on a fatal answer. -/
theorem Coord.panicsOnFatal_bind {m : Coord α} {f : α → Coord β} {tx : Transaction}
    (hm : (m tx).PanicsOnFatal) (hf : ∀ a tx', (f a tx').PanicsOnFatal) :
    ((m >>= f) tx).PanicsOnFatal := by
  generalize hmo : m tx = o at hm
  obtain ⟨tx', calls, r⟩ := o
  cases r with
  | ok a => rw [bind_of_ok hmo]; exact (hf a tx').prepend (hm.endsFatal_of_ok rfl)
  | err e => rw [bind_of_err hmo]; exact hm
  | panic => rw [bind_of_panic hmo]; exact hm

/-! ### Every method panics exactly on a fatal answer -/

section Methods

variable (k : Constants) (ans : Answers) (ks : Keyspace) (key : Bytes) (tx : Transaction)

theorem checkStillRunning_panicsOnFatal : (checkStillRunning tx).PanicsOnFatal := by
  by_cases hs : tx.state = .running
  · rw [checkStillRunning_of_running hs]
    rfl
  · rw [checkStillRunning_of_not_running hs]
    rfl

theorem resolveKeyspace_panicsOnFatal : (resolveKeyspace ans ks tx).PanicsOnFatal := by
  cases h : tx.resolvedKeyspaces.lookup ks with
  | some id =>
    rw [resolveKeyspace_of_lookup_some h]
    rfl
  | none =>
    cases hg : ans.getKeyspaceInfo with
    | found id =>
      cases id <;> simp [resolveKeyspace, h, hg, Outcome.PanicsOnFatal, Event.isFatal, Ret.isPanic]
    | _ => simp [resolveKeyspace, h, hg, Outcome.PanicsOnFatal, Event.isFatal, Ret.isPanic]

theorem resolveFullRecordKey_panicsOnFatal :
    (resolveFullRecordKey ans ks key tx).PanicsOnFatal := by
  unfold resolveFullRecordKey
  refine Coord.panicsOnFatal_bind (resolveKeyspace_panicsOnFatal ans ks tx) fun id tx' => ?_
  cases h : ans.fullRangeIdOfKey <;> simp [h, Outcome.PanicsOnFatal, Event.isFatal, Ret.isPanic]

@[simp] theorem abortedWith_isPanic (answer : Option OpResult) (e : Error) :
    (abortedWith answer e : Ret α).isPanic = (answer != some .transactionIsAborted) := by
  rcases answer with _ | _ | _ <;> rfl

theorem recordAbort_panicsOnFatal : (recordAbort ans tx).PanicsOnFatal := by
  rw [recordAbort_apply]
  simp only [Outcome.PanicsOnFatal, abortCalls, endsFatal_append_cons, endsFatal_cons,
    if_pos rfl, Event.isFatal_tryAbortTransaction]
  rcases ans.tryAbortTransaction with _ | _ | _ <;> rfl

theorem readFromRange_panicsOnFatal (rangeId : FullRangeId) :
    (readFromRange k ans rangeId key tx).PanicsOnFatal := by
  rcases readFromRange_cases k ans rangeId key tx with ⟨-, h⟩ | ⟨_, -, -, h⟩ | ⟨res, -, -, h⟩ <;>
    rw [h]
  · rfl
  · simp [Outcome.PanicsOnFatal, abortCalls]
  · cases hv : res.vals <;> simp [Outcome.PanicsOnFatal, Event.isFatal, hv, Ret.isPanic]

theorem readYourWrites_panicsOnFatal (rangeId : FullRangeId) :
    (readYourWrites k ans rangeId key tx).PanicsOnFatal := by
  rcases readYourWrites_cases k ans rangeId key tx with ⟨_, -, h⟩ | ⟨-, -, h⟩ | ⟨-, -, h⟩ <;>
    rw [h]
  · rfl
  · rfl
  · exact readFromRange_panicsOnFatal k ans key _ rangeId

theorem get_panicsOnFatal : (get k ans ks key tx).PanicsOnFatal := by
  unfold get
  exact Coord.panicsOnFatal_bind (checkStillRunning_panicsOnFatal tx) fun _ tx' =>
    Coord.panicsOnFatal_bind (resolveFullRecordKey_panicsOnFatal ans ks key tx') fun frk tx'' =>
      readYourWrites_panicsOnFatal k ans key tx'' frk.rangeId

theorem bufferMutation_panicsOnFatal (update : ParticipantRange → ParticipantRange) :
    (bufferMutation ans ks key update tx).PanicsOnFatal := by
  unfold bufferMutation
  refine Coord.panicsOnFatal_bind (checkStillRunning_panicsOnFatal tx) fun _ tx' =>
    Coord.panicsOnFatal_bind (resolveFullRecordKey_panicsOnFatal ans ks key tx') fun frk tx'' => ?_
  rw [getParticipantRange_bind_set]
  rfl

theorem abort_panicsOnFatal : (abort ans tx).PanicsOnFatal := by
  rw [abort_apply]
  split_ifs
  · rfl
  · exact recordAbort_panicsOnFatal ans tx
  · rfl

/-- The state store's answer to the commit decides whether the coordinator panics. -/
theorem commitDecision_panicsOnFatal (epoch : UInt64) (answer : Option OpResult) :
    (commitDecision tx epoch answer).PanicsOnFatal := by
  unfold commitDecision
  split
  · split_ifs with he
    · simp [Outcome.PanicsOnFatal, Event.isFatal, he, Ret.isPanic, endsFatal_eq_false]
    · simp [Outcome.PanicsOnFatal, Event.isFatal, he, Ret.isPanic]
  all_goals simp [Outcome.PanicsOnFatal, Event.isFatal, Ret.isPanic]

theorem commit_panicsOnFatal : (commit ans tx).PanicsOnFatal := by
  by_cases hs : tx.state = .running
  swap
  · rw [commit_of_not_running hs]
    rfl
  rcases @commit_cases ans _ hs with ⟨-, hc⟩ | ⟨epoch, -, -, hc⟩ |
      ⟨epoch, pre, r, post, -, -, -, ⟨-, hc⟩ | ⟨-, hc⟩⟩ <;> rw [hc]
  · simp [Outcome.PanicsOnFatal, Event.isFatal, Ret.isPanic]
  · obtain ⟨commits, hcalls, -⟩ :=
      commitDecision_calls { tx with state := .preparing } epoch ans.tryCommitTransaction
    exact (commitDecision_panicsOnFatal _ _ _).prepend_of_ne_nil (by simp [hcalls]) _
  · simp [Outcome.PanicsOnFatal, abortCalls]
  · simp [Outcome.PanicsOnFatal, Event.isFatal, Ret.isPanic]

end Methods

/-- **Every call panics exactly when its last call got a fatal answer.** -/
theorem Op.perform_panicsOnFatal (k : Constants) (op : Op) (ans : Answers) (tx : Transaction) :
    (op.perform k ans tx).PanicsOnFatal := by
  cases op with
  | get ks key => simpa using get_panicsOnFatal k ans ks key tx
  | put ks key val => simpa using bufferMutation_panicsOnFatal ans ks key tx _
  | del ks key => simpa using bufferMutation_panicsOnFatal ans ks key tx _
  | commit => simpa using commit_panicsOnFatal ans tx
  | abort => simpa using abort_panicsOnFatal ans tx

/-- A run has panicked exactly when the last call of its log got a fatal answer. -/
theorem Reachable.panicked_eq_endsFatal {k : Constants} {c : Config} (h : Reachable k c) :
    c.panicked = endsFatal c.trace := by
  induction h with
  | init id => rfl
  | @step c op ans _ ih =>
    cases hp : c.panicked
    · have hop := Op.perform_panicsOnFatal k op ans c.tx
      rw [Config.trace_step_of_live hp, endsFatal_append, Config.step_of_live hp]
      split_ifs with hcalls
      · rw [← ih, hp]
        simpa [Outcome.PanicsOnFatal, hcalls] using hop
      · exact hop
    · rwa [Config.step_of_panicked hp]

end AtomixCoordinator
