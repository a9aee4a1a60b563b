import AtomixCoordinator.StateStore

/-!
# Ending a transaction against the state store

Against a state store that lets the first decision win, with other parties free to abort
the transaction at any point, what the two calls that end a transaction return is fixed
by the state of the transaction and the record of the store, in every reachable
configuration of the system:

| call | when | outcome | theorem |
|---|---|---|---|
| `abort` | running, aborted | `Ok`, aborted in both | `abort_ok_iff_running_or_aborted` |
| `abort` | preparing, committed | `TransactionNoLongerRunning` | the same |
| `commit` | store undecided | `Ok`, committed in both | `commit_race_decided_by_store` |
| `commit` | aborted elsewhere | `TransactionAborted(Other)` | the same |

(`commit` here once every prepare succeeded; it then commits at the epoch it read, and a
commit that lost the race leaves the transaction preparing.)

`abort` cannot fail on the store: the transaction runs, so the store has not committed it,
and the store confirms the abort. It does fail on a transaction that is preparing or
committed, since the state check comes first. When every prepare succeeded, a `commit`
races with the aborts of other parties, and the store's record decides the race: the
commit succeeds exactly when no abort came first.

Both are read off the calls of the method: the store sees only their one call to it
(`AtomixCoordinator.serveCalls_abortCalls`, `AtomixCoordinator.serveCalls_commitDecision`),
and what it had recorded is what the run keeps
(`AtomixCoordinator.SystemReachable.committed_iff`).
-/

namespace AtomixCoordinator

section Serve

variable {store : Uuid → StoreRecord}

/-- The store sees only the abort asked of it among the calls of an abort round. -/
theorem serveCalls_abortCalls (tx : Transaction) (answer : Option OpResult) :
    serveCalls store (abortCalls tx answer) =
      serveCall store (.tryAbortTransaction tx.id answer) := by
  rw [abortCalls, serveCalls_append, serveCalls_of_not_isStateStore (by simp [Event.isStateStore]),
    Option.some_bind, serveCalls_cons]
  cases serveCall store (.tryAbortTransaction tx.id answer) <;> rfl

/-- The store sees only the commit asked of it among the calls of the decision. -/
theorem serveCalls_commitDecision (tx : Transaction) (epoch : UInt64) (answer : Option OpResult) :
    serveCalls store (commitDecision tx epoch answer).calls =
      serveCall store (.tryCommitTransaction tx.id epoch answer) := by
  obtain ⟨commits, hcalls, hcommits⟩ := commitDecision_calls tx epoch answer
  have hc : ∀ ev ∈ commits, ev.isStateStore = false := by
    rcases hcommits with rfl | ⟨-, rfl⟩ <;> simp [Event.isStateStore]
  rw [hcalls, serveCalls_cons]
  cases serveCall store (.tryCommitTransaction tx.id epoch answer) with
  | none => rfl
  | some store' => exact serveCalls_of_not_isStateStore hc

/-- The store sees none of the prepares, the epoch read and the log of the join loop. -/
theorem serveCalls_prepareRound (tx : Transaction) (epoch : UInt64) (joins : List FullRangeId) :
    serveCalls store (prepareCalls tx ++ .readEpoch (some epoch) :: joins.map joinPrepared) =
      some store := by
  refine serveCalls_of_not_isStateStore fun ev hev => ?_
  simp only [prepareCalls, List.mem_append, List.mem_map, List.mem_cons] at hev
  rcases hev with ⟨_, -, rfl⟩ | rfl | ⟨_, -, rfl⟩ <;> rfl

end Serve

/-- **`abort` against the state store.** In every reachable configuration, an `abort`
whose calls the store serves returns `Ok` exactly when the transaction is running or
already aborted, and then leaves it aborted in the coordinator and in the store; on a
transaction that is preparing or committed it returns `TransactionNoLongerRunning`, sends
nothing and changes nothing. -/
theorem abort_ok_iff_running_or_aborted (k : Constants) (sys : System)
    (h : SystemReachable k sys) (ans : Answers) (store' : Uuid → StoreRecord)
    (hserve : serveCalls sys.store (abort ans sys.coord.tx).calls = some store') :
    ((abort ans sys.coord.tx).ret = .ok () ↔
        sys.coord.tx.state = .running ∨ sys.coord.tx.state = .aborted) ∧
      ((abort ans sys.coord.tx).ret = .ok () →
        (abort ans sys.coord.tx).tx.state = .aborted ∧ store' sys.coord.tx.id = .aborted) ∧
      ((abort ans sys.coord.tx).ret ≠ .ok () →
        abort ans sys.coord.tx = ⟨sys.coord.tx, [], .err .transactionNoLongerRunning⟩) := by
  rw [abort_apply] at hserve ⊢
  by_cases ha : sys.coord.tx.state = .aborted
  · rw [if_pos ha] at hserve ⊢
    cases hserve
    exact ⟨by simp [ha], fun _ => ⟨ha, h.store_aborted ha⟩, fun hne => absurd rfl hne⟩
  by_cases hr : sys.coord.tx.state = .running
  · have hnc := h.store_ne_committed (by simp [hr])
    rw [if_neg ha, if_pos hr, recordAbort_apply] at hserve ⊢
    rw [serveCalls_abortCalls, serveCall, StoreRecord.tryAbort_of_ne_committed hnc] at hserve
    split_ifs at hserve with hans
    cases hserve
    simp [hans, hr, StoreRecord.outcome]
  · have hs : sys.coord.tx.state.stillRunningError = .transactionNoLongerRunning := by
      cases hs : sys.coord.tx.state <;> simp_all [State.stillRunningError]
    simp [ha, hr, hs]

/-- `abort` of a fresh transaction, which the store confirms: it returns `Ok` and the
transaction is aborted in both. -/
theorem abort_ok_iff_running_or_aborted_of_new :
    SystemReachable ⟨0, 0⟩ ⟨Config.init 0, fun _ => .undecided⟩ ∧
      serveCalls (fun _ => .undecided)
          (abort { Answers.failing with tryAbortTransaction := some .transactionIsAborted }
            (Config.init 0).tx).calls =
        some (Function.update (fun _ => StoreRecord.undecided) 0 .aborted) ∧
      (((abort { Answers.failing with tryAbortTransaction := some .transactionIsAborted }
            (Config.init 0).tx).ret = .ok () ↔
          (Config.init 0).tx.state = .running ∨ (Config.init 0).tx.state = .aborted) ∧
        ((abort { Answers.failing with tryAbortTransaction := some .transactionIsAborted }
            (Config.init 0).tx).ret = .ok () →
          (abort { Answers.failing with tryAbortTransaction := some .transactionIsAborted }
              (Config.init 0).tx).tx.state = .aborted ∧
            Function.update (fun _ => StoreRecord.undecided) 0 .aborted
              (Config.init 0).tx.id = .aborted) ∧
        ((abort { Answers.failing with tryAbortTransaction := some .transactionIsAborted }
            (Config.init 0).tx).ret ≠ .ok () →
          abort { Answers.failing with tryAbortTransaction := some .transactionIsAborted }
              (Config.init 0).tx = ⟨(Config.init 0).tx, [], .err .transactionNoLongerRunning⟩)) :=
  ⟨.init 0, rfl, abort_ok_iff_running_or_aborted ⟨0, 0⟩ _ (.init 0) _ _ rfl⟩

/-- **The state store decides the race of a commit with the aborts of other parties.** In
every reachable configuration where the transaction runs, a `commit` whose epoch read gives
`epoch`, whose prepares all succeed and whose calls the store serves returns `Ok` exactly
when the store had not decided the transaction, and then leaves it committed at `epoch` in
both; if another party had aborted it, the commit returns `TransactionAborted(Other)` and
leaves it preparing, aborted in the store. -/
theorem commit_race_decided_by_store (k : Constants) (sys : System)
    (h : SystemReachable k sys) (ans : Answers) (epoch : UInt64) (store' : Uuid → StoreRecord)
    (hs : sys.coord.tx.state = .running) (he : ans.readEpoch = some epoch)
    (hp : ∀ r ∈ sys.coord.tx.participantRanges.keys, ans.prepareTransaction r = .prepared)
    (hserve : serveCalls sys.store (commit ans sys.coord.tx).calls = some store') :
    (sys.store sys.coord.tx.id = .undecided ∧ (commit ans sys.coord.tx).ret = .ok () ∧
        (commit ans sys.coord.tx).tx.state = .committed ∧
        store' sys.coord.tx.id = .committed epoch) ∨
      (sys.store sys.coord.tx.id = .aborted ∧
        (commit ans sys.coord.tx).ret = .err (.transactionAborted .other) ∧
        (commit ans sys.coord.tx).tx.state = .preparing ∧ store' sys.coord.tx.id = .aborted) := by
  rw [commit_of_prepared hs he hp] at hserve ⊢
  rw [Outcome.prepend_calls, serveCalls_append, serveCalls_prepareRound, Option.some_bind,
    serveCalls_commitDecision, serveCall] at hserve
  split_ifs at hserve with hans
  cases hserve
  cases hr : sys.store sys.coord.tx.id with
  | undecided =>
    exact .inl ⟨rfl, by
      simp [hans, hr, commitDecision, StoreRecord.tryCommit, StoreRecord.outcome]⟩
  | committed e => exact absurd hr (h.store_ne_committed (by simp [hs]) e)
  | aborted =>
    exact .inr ⟨rfl, by
      simp [hans, hr, commitDecision, StoreRecord.tryCommit, StoreRecord.outcome]⟩

/-- Another party aborts a fresh transaction, and then its `commit` finds the store
decided: it returns `TransactionAborted(Other)` and leaves the transaction preparing. -/
theorem commit_race_decided_by_store_after_abort_elsewhere :
    SystemReachable ⟨0, 0⟩
        ⟨Config.init 0, Function.update (fun _ => StoreRecord.undecided) 0 .aborted⟩ ∧
      (Config.init 0).tx.state = .running ∧ storeAborts.readEpoch = some 1 ∧
      (∀ r ∈ (Config.init 0).tx.participantRanges.keys,
        storeAborts.prepareTransaction r = .prepared) ∧
      serveCalls (Function.update (fun _ => StoreRecord.undecided) 0 .aborted)
          (commit storeAborts (Config.init 0).tx).calls =
        some (Function.update (Function.update (fun _ => StoreRecord.undecided) 0 .aborted) 0
          .aborted) ∧
      ((Function.update (fun _ => StoreRecord.undecided) 0 .aborted (Config.init 0).tx.id =
            .undecided ∧
          (commit storeAborts (Config.init 0).tx).ret = .ok () ∧
          (commit storeAborts (Config.init 0).tx).tx.state = .committed ∧
          Function.update (Function.update (fun _ => StoreRecord.undecided) 0 .aborted) 0 .aborted
            (Config.init 0).tx.id = .committed 1) ∨
        (Function.update (fun _ => StoreRecord.undecided) 0 .aborted (Config.init 0).tx.id =
            .aborted ∧
          (commit storeAborts (Config.init 0).tx).ret = .err (.transactionAborted .other) ∧
          (commit storeAborts (Config.init 0).tx).tx.state = .preparing ∧
          Function.update (Function.update (fun _ => StoreRecord.undecided) 0 .aborted) 0 .aborted
            (Config.init 0).tx.id = .aborted)) :=
  have h : SystemReachable ⟨0, 0⟩
      ⟨Config.init 0, Function.update (fun _ => StoreRecord.undecided) 0 .aborted⟩ :=
    @SystemReachable.abortElsewhere ⟨0, 0⟩ ⟨Config.init 0, fun _ => .undecided⟩ 0 (.init 0)
  have hp : ∀ r ∈ (Config.init 0).tx.participantRanges.keys,
      storeAborts.prepareTransaction r = .prepared := by
    simp [Config.init, Transaction.new]
  ⟨h, rfl, rfl, hp, rfl, commit_race_decided_by_store ⟨0, 0⟩ _ h storeAborts 1
    (Function.update (Function.update (fun _ => StoreRecord.undecided) 0 .aborted) 0 .aborted)
    rfl rfl hp rfl⟩

end AtomixCoordinator
