import AtomixCoordinator.TwoPhase

/-!
# What `commit` returns

`commit` returns `Ok` exactly when the transaction was running, the epoch read gave an
epoch, every prepare succeeded and the state store committed at that very epoch; it then
leaves the transaction committed and has told every participant range to commit at that
epoch (`AtomixCoordinator.commit_ok_iff`).

## The order of the prepare results

`commit` takes the results of the prepare tasks in the order the join set hands them
back, and stops at the first that failed: a failed task records an abort and returns
`TransactionAborted(PrepareFailed)`, a range client error goes to the translation that
is not written yet, and panics. So the order matters exactly when both kinds of failure
are among the results.

When they are not, the order changes only the log of the join loop: what `commit`
returns, the transaction it leaves and every call it sends are the same for every order
(`AtomixCoordinator.commit_outcome_independent_of_join_order`). When they are, the order
decides between an abort round and a panic
(`AtomixCoordinator.commit_outcome_depends_on_join_order`).
-/

namespace AtomixCoordinator

/-- Whether an event is a call the coordinator sends, rather than the log of its join
loop. -/
def Event.isSent : Event → Bool
  | .joinPrepare _ _ => false
  | _ => true

@[simp] theorem filter_isSent_map_joinPrepared (l : List FullRangeId) :
    (l.map joinPrepared).filter Event.isSent = [] := by
  induction l <;> simp_all [joinPrepared, Event.isSent]

/-- The join set hands the tasks back in the reverse of the order they were spawned. -/
def JoinOrder.reversed : JoinOrder := ⟨List.reverse, List.reverse_perm⟩

/-! ### When `commit` succeeds -/

/-- **`commit` returns `Ok` exactly when** the transaction was running, the epoch read gave
`epoch`, every prepare succeeded and the state store committed at `epoch`; and then it
leaves the transaction committed, and its calls are the prepares, the epoch read, the
join log, the one call to the state store, and a commit at `epoch` to every participant
range. -/
theorem commit_ok_iff (ans : Answers) (tx : Transaction) :
    (commit ans tx).ret = .ok () ↔ ∃ epoch, tx.state = .running ∧ ans.readEpoch = some epoch ∧
      (∀ r ∈ tx.participantRanges.keys, ans.prepareTransaction r = .prepared) ∧
      ans.tryCommitTransaction = some (.transactionIsCommitted epoch) ∧
      commit ans tx = ⟨{ tx with state := .committed },
        prepareCalls tx ++ .readEpoch (some epoch) :: (joinOrderOf ans tx).map joinPrepared ++
          .tryCommitTransaction tx.id epoch (some (.transactionIsCommitted epoch)) ::
            tx.participantRanges.keys.map (.commitTransaction · epoch), .ok ()⟩ := by
  refine ⟨fun h => ?_, fun ⟨_, _, _, _, _, hc⟩ => by rw [hc]⟩
  by_cases hs : tx.state = .running
  swap
  · simp [commit_of_not_running hs] at h
  rcases (@commit_cases ans _ hs) with ⟨-, hc⟩ | ⟨epoch, he, hp, hc⟩ |
      ⟨_, _, _, _, -, -, -, ⟨-, hc⟩ | ⟨-, hc⟩⟩
  · simp [hc] at h
  · rw [hc] at h ⊢
    rcases ht : ans.tryCommitTransaction with _ | _ | committedEpoch
    · simp [commitDecision, ht] at h
    · simp [commitDecision, ht] at h
    · by_cases hce : committedEpoch = epoch
      · subst hce
        exact ⟨committedEpoch, hs, he, hp, rfl, by simp [commitDecision]⟩
      · simp [commitDecision, ht, hce] at h
  · simp [hc] at h
  · simp [hc] at h

/-! ### Where the join loop stops -/

section FirstFailure

variable {ans : Answers} {tx : Transaction} {epoch : UInt64}

/-- A range the join loop takes is a participant range. -/
theorem mem_keys_of_joinOrderOf {pre post : List FullRangeId} {r : FullRangeId}
    (hl : joinOrderOf ans tx = pre ++ r :: post) : r ∈ tx.participantRanges.keys := by
  have hmem : r ∈ joinOrderOf ans tx := by simp [hl]
  exact (ans.joinOrder.perm _).subset hmem

/-- **Without a range client error, a failed task ends the commit**, whatever the order:
the loop stops at the first failed task, and the transaction is aborted. -/
theorem commit_of_failed_task (hs : tx.state = .running) (he : ans.readEpoch = some epoch)
    (hj : ∃ r ∈ tx.participantRanges.keys, ans.prepareTransaction r = .joinError)
    (hr : ∀ r ∈ tx.participantRanges.keys, ans.prepareTransaction r ≠ .rangeClientError) :
    ∃ joins : List Event, joins.filter Event.isSent = [] ∧ commit ans tx =
      ⟨{ tx with state := .aborted }, prepareCalls tx ++ .readEpoch (some epoch) ::
          (joins ++ abortCalls tx ans.tryAbortTransaction),
        abortedWith ans.tryAbortTransaction (.transactionAborted .prepareFailed)⟩ := by
  rcases (@commit_cases ans _ hs) with ⟨he', -⟩ | ⟨_, -, hp, -⟩ |
      ⟨epoch', pre, r, post, he', hl, -, ⟨-, hc⟩ | ⟨hrc, -⟩⟩
  · simp [he] at he'
  · obtain ⟨r, hr, hjr⟩ := hj
    simp [hp r hr] at hjr
  · obtain rfl : epoch' = epoch := Option.some.inj (he'.symm.trans he)
    refine ⟨pre.map joinPrepared ++ [.joinPrepare r .joinError], by simp [Event.isSent], ?_⟩
    simp [hc]
  · exact absurd hrc (hr r (mem_keys_of_joinOrderOf hl))

/-- **Without a failed task, a range client error ends the commit**, whatever the order:
the coordinator panics with the transaction still preparing. -/
theorem commit_of_rangeClientError (hs : tx.state = .running) (he : ans.readEpoch = some epoch)
    (hr : ∃ r ∈ tx.participantRanges.keys, ans.prepareTransaction r = .rangeClientError)
    (hj : ∀ r ∈ tx.participantRanges.keys, ans.prepareTransaction r ≠ .joinError) :
    ∃ joins : List Event, joins.filter Event.isSent = [] ∧ commit ans tx =
      ⟨{ tx with state := .preparing }, prepareCalls tx ++ .readEpoch (some epoch) :: joins,
        .panic⟩ := by
  rcases (@commit_cases ans _ hs) with ⟨he', -⟩ | ⟨_, -, hp, -⟩ |
      ⟨epoch', pre, r, post, he', hl, -, ⟨hjr, -⟩ | ⟨-, hc⟩⟩
  · simp [he] at he'
  · obtain ⟨r, hr, hrr⟩ := hr
    simp [hp r hr] at hrr
  · exact absurd hjr (hj r (mem_keys_of_joinOrderOf hl))
  · obtain rfl : epoch' = epoch := Option.some.inj (he'.symm.trans he)
    exact ⟨_, by simp [Event.isSent], hc⟩

end FirstFailure

/-! ### The outcome does not depend on the order -/

/-- **Unless both kinds of failure are among the prepare results, the order of the join
set does not matter**: `commit` returns the same, leaves the same transaction, and sends
the same calls, in the same order; only the log of its join loop differs. -/
theorem commit_outcome_independent_of_join_order (ans : Answers) (order : JoinOrder)
    (tx : Transaction)
    (h : (∀ r ∈ tx.participantRanges.keys, ans.prepareTransaction r ≠ .joinError) ∨
      ∀ r ∈ tx.participantRanges.keys, ans.prepareTransaction r ≠ .rangeClientError) :
    (commit { ans with joinOrder := order } tx).ret = (commit ans tx).ret ∧
      (commit { ans with joinOrder := order } tx).tx = (commit ans tx).tx ∧
      (commit { ans with joinOrder := order } tx).calls.filter Event.isSent =
        (commit ans tx).calls.filter Event.isSent := by
  by_cases hs : tx.state = .running
  swap
  · simp [commit_of_not_running hs]
  rcases Option.eq_none_or_eq_some ans.readEpoch with he | ⟨epoch, he⟩
  · rw [@commit_of_readEpoch_none { ans with joinOrder := order } tx hs he,
      @commit_of_readEpoch_none ans tx hs he]
    exact ⟨rfl, rfl, rfl⟩
  by_cases hp : ∀ r ∈ tx.participantRanges.keys, ans.prepareTransaction r = .prepared
  · rw [@commit_of_prepared { ans with joinOrder := order } tx epoch hs he hp,
      @commit_of_prepared ans tx epoch hs he hp]
    simp [Event.isSent]
  obtain ⟨r, hr, hf⟩ := not_forall₂.mp hp
  cases hres : ans.prepareTransaction r with
  | prepared => exact absurd hres hf
  | joinError =>
    have hrc := h.resolve_left fun hj => hj r hr hres
    obtain ⟨joins, hjoins, hc⟩ := @commit_of_failed_task { ans with joinOrder := order } _ _
      hs he ⟨r, hr, hres⟩ hrc
    obtain ⟨joins', hjoins', hc'⟩ := @commit_of_failed_task ans _ _ hs he ⟨r, hr, hres⟩ hrc
    rw [hc, hc']
    simp [hjoins, hjoins', Event.isSent]
  | rangeClientError =>
    have hj := h.resolve_right fun hrc => hrc r hr hres
    obtain ⟨joins, hjoins, hc⟩ := @commit_of_rangeClientError { ans with joinOrder := order } _ _
      hs he ⟨r, hr, hres⟩ hj
    obtain ⟨joins', hjoins', hc'⟩ := @commit_of_rangeClientError ans _ _ hs he ⟨r, hr, hres⟩ hj
    rw [hc, hc']
    simp [hjoins, hjoins', Event.isSent]

/-- A transaction after two `put`s, of keys `[1]` and `[2]`, routed to ranges `⟨⟨1⟩, 1⟩`
and `⟨⟨1⟩, 2⟩`. -/
def twoRangesTx : Transaction :=
  (((Config.init 0).step ⟨0, 0⟩ (.put ⟨"", ""⟩ [1] [1]) (.routing ⟨1⟩ ⟨⟨1⟩, 1⟩)).step
    ⟨0, 0⟩ (.put ⟨"", ""⟩ [2] [2]) (.routing ⟨1⟩ ⟨⟨1⟩, 2⟩)).tx

/-- The answers of a commit in which the prepare task of `failed` fails and every other
range prepares; the epoch read gives `1` and the state store confirms an abort. -/
def Answers.onePrepareFails (failed : FullRangeId) : Answers :=
  { Answers.failing with
    readEpoch := some 1
    prepareTransaction := fun r => if r = failed then .joinError else .prepared
    tryAbortTransaction := some .transactionIsAborted }

/-- The prepare task of one of two ranges fails and the other range prepares: taken in the
order spawned or in reverse, `commit` returns the same, leaves the same transaction and
sends the same calls, though its join loop logs the two results in the other order. -/
theorem commit_outcome_independent_of_join_order_two_ranges :
    ((∀ r ∈ twoRangesTx.participantRanges.keys,
        (Answers.onePrepareFails ⟨⟨1⟩, 1⟩).prepareTransaction r ≠ .joinError) ∨
      ∀ r ∈ twoRangesTx.participantRanges.keys,
        (Answers.onePrepareFails ⟨⟨1⟩, 1⟩).prepareTransaction r ≠ .rangeClientError) ∧
    ((commit { Answers.onePrepareFails ⟨⟨1⟩, 1⟩ with joinOrder := .reversed } twoRangesTx).ret =
        (commit (.onePrepareFails ⟨⟨1⟩, 1⟩) twoRangesTx).ret ∧
      (commit { Answers.onePrepareFails ⟨⟨1⟩, 1⟩ with joinOrder := .reversed } twoRangesTx).tx =
        (commit (.onePrepareFails ⟨⟨1⟩, 1⟩) twoRangesTx).tx ∧
      (commit { Answers.onePrepareFails ⟨⟨1⟩, 1⟩ with joinOrder := .reversed }
          twoRangesTx).calls.filter Event.isSent =
        (commit (.onePrepareFails ⟨⟨1⟩, 1⟩) twoRangesTx).calls.filter Event.isSent) ∧
    (commit { Answers.onePrepareFails ⟨⟨1⟩, 1⟩ with joinOrder := .reversed } twoRangesTx).calls ≠
      (commit (.onePrepareFails ⟨⟨1⟩, 1⟩) twoRangesTx).calls :=
  have h : (∀ r ∈ twoRangesTx.participantRanges.keys,
        (Answers.onePrepareFails ⟨⟨1⟩, 1⟩).prepareTransaction r ≠ .joinError) ∨
      ∀ r ∈ twoRangesTx.participantRanges.keys,
        (Answers.onePrepareFails ⟨⟨1⟩, 1⟩).prepareTransaction r ≠ .rangeClientError :=
    .inr fun r _ => by simp only [Answers.onePrepareFails]; split_ifs <;> nofun
  ⟨h, commit_outcome_independent_of_join_order _ .reversed _ h, by decide⟩

/-! ### When both kinds of failure occur -/

/-- The answers of a commit in which the prepare task of `failed` fails and every other
range answers with a range client error; the epoch read gives `1` and the state store
confirms an abort. -/
def Answers.mixedPrepareFailures (failed : FullRangeId) : Answers :=
  { Answers.failing with
    readEpoch := some 1
    prepareTransaction := fun r => if r = failed then .joinError else .rangeClientError
    tryAbortTransaction := some .transactionIsAborted }

/-- The outcome of `commit` as the spec states it: the same for every order in which the
join set hands back the prepare results – what it returns or whether it panics, the
state it leaves, and the set of commit, abort and state-store calls it makes. -/
def JoinOrderIrrelevant : Prop :=
  ∀ (ans : Answers) (order : JoinOrder) (tx : Transaction),
    (commit { ans with joinOrder := order } tx).ret = (commit ans tx).ret ∧
      (commit { ans with joinOrder := order } tx).tx.state = (commit ans tx).tx.state ∧
      ∀ ev : Event, ev.isCommit = true ∨ ev.isAbort = true →
        (ev ∈ (commit { ans with joinOrder := order } tx).calls ↔ ev ∈ (commit ans tx).calls)

/-- **With both kinds of failure, the order decides.** After two `put`s to two ranges,
one prepare task fails and the other range answers with a range client error: taken in
the order spawned, the range client error comes first and the coordinator panics; taken
in reverse, the failed task comes first and `commit` returns
`TransactionAborted(PrepareFailed)`. -/
theorem commit_outcome_depends_on_join_order : ¬ JoinOrderIrrelevant := by
  intro h
  set tx := (((Config.init 0).step ⟨0, 0⟩ (.put ⟨"", ""⟩ [1] [1]) (.routing ⟨1⟩ ⟨⟨1⟩, 1⟩)).step
    ⟨0, 0⟩ (.put ⟨"", ""⟩ [2] [2]) (.routing ⟨1⟩ ⟨⟨1⟩, 2⟩)).tx
  have hret := (h (.mixedPrepareFailures ⟨⟨1⟩, 1⟩) .reversed tx).1
  have hreversed : (commit { Answers.mixedPrepareFailures ⟨⟨1⟩, 1⟩ with joinOrder := .reversed }
      tx).ret = .err (.transactionAborted .prepareFailed) := rfl
  have hspawned : (commit (.mixedPrepareFailures ⟨⟨1⟩, 1⟩) tx).ret = .panic := rfl
  rw [hreversed, hspawned] at hret
  cases hret

end AtomixCoordinator
