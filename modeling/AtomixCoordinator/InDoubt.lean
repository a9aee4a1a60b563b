import AtomixCoordinator.RangeView
import AtomixCoordinator.Panics

/-!
# Participants left in doubt

A participant range that prepared a transaction holds it until it is told the outcome,
and the coordinator tells it in two places only: once the state store granted the commit,
and in an abort round. When the state store answers the commit the coordinator asks of it
with `TransactionIsAborted` – another party aborted the transaction while it prepared –
`commit` returns `TransactionAborted(Other)` at once: it sends no abort, and it leaves the
transaction preparing, so that no later call of the client sends anything either.

That refusal is the only way a run that did not panic leaves a transaction preparing, and
it leaves every participant range prepared, with nothing heard since
(`AtomixCoordinator.refused_commit_leaves_participants_prepared`): in the participant
protocol of `AtomixCoordinator.RangeView`, each of them stays in doubt.

The proof goes by the run. A call that leaves a running transaction preparing is a
commit, and of the ways a commit can end, all but the refusal either decide the
transaction or panic (`AtomixCoordinator.commit_leftInDoubt`); what a participant heard
of the refused commit is its prepare and its successful result
(`AtomixCoordinator.rangeView_prepareCalls`, `AtomixCoordinator.rangeView_joinPrepared`).
-/

namespace AtomixCoordinator

/-- A transaction left preparing by a log that did not end on a fatal answer was refused
its commit by the state store, and every participant range has prepared and heard
nothing since. -/
def LeftInDoubt (tx : Transaction) (trace : List Event) : Prop :=
  tx.state = .preparing → endsFatal trace = false →
    (∃ epoch, .tryCommitTransaction tx.id epoch (some .transactionIsAborted) ∈ trace) ∧
      ∀ r ∈ tx.participantRanges, ParticipantState.working.run (rangeView r trace) = some .prepared

section Views

variable (r : FullRangeId)

/-- A range hears one prepare from `commit` if it is a participant, and nothing otherwise. -/
theorem rangeView_prepareCalls (tx : Transaction) :
    rangeView r (prepareCalls tx) = if r ∈ tx.participantRanges.keys then [.prepare] else [] := by
  have h := rangeView_map r (tx.participantRanges.entries.map fun e => (e.1, prepareRequest e.2))
    Prod.fst (by rw [prepareCalls_targets]; exact tx.participantRanges.keys_nodup)
    (fun q => .prepareTransaction q.1 q.2) .prepare fun _ => rfl
  rwa [prepareCalls_targets, ← prepareCalls_eq] at h

/-- A range hears one successful prepare result from a join loop over the participant
ranges in any order, if it is a participant, and nothing otherwise. -/
theorem rangeView_joinPrepared {order : List FullRangeId} {tx : Transaction}
    (hperm : order.Perm tx.participantRanges.keys) :
    rangeView r (order.map joinPrepared) =
      if r ∈ tx.participantRanges.keys then [.prepareResult .prepared] else [] := by
  rw [rangeView_map_ranges r order (hperm.nodup_iff.mpr tx.participantRanges.keys_nodup)
    joinPrepared _ fun _ => rfl]
  simp only [hperm.mem_iff]

end Views

section Steps

variable {k : Constants} {ans : Answers} {tx : Transaction} {trace : List Event}

/-- **A commit of a running transaction leaves it in doubt only if the store refused it.**
Every other way the commit ends decides the transaction, or panics on a fatal answer. -/
theorem commit_leftInDoubt (hs : tx.state = .running) (hreads : AllReads trace) :
    LeftInDoubt (commit ans tx).tx (trace ++ (commit ans tx).calls) := by
  intro hprep hfatal
  rcases (@commit_cases ans _ hs) with ⟨-, hc⟩ | ⟨epoch, -, -, hc⟩ |
      ⟨_, _, _, _, -, -, -, ⟨-, hc⟩ | ⟨-, hc⟩⟩
  · simp [hc, Event.isFatal, endsFatal_append] at hfatal
  · rw [hc] at hprep hfatal ⊢
    rcases ha : ans.tryCommitTransaction with _ | _ | committedEpoch
    · simp [commitDecision, ha, Event.isFatal, endsFatal_append] at hfatal
    · refine ⟨⟨epoch, by simp [commitDecision, ha]⟩, fun r hr => ?_⟩
      have hr' : r ∈ tx.participantRanges.keys := (AList.mem_keys).mp hr
      simp only [commitDecision, ha, Outcome.prepend_calls, rangeView_append, rangeView_cons,
        rangeView_prepareCalls, rangeView_joinPrepared r (ans.joinOrder.perm _), if_pos hr',
        ParticipantState.run_append, ParticipantState.run_of_gets (hreads.rangeView_get r)]
      rfl
    · by_cases he : committedEpoch = epoch
      · simp [commitDecision, ha, he] at hprep
      · simp [commitDecision, ha, he, Event.isFatal, endsFatal_append] at hfatal
  · simp [hc] at hprep
  · simp [hc, Event.isFatal, endsFatal_append] at hfatal

/-- **Only a commit leaves a running transaction in doubt.** -/
theorem Op.perform_leftInDoubt (op : Op) (hs : tx.state = .running) (hreads : AllReads trace) :
    LeftInDoubt (op.perform k ans tx).tx (trace ++ (op.perform k ans tx).calls) := by
  cases op with
  | get ks key =>
    intro hprep
    rcases get_state k ans ks key tx with h | ⟨-, h⟩ <;> simp [h, hs] at hprep
  | put ks key val => intro hprep; simp [bufferMutation_state, hs] at hprep
  | del ks key => intro hprep; simp [bufferMutation_state, hs] at hprep
  | commit => simpa using commit_leftInDoubt hs hreads
  | abort => intro hprep; simp [abort_apply, hs, recordAbort_apply] at hprep

end Steps

/-- **A commit the state store refused leaves every participant in doubt.** On every run
that has not panicked, the transaction is preparing only if the state store answered the
commit the coordinator asked of it with `TransactionIsAborted`; and then every participant
range has prepared the transaction and heard nothing since: neither a commit nor an abort
was sent to it, nor will be. -/
theorem refused_commit_leaves_participants_prepared (k : Constants) (c : Config)
    (h : Reachable k c) (hs : c.tx.state = .preparing) (hp : c.panicked = false) :
    (∃ epoch, .tryCommitTransaction c.tx.id epoch (some .transactionIsAborted) ∈ c.trace) ∧
      ∀ r ∈ c.tx.participantRanges,
        ParticipantState.working.run (rangeView r c.trace) = some .prepared := by
  have hdoubt : LeftInDoubt c.tx c.trace :=
    h.trace_induction LeftInDoubt (fun _ hprep => by simp [Transaction.new] at hprep)
      fun c op ans hr hrun _ => by
        obtain ⟨reads, decision, htrace, hreads, hrun', -⟩ := hr.twoPhaseShape
        rw [htrace, hrun' hrun, List.append_nil]
        exact Op.perform_leftInDoubt op hrun hreads
  exact hdoubt hs (h.panicked_eq_endsFatal ▸ hp)

/-- A `put`, then a `commit` whose prepare succeeds but which the state store refuses: the
transaction is left preparing, and its one participant range prepared. -/
theorem refused_commit_leaves_participants_prepared_after_put :
    Reachable ⟨0, 0⟩ ((((Config.init 0).step ⟨0, 0⟩ (.put ⟨"", ""⟩ [9] [1])
        (.routing ⟨1⟩ ⟨⟨1⟩, 2⟩))).step ⟨0, 0⟩ .commit
        { Answers.committing 1 with tryCommitTransaction := some .transactionIsAborted }) ∧
      ((((Config.init 0).step ⟨0, 0⟩ (.put ⟨"", ""⟩ [9] [1])
          (.routing ⟨1⟩ ⟨⟨1⟩, 2⟩))).step ⟨0, 0⟩ .commit
          { Answers.committing 1 with tryCommitTransaction := some .transactionIsAborted }).tx.state =
        .preparing ∧
      ((((Config.init 0).step ⟨0, 0⟩ (.put ⟨"", ""⟩ [9] [1])
          (.routing ⟨1⟩ ⟨⟨1⟩, 2⟩))).step ⟨0, 0⟩ .commit
          { Answers.committing 1 with tryCommitTransaction := some .transactionIsAborted }).panicked =
        false ∧
      (∃ epoch, .tryCommitTransaction ((((Config.init 0).step ⟨0, 0⟩ (.put ⟨"", ""⟩ [9] [1])
            (.routing ⟨1⟩ ⟨⟨1⟩, 2⟩))).step ⟨0, 0⟩ .commit
            { Answers.committing 1 with tryCommitTransaction := some .transactionIsAborted }).tx.id
          epoch (some .transactionIsAborted) ∈
        ((((Config.init 0).step ⟨0, 0⟩ (.put ⟨"", ""⟩ [9] [1])
            (.routing ⟨1⟩ ⟨⟨1⟩, 2⟩))).step ⟨0, 0⟩ .commit
            { Answers.committing 1 with tryCommitTransaction := some .transactionIsAborted }).trace) ∧
      ∀ r ∈ ((((Config.init 0).step ⟨0, 0⟩ (.put ⟨"", ""⟩ [9] [1])
          (.routing ⟨1⟩ ⟨⟨1⟩, 2⟩))).step ⟨0, 0⟩ .commit
          { Answers.committing 1 with tryCommitTransaction := some .transactionIsAborted }).tx.participantRanges,
        ParticipantState.working.run (rangeView r ((((Config.init 0).step ⟨0, 0⟩
          (.put ⟨"", ""⟩ [9] [1]) (.routing ⟨1⟩ ⟨⟨1⟩, 2⟩))).step ⟨0, 0⟩ .commit
          { Answers.committing 1 with tryCommitTransaction := some .transactionIsAborted }).trace) =
          some .prepared :=
  have h : Reachable ⟨0, 0⟩ ((((Config.init 0).step ⟨0, 0⟩ (.put ⟨"", ""⟩ [9] [1])
      (.routing ⟨1⟩ ⟨⟨1⟩, 2⟩))).step ⟨0, 0⟩ .commit
      { Answers.committing 1 with tryCommitTransaction := some .transactionIsAborted }) :=
    .step .commit _ (.step (.put ⟨"", ""⟩ [9] [1]) (.routing ⟨1⟩ ⟨⟨1⟩, 2⟩) (.init 0))
  ⟨h, rfl, rfl, refused_commit_leaves_participants_prepared ⟨0, 0⟩ _ h rfl rfl⟩

end AtomixCoordinator
