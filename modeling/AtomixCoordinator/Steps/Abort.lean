import AtomixCoordinator.Steps.Resolve

/-!
# What aborting does

`record_abort` is the one way a transaction is aborted, from `abort` itself, from a read
that saw the leader of a range change, and from a failed prepare. It does the same thing
each time (`AtomixCoordinator.recordAbort_apply`): the state becomes `Aborted`, every
participant range is sent an abort, and the state store is asked to record the abort.
The one thing the state store's answer decides is whether the coordinator carries on or
panics, which it does if the store does not confirm the abort.
-/

namespace AtomixCoordinator

open Coord

/-- The calls `record_abort` makes: an abort to every participant range, and then the
state store, which gave `answer`. -/
def abortCalls (tx : Transaction) (answer : Option OpResult) : List Event :=
  tx.participantRanges.keys.map .abortTransaction ++ [.tryAbortTransaction tx.id answer]

/-- How a method that records an abort and then returns `e` ends: with `e`, unless the
state store did not confirm the abort, in which case the coordinator panicked. -/
def abortedWith (answer : Option OpResult) (e : Error) : Ret α :=
  match answer with
  | some .transactionIsAborted => .err e
  | _ => .panic

/-- **What `record_abort` does.** -/
theorem recordAbort_apply (ans : Answers) (tx : Transaction) :
    recordAbort ans tx =
      ⟨{ tx with state := .aborted }, abortCalls tx ans.tryAbortTransaction,
        match ans.tryAbortTransaction with
        | some .transactionIsAborted => .ok ()
        | _ => .panic⟩ := by
  cases h : ans.tryAbortTransaction with
  | none => simp [recordAbort, h, abortCalls]
  | some r => cases r <;> simp [recordAbort, h, abortCalls]

/-- Recording an abort and returning `e`. -/
theorem recordAbort_bind_throw (ans : Answers) (e : Error) (tx : Transaction) :
    (recordAbort ans >>= fun _ => (throw e : Coord α)) tx =
      ⟨{ tx with state := .aborted }, abortCalls tx ans.tryAbortTransaction,
        abortedWith ans.tryAbortTransaction e⟩ := by
  rw [bind_apply, recordAbort_apply]
  cases h : ans.tryAbortTransaction with
  | none => rfl
  | some r => cases r <;> simp [abortedWith]

@[simp] theorem abortedWith_ne_ok (answer : Option OpResult) (e : Error) (a : α) :
    abortedWith answer e ≠ .ok a := by
  unfold abortedWith
  split <;> simp

/-- **What `abort` does**: nothing to an aborted transaction, fail the state check on a
preparing or committed one, and record the abort of a running one. -/
theorem abort_apply (ans : Answers) (tx : Transaction) :
    abort ans tx =
      if tx.state = .aborted then ⟨tx, [], .ok ()⟩
      else if tx.state = .running then recordAbort ans tx
      else ⟨tx, [], .err tx.state.stillRunningError⟩ := by
  cases hs : tx.state <;>
    simp [abort, hs, checkStillRunning_bind, State.stillRunningError]

end AtomixCoordinator
