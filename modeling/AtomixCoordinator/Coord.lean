import AtomixCoordinator.Basic

/-!
# Transactions, and the computations that act on them

A `Transaction` holds its state, its participant ranges and its keyspace cache; its
handles on the collaborators are not fields here, since the model asks them nothing but
the answers a run supplies. The hash maps and sets of the code are finite maps
(`AList`), whose list of entries stands for the unspecified iteration order of a Rust
hash map; a hash set is, as in Rust, a map to `Unit`.

Every method of `Transaction` is a `Coord` computation: it reads and writes the
transaction, logs the calls it makes, and ends in one of three ways (`Ret`): it returns a
value, returns an error, or panics. A panic is final: the transaction is dropped while
unwinding, so whatever state it was left in is never seen again. The one lemma every
proof about sequencing goes through is `AtomixCoordinator.Coord.bind_apply`: a step that
returns passes its transaction on and its calls come first, a step that fails or panics
stops the computation there.
-/

namespace AtomixCoordinator

/-! ### Participant ranges and transactions -/

/-- A Rust `HashMap<K, V>`. -/
abbrev HashMap (K V : Type) := AList (fun _ : K => V)

/-- A Rust `HashSet<K>`, which Rust builds as a `HashMap<K, ()>`. -/
abbrev HashSet (K : Type) := HashMap K Unit

/-- `ParticipantRange`: what a transaction buffered and observed on one range. -/
structure ParticipantRange where
  readset : HashSet Bytes
  writeset : HashMap Bytes Bytes
  deleteset : HashSet Bytes
  leaderSequenceNumber : UInt64

/-- The participant range `get_participant_range` creates: empty sets, and a leader
sequence number of `0`. -/
def ParticipantRange.fresh : ParticipantRange :=
  { readset := ∅, writeset := ∅, deleteset := ∅, leaderSequenceNumber := 0 }

/-- `Transaction`, without its handles on the collaborators. -/
structure Transaction where
  id : Uuid
  state : State
  participantRanges : HashMap FullRangeId ParticipantRange
  resolvedKeyspaces : HashMap Keyspace KeyspaceId

/-- `Transaction::new`: a running transaction with nothing buffered and nothing cached. -/
def Transaction.new (id : Uuid) : Transaction :=
  { id, state := .running, participantRanges := ∅, resolvedKeyspaces := ∅ }

/-! ### Computations on a transaction -/

/-- How a computation ended. -/
inductive Ret (α : Type) where
  | ok (a : α)
  | err (e : Error)
  | panic

/-- The value of a computation that returned, changed by `f`. -/
def Ret.map (f : α → β) : Ret α → Ret β
  | .ok a => .ok (f a)
  | .err e => .err e
  | .panic => .panic

/-- A computation's result: the transaction as it left it, the calls it made, and how it
ended. -/
structure Outcome (α : Type) where
  tx : Transaction
  calls : List Event
  ret : Ret α

/-- The outcome `o`, after the calls `calls`. -/
def Outcome.prepend (calls : List Event) (o : Outcome α) : Outcome α :=
  ⟨o.tx, calls ++ o.calls, o.ret⟩

@[simp] theorem Outcome.prepend_mk (calls calls' : List Event) (tx : Transaction) (r : Ret α) :
    (⟨tx, calls', r⟩ : Outcome α).prepend calls = ⟨tx, calls ++ calls', r⟩ := rfl

@[simp] theorem Outcome.prepend_nil (o : Outcome α) : o.prepend [] = o := rfl

@[simp] theorem Outcome.prepend_tx (calls : List Event) (o : Outcome α) :
    (o.prepend calls).tx = o.tx := rfl

@[simp] theorem Outcome.prepend_calls (calls : List Event) (o : Outcome α) :
    (o.prepend calls).calls = calls ++ o.calls := rfl

@[simp] theorem Outcome.prepend_ret (calls : List Event) (o : Outcome α) :
    (o.prepend calls).ret = o.ret := rfl

/-- The outcome `o`, with its value changed by `f`. -/
def Outcome.map (f : α → β) (o : Outcome α) : Outcome β := ⟨o.tx, o.calls, o.ret.map f⟩

@[simp] theorem Outcome.map_mk (f : α → β) (tx : Transaction) (calls : List Event) (r : Ret α) :
    (⟨tx, calls, r⟩ : Outcome α).map f = ⟨tx, calls, r.map f⟩ := rfl

@[simp] theorem Outcome.map_tx (f : α → β) (o : Outcome α) : (o.map f).tx = o.tx := rfl

@[simp] theorem Outcome.map_calls (f : α → β) (o : Outcome α) : (o.map f).calls = o.calls := rfl

@[simp] theorem Outcome.map_ret (f : α → β) (o : Outcome α) : (o.map f).ret = o.ret.map f := rfl

@[simp] theorem Ret.map_ok (f : α → β) (a : α) : (Ret.ok a).map f = .ok (f a) := rfl

@[simp] theorem Ret.map_err (f : α → β) (e : Error) : (Ret.err e : Ret α).map f = .err e := rfl

@[simp] theorem Ret.map_panic (f : α → β) : (Ret.panic : Ret α).map f = .panic := rfl

@[simp] theorem Ret.map_eq_err_iff {f : α → β} {r : Ret α} {e : Error} :
    r.map f = .err e ↔ r = .err e := by
  cases r <;> simp [Ret.map]

/-- A computation on one transaction. -/
def Coord (α : Type) : Type := Transaction → Outcome α

namespace Coord

/-- Return `a`, touching nothing. -/
def pure (a : α) : Coord α := fun tx => ⟨tx, [], .ok a⟩

/-- Run `m`, and, if it returned, `f` on what it returned. -/
def bind (m : Coord α) (f : α → Coord β) : Coord β := fun tx =>
  match m tx with
  | ⟨tx', calls, .ok a⟩ => let o := f a tx'; ⟨o.tx, calls ++ o.calls, o.ret⟩
  | ⟨tx', calls, .err e⟩ => ⟨tx', calls, .err e⟩
  | ⟨tx', calls, .panic⟩ => ⟨tx', calls, .panic⟩

instance : Monad Coord where
  pure := pure
  bind := bind

/-- The transaction as it is now. -/
def getTx : Coord Transaction := fun tx => ⟨tx, [], .ok tx⟩

/-- Change the transaction. -/
def modifyTx (f : Transaction → Transaction) : Coord Unit := fun tx => ⟨f tx, [], .ok ()⟩

/-- Make the calls `calls`, dropping their answers. -/
def emit (calls : List Event) : Coord Unit := fun tx => ⟨tx, calls, .ok ()⟩

/-- Return the error `e`. -/
def throw (e : Error) : Coord α := fun tx => ⟨tx, [], .err e⟩

/-- Panic. -/
def panic : Coord α := fun tx => ⟨tx, [], .panic⟩

@[simp] theorem pure_apply (a : α) (tx : Transaction) :
    (Pure.pure a : Coord α) tx = ⟨tx, [], .ok a⟩ := rfl

theorem bind_apply (m : Coord α) (f : α → Coord β) (tx : Transaction) :
    (m >>= f) tx = match m tx with
      | ⟨tx', calls, .ok a⟩ => let o := f a tx'; ⟨o.tx, calls ++ o.calls, o.ret⟩
      | ⟨tx', calls, .err e⟩ => ⟨tx', calls, .err e⟩
      | ⟨tx', calls, .panic⟩ => ⟨tx', calls, .panic⟩ := rfl

/-- A step that returned hands its transaction on; its calls come first. -/
theorem bind_of_ok {m : Coord α} {f : α → Coord β} {tx tx' : Transaction} {calls : List Event}
    {a : α} (h : m tx = ⟨tx', calls, .ok a⟩) :
    (m >>= f) tx = (f a tx').prepend calls := by
  rw [bind_apply, h]
  rfl

/-- A step that returned without a call hands its transaction straight on. -/
theorem bind_of_ok_nil {m : Coord α} {f : α → Coord β} {tx tx' : Transaction} {a : α}
    (h : m tx = ⟨tx', [], .ok a⟩) : (m >>= f) tx = f a tx' := by
  rw [bind_of_ok h]
  rfl

/-- A step that failed ends the computation. -/
theorem bind_of_err {m : Coord α} {f : α → Coord β} {tx tx' : Transaction} {calls : List Event}
    {e : Error} (h : m tx = ⟨tx', calls, .err e⟩) : (m >>= f) tx = ⟨tx', calls, .err e⟩ := by
  rw [bind_apply, h]

/-- A step that panicked ends the computation. -/
theorem bind_of_panic {m : Coord α} {f : α → Coord β} {tx tx' : Transaction}
    {calls : List Event} (h : m tx = ⟨tx', calls, .panic⟩) :
    (m >>= f) tx = ⟨tx', calls, .panic⟩ := by
  rw [bind_apply, h]

@[simp] theorem getTx_bind (f : Transaction → Coord β) (tx : Transaction) :
    (getTx >>= f) tx = f tx tx := by
  rw [bind_of_ok (rfl : getTx tx = _)]
  rfl

@[simp] theorem modifyTx_bind (g : Transaction → Transaction) (f : Unit → Coord β)
    (tx : Transaction) : (modifyTx g >>= f) tx = f () (g tx) := by
  rw [bind_of_ok (rfl : modifyTx g tx = _)]
  rfl

@[simp] theorem emit_bind (calls : List Event) (f : Unit → Coord β) (tx : Transaction) :
    (emit calls >>= f) tx = (f () tx).prepend calls :=
  bind_of_ok rfl

@[simp] theorem throw_bind (e : Error) (f : α → Coord β) (tx : Transaction) :
    (throw e >>= f) tx = ⟨tx, [], .err e⟩ := rfl

@[simp] theorem panic_bind (f : α → Coord β) (tx : Transaction) :
    (panic >>= f) tx = ⟨tx, [], .panic⟩ := rfl

/-- Returning a function of what a computation returned. -/
@[simp] theorem bind_pure_apply (m : Coord α) (f : α → β) (tx : Transaction) :
    (m >>= fun a => Pure.pure (f a)) tx = (m tx).map f := by
  rw [bind_apply]
  obtain ⟨tx', calls, r⟩ := m tx
  cases r <;> simp [Outcome.map]

@[simp] theorem getTx_apply (tx : Transaction) : getTx tx = ⟨tx, [], .ok tx⟩ := rfl

@[simp] theorem modifyTx_apply (g : Transaction → Transaction) (tx : Transaction) :
    modifyTx g tx = ⟨g tx, [], .ok ()⟩ := rfl

@[simp] theorem emit_apply (calls : List Event) (tx : Transaction) :
    emit calls tx = ⟨tx, calls, .ok ()⟩ := rfl

@[simp] theorem throw_apply (e : Error) (tx : Transaction) :
    (throw e : Coord α) tx = ⟨tx, [], .err e⟩ := rfl

@[simp] theorem panic_apply (tx : Transaction) : (panic : Coord α) tx = ⟨tx, [], .panic⟩ := rfl

end Coord

end AtomixCoordinator
