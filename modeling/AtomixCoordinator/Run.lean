import AtomixCoordinator.Transaction

/-!
# Runs of a transaction

A client drives a transaction with calls of its API, one at a time (the transaction has
one owner, and each call is awaited before the next). A run is any sequence of such
calls, each answered by the collaborators in any way at all, and the model keeps its
**history**: for every call, the operation, the answers it received, the calls it made
and how it ended. The coordinator's log of outbound calls is the concatenation of the
calls of the history (`AtomixCoordinator.Config.trace`).

A call that panics ends the run: the transaction is dropped while unwinding, and every
later call finds the configuration unchanged. `AtomixCoordinator.Reachable` is every
configuration some run leads to, from a fresh transaction.
-/

namespace AtomixCoordinator

/-- A call of the client API of `Transaction`. -/
inductive Op where
  | get (keyspace : Keyspace) (key : Bytes)
  | put (keyspace : Keyspace) (key val : Bytes)
  | del (keyspace : Keyspace) (key : Bytes)
  | commit
  | abort

/-- What a call of the client API returns in `Ok`: the value `get` read, or `()`. -/
inductive Reply where
  | value (val : Option Bytes)
  | unit

/-- The method of `Transaction` a call runs. -/
def Op.perform (k : Constants) (ans : Answers) : Op → Coord Reply
  | .get keyspace key => do return .value (← AtomixCoordinator.get k ans keyspace key)
  | .put keyspace key val => do AtomixCoordinator.put ans keyspace key val; return .unit
  | .del keyspace key => do AtomixCoordinator.del ans keyspace key; return .unit
  | .commit => do AtomixCoordinator.commit ans; return .unit
  | .abort => do AtomixCoordinator.abort ans; return .unit

section Perform

variable (k : Constants) (ans : Answers) (ks : Keyspace) (key val : Bytes) (tx : Transaction)

@[simp] theorem Op.perform_get :
    (Op.get ks key).perform k ans tx = (AtomixCoordinator.get k ans ks key tx).map .value := by
  simp [Op.perform]

@[simp] theorem Op.perform_put :
    (Op.put ks key val).perform k ans tx =
      (bufferMutation ans ks key (·.bufferPut key val) tx).map fun _ => .unit := by
  simp [Op.perform, AtomixCoordinator.put]

@[simp] theorem Op.perform_del :
    (Op.del ks key).perform k ans tx =
      (bufferMutation ans ks key (·.bufferDel key) tx).map fun _ => .unit := by
  simp [Op.perform, AtomixCoordinator.del]

@[simp] theorem Op.perform_commit :
    Op.commit.perform k ans tx = (AtomixCoordinator.commit ans tx).map fun _ => .unit := by
  simp [Op.perform]

@[simp] theorem Op.perform_abort :
    Op.abort.perform k ans tx = (AtomixCoordinator.abort ans tx).map fun _ => .unit := by
  simp [Op.perform]

end Perform

/-- Whether a computation panicked. -/
def Ret.isPanic : Ret α → Bool
  | .panic => true
  | _ => false

/-- Whether a computation returned. -/
def Ret.isOk : Ret α → Bool
  | .ok _ => true
  | _ => false

@[simp] theorem Ret.isPanic_map (f : α → β) (r : Ret α) : (r.map f).isPanic = r.isPanic := by
  cases r <;> rfl

@[simp] theorem Ret.isOk_map (f : α → β) (r : Ret α) : (r.map f).isOk = r.isOk := by
  cases r <;> rfl

/-- One call of a run: the operation, the answers it received, the calls it made and how
it ended. -/
structure StepRecord where
  op : Op
  answers : Answers
  calls : List Event
  ret : Ret Reply

/-- A configuration of a run: the transaction, the history of the calls so far, and
whether one of them panicked. -/
structure Config where
  tx : Transaction
  history : List StepRecord
  panicked : Bool

/-- The start of a run: a fresh transaction, no history. -/
def Config.init (id : Uuid) : Config := ⟨Transaction.new id, [], false⟩

/-- The coordinator's log of outbound calls. -/
def Config.trace (c : Config) : List Event := c.history.flatMap StepRecord.calls

/-- One call of the client API; after a panic nothing happens any more. -/
def Config.step (k : Constants) (c : Config) (op : Op) (ans : Answers) : Config :=
  if c.panicked then c
  else
    let o := op.perform k ans c.tx
    { tx := o.tx, history := c.history ++ [⟨op, ans, o.calls, o.ret⟩], panicked := o.ret.isPanic }

/-- The configuration after the calls `reqs`, one after another. -/
def Config.steps (k : Constants) (c : Config) (reqs : List (Op × Answers)) : Config :=
  reqs.foldl (fun c req => c.step k req.1 req.2) c

@[simp] theorem Config.steps_nil (k : Constants) (c : Config) : c.steps k [] = c := rfl

@[simp] theorem Config.steps_cons (k : Constants) (c : Config) (op : Op) (ans : Answers)
    (reqs : List (Op × Answers)) : c.steps k ((op, ans) :: reqs) = (c.step k op ans).steps k reqs :=
  rfl

/-- Answers in which every call to a collaborator fails and the join set gives the tasks
back in the order they were spawned; a concrete run changes the answers it needs. -/
def Answers.failing : Answers :=
  { getKeyspaceInfo := .notFound, fullRangeIdOfKey := none, get := none, readEpoch := none,
    prepareTransaction := fun _ => .joinError, joinOrder := .asSpawned,
    tryCommitTransaction := none, tryAbortTransaction := none }

/-- Answers in which the universe directory names `keyspaceId` and the oracle routes every
key to `rangeId`; every other call fails. -/
def Answers.routing (keyspaceId : KeyspaceId) (rangeId : FullRangeId) : Answers :=
  { Answers.failing with getKeyspaceInfo := .found (some keyspaceId), fullRangeIdOfKey := some rangeId }

/-- Answers under which every prepare succeeds, the epoch read gives `epoch`, and the state
store commits at it. -/
def Answers.committing (epoch : UInt64) : Answers :=
  { Answers.failing with
    readEpoch := some epoch
    prepareTransaction := fun _ => .prepared
    tryCommitTransaction := some (.transactionIsCommitted epoch) }

/-- The configurations some run reaches. -/
inductive Reachable (k : Constants) : Config → Prop where
  | init (id : Uuid) : Reachable k (Config.init id)
  | step {c : Config} (op : Op) (ans : Answers) : Reachable k c → Reachable k (c.step k op ans)

@[simp] theorem Config.trace_init (id : Uuid) : (Config.init id).trace = [] := rfl

theorem Config.step_of_panicked {k : Constants} {c : Config} (h : c.panicked = true)
    (op : Op) (ans : Answers) : c.step k op ans = c := by
  simp [Config.step, h]

theorem Config.step_of_live {k : Constants} {c : Config} (h : c.panicked = false)
    (op : Op) (ans : Answers) : c.step k op ans =
      { tx := (op.perform k ans c.tx).tx,
        history := c.history ++ [⟨op, ans, (op.perform k ans c.tx).calls,
          (op.perform k ans c.tx).ret⟩],
        panicked := (op.perform k ans c.tx).ret.isPanic } := by
  simp [Config.step, h]

/-- After a panic, a run stands still. -/
theorem Config.steps_of_panicked {k : Constants} {c : Config} (h : c.panicked = true)
    (reqs : List (Op × Answers)) : c.steps k reqs = c := by
  induction reqs with
  | nil => rfl
  | cons req reqs ih =>
    show (c.step k req.1 req.2).steps k reqs = c
    rw [Config.step_of_panicked h, ih]

/-- A call adds one record to the history, unless the coordinator had panicked. -/
theorem Config.history_step (k : Constants) (c : Config) (op : Op) (ans : Answers) :
    ∃ later, (c.step k op ans).history = c.history ++ later ∧
      (later = [] ∨ later = [⟨op, ans, (op.perform k ans c.tx).calls, (op.perform k ans c.tx).ret⟩]) := by
  cases h : c.panicked
  · exact ⟨_, by simp [Config.step_of_live h], .inr rfl⟩
  · exact ⟨[], by simp [Config.step_of_panicked h], .inl rfl⟩

/-- A call appends its calls to the log. -/
theorem Config.trace_step_of_live {k : Constants} {c : Config} (h : c.panicked = false)
    (op : Op) (ans : Answers) :
    (c.step k op ans).trace = c.trace ++ (op.perform k ans c.tx).calls := by
  simp [Config.step_of_live h, Config.trace]

end AtomixCoordinator
