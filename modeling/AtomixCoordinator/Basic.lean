import Mathlib.Data.List.AList

/-!
# The data the coordinator handles

The values that `coordinator/src/transaction.rs` reads, stores and sends: keys and
values, the identifiers of keyspaces and ranges, the errors it returns, the answers its
collaborators give, and the calls it makes to them.

The collaborators themselves – the universe directory, the range assignment oracle, the
range client, the epoch reader and the transaction state store – are not modelled. What
the coordinator sees of them is an **answer** to each call it makes, and a run may pick
any answer at all (`AtomixCoordinator.Answers`). A call is logged together with the
answer it received (`AtomixCoordinator.Event`), so that a property of the calls a run
made, such as the shape of its two-phase commit, is a property of its log alone.

Two constants of `common::constants`, the sentinel leader sequence numbers, are read by
the code but are not among its sources. They are a parameter of the model
(`AtomixCoordinator.Constants`), and every result holds whatever their values are.
-/

namespace AtomixCoordinator

/-! ### Keys, identifiers and records -/

/-- `bytes::Bytes`: keys and values are byte strings. -/
abbrev Bytes := List UInt8

/-- `uuid::Uuid`: a 128-bit identifier. -/
abbrev Uuid := BitVec 128

/-- `common::keyspace_id::KeyspaceId`: the stable identifier of a keyspace. -/
structure KeyspaceId where
  id : Uuid
  deriving DecidableEq, Repr

/-- `common::full_range_id::FullRangeId`: a range of a keyspace, the unit of sharding. -/
structure FullRangeId where
  keyspaceId : KeyspaceId
  rangeId : Uuid
  deriving DecidableEq, Repr

/-- `crate::keyspace::Keyspace`: a keyspace as clients name it. -/
structure Keyspace where
  «namespace» : String
  name : String
  deriving DecidableEq, Repr

/-- `FullRecordKey`: a key together with the range the oracle routed it to. -/
structure FullRecordKey where
  rangeId : FullRangeId
  key : Bytes
  deriving DecidableEq, Repr

/-- `common::record::Record`: a write sent to a range at prepare time. -/
structure Record where
  key : Bytes
  val : Bytes
  deriving DecidableEq, Repr

/-! ### Errors and states -/

/-- `crate::error::TransactionAbortReason`, the reasons the coordinator gives. -/
inductive TransactionAbortReason where
  | rangeLeadershipChanged
  | prepareFailed
  | other
  deriving DecidableEq, Repr

/-- `crate::error::Error`, the errors the coordinator returns. -/
inductive Error where
  /-- A transport failure of the universe directory, with its status message. -/
  | internalError (cause : String)
  | keyspaceDoesNotExist
  | transactionAborted (reason : TransactionAbortReason)
  | transactionNoLongerRunning
  deriving DecidableEq, Repr

/-- Whether an error is `TransactionAborted`: the errors that end the transaction. -/
def Error.isAborted : Error → Bool
  | .transactionAborted _ => true
  | _ => false

/-- `State`: the life cycle of a transaction. -/
inductive State where
  | running
  | preparing
  | aborted
  | committed
  deriving DecidableEq, Repr

/-! ### What the collaborators answer -/

/-- The reply of the universe directory to `get_keyspace_info`. -/
inductive KeyspaceInfoAnswer where
  /-- The RPC failed, with this status message. -/
  | status (message : String)
  /-- The directory has no such keyspace: `keyspace_info` is `None`. -/
  | notFound
  /-- The directory knows the keyspace. `keyspaceId` is what `KeyspaceId::from_str` makes of
  the id string it returned, `none` when that string does not parse. -/
  | found (keyspaceId : Option KeyspaceId)
  deriving DecidableEq, Repr

/-- The keyspace id a reply of the universe directory resolves to. -/
def KeyspaceInfoAnswer.resolved : KeyspaceInfoAnswer → Option KeyspaceId
  | .found keyspaceId => keyspaceId
  | _ => none

/-- The result of a read on a range server: one value per key asked for, and the leader
sequence number of the range, an `i64` (kept as its 64 bits). -/
structure GetResult where
  vals : List (Option Bytes)
  leaderSequenceNumber : BitVec 64
  deriving DecidableEq, Repr

/-- What the transaction state store says it recorded for a transaction. -/
inductive OpResult where
  | transactionIsAborted
  | transactionIsCommitted (epoch : UInt64)
  deriving DecidableEq, Repr

/-- What the join set hands back for one prepare task. The epoch lease and the highest
known epoch of a successful prepare are not read by the code, and are left out. -/
inductive PrepareTaskResult where
  /-- The task itself failed (cancelled or panicked): a `JoinError`. -/
  | joinError
  /-- The range client returned an error. -/
  | rangeClientError
  /-- The range prepared the transaction. -/
  | prepared
  deriving DecidableEq, Repr

/-- The order in which a `JoinSet` hands back the results of the tasks spawned on it, one
task a range: a reordering of the spawned ranges, which the scheduler chooses. -/
structure JoinOrder where
  order : List FullRangeId → List FullRangeId
  perm : ∀ l, (order l).Perm l

/-- The join set gives the tasks back in the order they were spawned. -/
def JoinOrder.asSpawned : JoinOrder := ⟨fun l => l, fun l => List.Perm.refl l⟩

/-- The answers one call of the client API receives from the collaborators. Each field
answers the one call of its name that the operation may make; `none` stands for an `Err`
that the code `unwrap`s. -/
structure Answers where
  getKeyspaceInfo : KeyspaceInfoAnswer
  fullRangeIdOfKey : Option FullRangeId
  get : Option GetResult
  readEpoch : Option UInt64
  prepareTransaction : FullRangeId → PrepareTaskResult
  joinOrder : JoinOrder
  tryCommitTransaction : Option OpResult
  tryAbortTransaction : Option OpResult

/-! ### What the coordinator sends -/

/-- The body of a `prepare_transaction` call. -/
structure PrepareRequest where
  hasReads : Bool
  writes : List Record
  deletes : List Bytes
  deriving DecidableEq, Repr

/-- A call the coordinator makes, logged with the answer it got where it waits for one.
The commit and abort RPCs of the fan-outs are awaited but their answers are dropped, and
`joinPrepare` logs the result of a prepare task as the join loop takes it. -/
inductive Event where
  | getKeyspaceInfo (keyspace : Keyspace) (answer : KeyspaceInfoAnswer)
  | fullRangeIdOfKey (keyspaceId : KeyspaceId) (key : Bytes) (answer : Option FullRangeId)
  | get (rangeId : FullRangeId) (keys : List Bytes) (answer : Option GetResult)
  | prepareTransaction (rangeId : FullRangeId) (request : PrepareRequest)
  | readEpoch (answer : Option UInt64)
  | joinPrepare (rangeId : FullRangeId) (result : PrepareTaskResult)
  | tryCommitTransaction (id : Uuid) (epoch : UInt64) (answer : Option OpResult)
  | tryAbortTransaction (id : Uuid) (answer : Option OpResult)
  | commitTransaction (rangeId : FullRangeId) (epoch : UInt64)
  | abortTransaction (rangeId : FullRangeId)
  deriving DecidableEq, Repr

/-- A lookup in a directory service: the universe or the range assignment oracle. -/
def Event.isLookup : Event → Bool
  | .getKeyspaceInfo _ _ | .fullRangeIdOfKey _ _ _ => true
  | _ => false

/-- A read: a lookup, or a read from a range server. -/
def Event.isRead : Event → Bool
  | .getKeyspaceInfo _ _ | .fullRangeIdOfKey _ _ _ | .get _ _ _ => true
  | _ => false

section EventKinds

variable {rangeId : FullRangeId} {keys : List Bytes} {request : PrepareRequest} {id : Uuid}
  {epoch : UInt64} {result : PrepareTaskResult} {answer : Option OpResult}

@[simp] theorem Event.isLookup_get (a : Option GetResult) : (Event.get rangeId keys a).isLookup = false :=
  rfl

@[simp] theorem Event.isLookup_prepareTransaction :
    (Event.prepareTransaction rangeId request).isLookup = false := rfl

@[simp] theorem Event.isLookup_readEpoch (a : Option UInt64) : (Event.readEpoch a).isLookup = false :=
  rfl

@[simp] theorem Event.isLookup_joinPrepare : (Event.joinPrepare rangeId result).isLookup = false :=
  rfl

@[simp] theorem Event.isLookup_tryCommitTransaction :
    (Event.tryCommitTransaction id epoch answer).isLookup = false := rfl

@[simp] theorem Event.isLookup_tryAbortTransaction :
    (Event.tryAbortTransaction id answer).isLookup = false := rfl

@[simp] theorem Event.isLookup_commitTransaction :
    (Event.commitTransaction rangeId epoch).isLookup = false := rfl

@[simp] theorem Event.isLookup_abortTransaction : (Event.abortTransaction rangeId).isLookup = false :=
  rfl

@[simp] theorem Event.isRead_prepareTransaction :
    (Event.prepareTransaction rangeId request).isRead = false := rfl

@[simp] theorem Event.isRead_readEpoch (a : Option UInt64) : (Event.readEpoch a).isRead = false :=
  rfl

@[simp] theorem Event.isRead_joinPrepare : (Event.joinPrepare rangeId result).isRead = false :=
  rfl

@[simp] theorem Event.isRead_tryCommitTransaction :
    (Event.tryCommitTransaction id epoch answer).isRead = false := rfl

@[simp] theorem Event.isRead_tryAbortTransaction :
    (Event.tryAbortTransaction id answer).isRead = false := rfl

@[simp] theorem Event.isRead_commitTransaction :
    (Event.commitTransaction rangeId epoch).isRead = false := rfl

@[simp] theorem Event.isRead_abortTransaction : (Event.abortTransaction rangeId).isRead = false :=
  rfl

end EventKinds

theorem Event.isRead_of_isLookup {ev : Event} (h : ev.isLookup = true) : ev.isRead = true := by
  cases ev <;> simp_all [Event.isLookup, Event.isRead]

/-- The leader sequence number sentinels of `common::constants`, both `i64`. -/
structure Constants where
  invalidLeaderSequenceNumber : BitVec 64
  unsetLeaderSequenceNumber : BitVec 64

end AtomixCoordinator
