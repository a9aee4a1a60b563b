import AtomixCoordinator.Coord

/-!
# `coordinator/src/transaction.rs`

The methods of `Transaction`, one definition each and in the order of the source, as
`Coord` computations. An `.await` on a collaborator is a logged call whose answer comes
from `AtomixCoordinator.Answers`; an `.unwrap()` of an `Err`, `panic!` and a failed
`assert!` are `Coord.panic`; the `?` operator is the monad's own early exit.

Four pieces of the methods have a name of their own here, for the proofs to refer to:
`AtomixCoordinator.pinLeaderSequenceNumber` is the leader check of `get` (lines
160–166), `AtomixCoordinator.readYourWrites` is what `get` does once the key is routed,
`AtomixCoordinator.readFromRange` what it does once neither buffer has the key, and `AtomixCoordinator.prepareJoinLoop` is the loop of `commit` that takes the
results of the prepare tasks. The fan-outs spawn one task a participant range, in the
iteration order of `participant_ranges`; the prepare results come back in an order the
run chooses (`AtomixCoordinator.JoinOrder`), and the commit and abort results are
awaited and dropped, so only their dispatch is logged.
-/

namespace AtomixCoordinator

/-! ### Keyspaces, ranges and the state check -/

/-- `Transaction::resolve_keyspace`: the id of a keyspace, from the cache if it is there,
and else from the universe directory, in which case it is cached. -/
def resolveKeyspace (ans : Answers) (keyspace : Keyspace) : Coord KeyspaceId := do
  match (← Coord.getTx).resolvedKeyspaces.lookup keyspace with
  | some k => pure k
  | none =>
    Coord.emit [.getKeyspaceInfo keyspace ans.getKeyspaceInfo]
    match ans.getKeyspaceInfo with
    | .status message => Coord.throw (.internalError message)
    | .notFound => Coord.throw .keyspaceDoesNotExist
    | .found none => Coord.panic
    | .found (some keyspaceId) =>
      Coord.modifyTx fun tx =>
        { tx with resolvedKeyspaces := tx.resolvedKeyspaces.insert keyspace keyspaceId }
      pure keyspaceId

/-- `Transaction::resolve_full_record_key`: resolve the keyspace, then ask the range
assignment oracle for the range of the key. -/
def resolveFullRecordKey (ans : Answers) (keyspace : Keyspace) (key : Bytes) :
    Coord FullRecordKey := do
  let keyspaceId ← resolveKeyspace ans keyspace
  Coord.emit [.fullRangeIdOfKey keyspaceId key ans.fullRangeIdOfKey]
  match ans.fullRangeIdOfKey with
  | none => Coord.throw .keyspaceDoesNotExist
  | some rangeId => pure { rangeId, key }

/-- `Transaction::check_still_running`. -/
def checkStillRunning : Coord Unit := do
  match (← Coord.getTx).state with
  | .running => pure ()
  | .aborted => Coord.throw (.transactionAborted .other)
  | .preparing | .committed => Coord.throw .transactionNoLongerRunning

/-- `Transaction::get_participant_range`: the participant range of `rangeId`, created
fresh if the transaction has none yet. -/
def getParticipantRange (rangeId : FullRangeId) : Coord ParticipantRange := do
  match (← Coord.getTx).participantRanges.lookup rangeId with
  | some participantRange => pure participantRange
  | none =>
    Coord.modifyTx fun tx =>
      { tx with participantRanges := tx.participantRanges.insert rangeId .fresh }
    pure .fresh

/-- Store a participant range changed through the reference that
`get_participant_range` returned. -/
def setParticipantRange (rangeId : FullRangeId) (participantRange : ParticipantRange) :
    Coord Unit :=
  Coord.modifyTx fun tx =>
    { tx with participantRanges := tx.participantRanges.insert rangeId participantRange }

/-! ### Aborting -/

/-- `Transaction::record_abort`: mark the transaction aborted, tell every participant
range, and have the state store record the abort, which it must. -/
def recordAbort (ans : Answers) : Coord Unit := do
  Coord.modifyTx fun tx => { tx with state := .aborted }
  let tx ← Coord.getTx
  Coord.emit (tx.participantRanges.keys.map .abortTransaction)
  Coord.emit [.tryAbortTransaction tx.id ans.tryAbortTransaction]
  match ans.tryAbortTransaction with
  | some .transactionIsAborted => pure ()
  | some (.transactionIsCommitted _) => Coord.panic
  | none => Coord.panic

/-! ### Reads and writes -/

/-- The leader check of `Transaction::get`: the leader sequence number a participant
range holds after a read observed `current`. While the range holds UNSET, the first
observation that is not INVALID is recorded. -/
def pinLeaderSequenceNumber (k : Constants) (recorded : UInt64) (current : BitVec 64) :
    UInt64 :=
  if current ≠ k.invalidLeaderSequenceNumber ∧ recorded = ⟨k.unsetLeaderSequenceNumber⟩ then
    ⟨current⟩
  else recorded

/-- The rest of `Transaction::get` once neither buffer holds the key: read it from its
range, check the range's leader sequence number, and record the read. -/
def readFromRange (k : Constants) (ans : Answers) (rangeId : FullRangeId) (key : Bytes) :
    Coord (Option Bytes) := do
  Coord.emit [.get rangeId [key] ans.get]
  let some getResult := ans.get | Coord.panic
  let participantRange ← getParticipantRange rangeId
  let current := getResult.leaderSequenceNumber
  let participantRange := { participantRange with
    leaderSequenceNumber := pinLeaderSequenceNumber k participantRange.leaderSequenceNumber current }
  setParticipantRange rangeId participantRange
  if current ≠ participantRange.leaderSequenceNumber.toBitVec then
    recordAbort ans
    Coord.throw (.transactionAborted .rangeLeadershipChanged)
  else
    setParticipantRange rangeId
      { participantRange with readset := participantRange.readset.insert key () }
    let some val := getResult.vals.head? | Coord.panic
    pure val

/-- Read-your-writes, the part of `Transaction::get` after the key is routed: a buffered
write or delete of the key answers the read, and else it goes to the range. -/
def readYourWrites (k : Constants) (ans : Answers) (rangeId : FullRangeId) (key : Bytes) :
    Coord (Option Bytes) := do
  let participantRange ← getParticipantRange rangeId
  match participantRange.writeset.lookup key with
  | some v => pure (some v)
  | none =>
    if key ∈ participantRange.deleteset then pure none
    else readFromRange k ans rangeId key

/-- `Transaction::get`: read-your-writes from the buffers, and else a read from the
range. -/
def get (k : Constants) (ans : Answers) (keyspace : Keyspace) (key : Bytes) :
    Coord (Option Bytes) := do
  checkStillRunning
  let fullRecordKey ← resolveFullRecordKey ans keyspace key
  readYourWrites k ans fullRecordKey.rangeId key

/-- The participant range after `put` buffered `val` for `key`. -/
def ParticipantRange.bufferPut (p : ParticipantRange) (key val : Bytes) : ParticipantRange :=
  { p with deleteset := p.deleteset.erase key, writeset := p.writeset.insert key val }

/-- The participant range after `del` buffered a delete of `key`. -/
def ParticipantRange.bufferDel (p : ParticipantRange) (key : Bytes) : ParticipantRange :=
  { p with writeset := p.writeset.erase key, deleteset := p.deleteset.insert key () }

/-- What `Transaction::put` and `Transaction::del` share: the state check, the routing
of the key, and one change to the participant range of its range. -/
def bufferMutation (ans : Answers) (keyspace : Keyspace) (key : Bytes)
    (update : ParticipantRange → ParticipantRange) : Coord Unit := do
  checkStillRunning
  let fullRecordKey ← resolveFullRecordKey ans keyspace key
  let participantRange ← getParticipantRange fullRecordKey.rangeId
  setParticipantRange fullRecordKey.rangeId (update participantRange)

/-- `Transaction::put`: buffer a write, replacing a buffered delete of the key. -/
def put (ans : Answers) (keyspace : Keyspace) (key val : Bytes) : Coord Unit :=
  bufferMutation ans keyspace key (·.bufferPut key val)

/-- `Transaction::del`: buffer a delete, replacing a buffered write of the key. -/
def del (ans : Answers) (keyspace : Keyspace) (key : Bytes) : Coord Unit :=
  bufferMutation ans keyspace key (·.bufferDel key)

/-- `Transaction::abort`: nothing to do once aborted, and otherwise only from a running
transaction. -/
def abort (ans : Answers) : Coord Unit := do
  match (← Coord.getTx).state with
  | .aborted => pure ()
  | _ =>
    checkStillRunning
    recordAbort ans

/-! ### Committing -/

/-- `Transaction::error_from_rangeclient_error`, which is not written yet and panics. -/
def errorFromRangeclientError : Coord Error := Coord.panic

/-- The body of the prepare a participant range is sent: whether the transaction read
from it, its buffered writes and its buffered deletes. -/
def prepareRequest (info : ParticipantRange) : PrepareRequest :=
  { hasReads := !info.readset.keys.isEmpty
    writes := info.writeset.entries.map fun e => { key := e.1, val := e.2 }
    deletes := info.deleteset.keys }

/-- The loop of `Transaction::commit` that takes the results of the prepare tasks, in
the order the join set hands them back: the first task that failed aborts the
transaction, and the first range client error goes to the unwritten translation. -/
def prepareJoinLoop (ans : Answers) : List FullRangeId → Coord Unit
  | [] => pure ()
  | rangeId :: rest => do
    Coord.emit [.joinPrepare rangeId (ans.prepareTransaction rangeId)]
    match ans.prepareTransaction rangeId with
    | .joinError =>
      recordAbort ans
      Coord.throw (.transactionAborted .prepareFailed)
    | .rangeClientError =>
      let e ← errorFromRangeclientError
      Coord.throw e
    | .prepared => prepareJoinLoop ans rest

/-- `Transaction::commit`: prepare every participant range, read the epoch, ask the
state store to commit at that epoch, and tell the participants. -/
def commit (ans : Answers) : Coord Unit := do
  checkStillRunning
  Coord.modifyTx fun tx => { tx with state := .preparing }
  let tx ← Coord.getTx
  Coord.emit (tx.participantRanges.entries.map fun e => .prepareTransaction e.1 (prepareRequest e.2))
  Coord.emit [.readEpoch ans.readEpoch]
  let some epoch := ans.readEpoch | Coord.panic
  prepareJoinLoop ans (ans.joinOrder.order tx.participantRanges.keys)
  Coord.emit [.tryCommitTransaction tx.id epoch ans.tryCommitTransaction]
  match ans.tryCommitTransaction with
  | none => Coord.panic
  | some .transactionIsAborted => Coord.throw (.transactionAborted .other)
  | some (.transactionIsCommitted committedEpoch) =>
    if committedEpoch = epoch then
      Coord.modifyTx fun tx => { tx with state := .committed }
      let tx ← Coord.getTx
      Coord.emit (tx.participantRanges.keys.map (.commitTransaction · epoch))
    else Coord.panic

end AtomixCoordinator
