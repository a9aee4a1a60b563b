import AtomixCoordinator.Basic
import AtomixCoordinator.Coord
import AtomixCoordinator.Transaction
import AtomixCoordinator.Run
import AtomixCoordinator.Steps.Resolve
import AtomixCoordinator.Steps.Abort
import AtomixCoordinator.Steps.Read
import AtomixCoordinator.Steps.Commit
import AtomixCoordinator.Lifecycle
import AtomixCoordinator.Failures
import AtomixCoordinator.Keyspaces
import AtomixCoordinator.Buffers
import AtomixCoordinator.Leaders
import AtomixCoordinator.TwoPhase
import AtomixCoordinator.CommitOutcome
import AtomixCoordinator.Participants
import AtomixCoordinator.Decision
import AtomixCoordinator.RangeView
import AtomixCoordinator.Panics
import AtomixCoordinator.StateStore
import AtomixCoordinator.StoreRaces
import AtomixCoordinator.InDoubt
