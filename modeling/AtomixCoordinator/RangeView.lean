import AtomixCoordinator.Decision

/-!
# What each participant range sees

The range servers are the participants of the two-phase commit the coordinator decides,
and the `RangeManager` trait of a range server says what a range may expect of it: reads
while the transaction runs; a prepare, after which a range that prepared "must be able to
(eventually) commit the transaction no matter what, unless we get an abort call from the
coordinator"; and a commit that "informs the range manager of a transaction commit, it
does not decide the transaction outcome".

`AtomixCoordinator.ParticipantState` is that contract as a state machine of one range:
what the range is sent (`AtomixCoordinator.RangeMessage`), and what the join loop learns
of its prepare. A range serves reads while `working`; a prepare makes it `preparing`, and
the result of the prepare `prepared` or `refused`; only a prepared range may be told to
commit, any undecided one may be told to abort, and nothing may follow a decision.

The coordinator's log cut down to what concerns one range (`AtomixCoordinator.rangeView`)
is a run of that machine in every reachable configuration, and the state it ends in is
the coordinator's decision (`AtomixCoordinator.participants_follow_protocol`): a range is
committed exactly when the transaction is committed and the range is a participant, and
aborted exactly when the transaction is aborted and the range is a participant.

The run is read off the two-phase shape of the log (`AtomixCoordinator.TwoPhaseShape`):
the participant keys have no repeats, so every round tells each range one thing at most.
The end state is read off the decision the log ends with (`AtomixCoordinator.LogsDecision`).
-/

namespace AtomixCoordinator

/-- What the coordinator's log tells one range about the transaction. -/
inductive RangeMessage where
  /-- A read sent to the range. -/
  | get
  /-- The prepare sent to the range. -/
  | prepare
  /-- The result of the range's prepare task, as the join loop took it. -/
  | prepareResult (result : PrepareTaskResult)
  /-- The commit sent to the range, at an epoch. -/
  | commit (epoch : UInt64)
  /-- The abort sent to the range. -/
  | abort
  deriving DecidableEq, Repr

/-- What event `ev` of the log tells range `r`, if anything. -/
def Event.toRange (r : FullRangeId) : Event → Option RangeMessage
  | .get r' _ _ => if r' = r then some .get else none
  | .prepareTransaction r' _ => if r' = r then some .prepare else none
  | .joinPrepare r' result => if r' = r then some (.prepareResult result) else none
  | .commitTransaction r' epoch => if r' = r then some (.commit epoch) else none
  | .abortTransaction r' => if r' = r then some .abort else none
  | _ => none

/-- The log of the coordinator as range `r` sees it. -/
def rangeView (r : FullRangeId) (trace : List Event) : List RangeMessage :=
  trace.filterMap (Event.toRange r)

/-- The state of one participant range in the two-phase commit. -/
inductive ParticipantState where
  /-- Serving reads; not asked to prepare. -/
  | working
  /-- Asked to prepare; the result is not taken yet. -/
  | preparing
  /-- Prepared: it must be able to commit unless it is told to abort. -/
  | prepared
  /-- Its prepare failed. -/
  | refused
  /-- Told to commit. -/
  | committed
  /-- Told to abort. -/
  | aborted
  deriving DecidableEq, Repr

/-- What a message does to a range; `none` where it breaks the protocol. -/
def ParticipantState.receive : ParticipantState → RangeMessage → Option ParticipantState
  | .working, .get => some .working
  | .working, .prepare => some .preparing
  | .preparing, .prepareResult .prepared => some .prepared
  | .preparing, .prepareResult _ => some .refused
  | .prepared, .commit _ => some .committed
  | .working, .abort | .preparing, .abort | .prepared, .abort | .refused, .abort => some .aborted
  | _, _ => none

/-- The run of a range from `s` over the messages it sees; `none` if one of them breaks
the protocol. -/
def ParticipantState.run (s : ParticipantState) (msgs : List RangeMessage) :
    Option ParticipantState :=
  msgs.foldlM ParticipantState.receive s

/-! ### Runs -/

namespace ParticipantState

variable {s t : ParticipantState} {m : RangeMessage} {msgs msgs' : List RangeMessage}

@[simp] theorem run_nil (s : ParticipantState) : s.run [] = some s := rfl

@[simp] theorem run_cons : s.run (m :: msgs) = (s.receive m).bind (·.run msgs) := rfl

@[simp] theorem run_append : s.run (msgs ++ msgs') = (s.run msgs).bind (·.run msgs') := by
  simp [run, List.foldlM_append]

/-- A commit leaves a range committed, if it is allowed at all. -/
theorem eq_committed_of_receive_commit {epoch : UInt64} (h : s.receive (.commit epoch) = some t) :
    t = .committed := by
  cases s <;> simp [receive] at h
  exact h.symm

/-- An abort leaves a range aborted, if it is allowed at all. -/
theorem eq_aborted_of_receive_abort (h : s.receive .abort = some t) : t = .aborted := by
  cases s <;> simp [receive] at h <;> exact h.symm

/-- Only a commit commits a range. -/
theorem exists_commit_of_receive (h : s.receive m = some .committed) : ∃ epoch, m = .commit epoch := by
  unfold receive at h
  split at h <;> simp_all

/-- Only an abort aborts a range. -/
theorem abort_of_receive (h : s.receive m = some .aborted) : m = .abort := by
  unfold receive at h
  split at h <;> simp_all

/-- A run that ends committed started committed or was sent a commit. -/
theorem commit_mem_of_run (h : s.run msgs = some .committed) :
    s = .committed ∨ ∃ epoch, .commit epoch ∈ msgs := by
  induction msgs generalizing s with
  | nil => exact .inl (Option.some.inj h)
  | cons m msgs ih =>
    obtain ⟨t, ht, h⟩ := Option.bind_eq_some.mp h
    rcases ih h with rfl | ⟨epoch, he⟩
    · obtain ⟨epoch, rfl⟩ := exists_commit_of_receive ht
      exact .inr ⟨epoch, List.mem_cons_self _ _⟩
    · exact .inr ⟨epoch, List.mem_cons_of_mem _ he⟩

/-- A run that ends aborted started aborted or was sent an abort. -/
theorem abort_mem_of_run (h : s.run msgs = some .aborted) : s = .aborted ∨ .abort ∈ msgs := by
  induction msgs generalizing s with
  | nil => exact .inl (Option.some.inj h)
  | cons m msgs ih =>
    obtain ⟨t, ht, h⟩ := Option.bind_eq_some.mp h
    rcases ih h with rfl | he
    · exact .inr (abort_of_receive ht ▸ List.mem_cons_self _ _)
    · exact .inr (List.mem_cons_of_mem _ he)

/-- Reads keep a working range working. -/
theorem run_of_gets (h : ∀ m ∈ msgs, m = .get) : working.run msgs = some .working := by
  induction msgs with
  | nil => rfl
  | cons m msgs ih =>
    rw [h m (List.mem_cons_self _ _)]
    exact ih fun m' hm' => h m' (List.mem_cons_of_mem _ hm')

end ParticipantState

/-! ### What one range sees of each round -/

section View

variable (r : FullRangeId)

@[simp] theorem rangeView_nil : rangeView r [] = [] := rfl

@[simp] theorem rangeView_cons (ev : Event) (trace : List Event) :
    rangeView r (ev :: trace) = (ev.toRange r).toList ++ rangeView r trace := by
  rw [rangeView, rangeView, List.filterMap_cons]
  cases ev.toRange r <;> rfl

@[simp] theorem rangeView_append (trace trace' : List Event) :
    rangeView r (trace ++ trace') = rangeView r trace ++ rangeView r trace' :=
  List.filterMap_append _ _ _

/-- A round that sends one message to each of a list of ranges without repeats tells `r`
that message once if it is in the list, and nothing otherwise. -/
theorem rangeView_map {α : Type} (l : List α) (key : α → FullRangeId) (hl : (l.map key).Nodup)
    (f : α → Event) (m : RangeMessage)
    (hf : ∀ x, (f x).toRange r = if key x = r then some m else none) :
    rangeView r (l.map f) = if r ∈ l.map key then [m] else [] := by
  induction l with
  | nil => simp
  | cons x l ih =>
    rw [List.map_cons, List.nodup_cons] at hl
    rw [List.map_cons, rangeView_cons, hf, ih hl.2]
    by_cases hx : key x = r
    · subst hx
      simp [hl.1]
    · simp [hx, Ne.symm hx]

theorem rangeView_map_ranges (P : List FullRangeId) (hP : P.Nodup) (f : FullRangeId → Event)
    (m : RangeMessage) (hf : ∀ x, (f x).toRange r = if x = r then some m else none) :
    rangeView r (P.map f) = if r ∈ P then [m] else [] := by
  simpa using rangeView_map r P id (by simpa using hP) f m hf

/-- The reads of the log tell a range only of reads. -/
theorem AllReads.rangeView_get {reads : List Event} (h : AllReads reads) :
    ∀ m ∈ rangeView r reads, m = .get := by
  intro m hm
  obtain ⟨ev, hev, he⟩ := List.mem_filterMap.mp hm
  have := h ev hev
  cases ev <;> simp_all [Event.isRead, Event.toRange]

end View

/-! ### Every round is a run of the protocol -/

section Rounds

variable (r : FullRangeId) {id : Uuid} {P : List FullRangeId} {epoch : UInt64}
  {calls : List Event}

/-- What a range sees of an abort round: the abort, if it is one of the ranges. -/
theorem rangeView_abortRound (hP : P.Nodup) (answer : Option OpResult) :
    rangeView r (P.map .abortTransaction ++ [.tryAbortTransaction id answer]) =
      if r ∈ P then [.abort] else [] := by
  rw [rangeView_append, rangeView_map_ranges r P hP Event.abortTransaction .abort fun _ => rfl]
  simp [Event.toRange]

/-- What a range sees of a join loop stopped at the failed prepare of `r0`: at most the
result of its own prepare, after which it may still be told to abort. -/
theorem rangeView_joinStopped {done rest : List FullRangeId} {r0 : FullRangeId}
    (hperm : (done ++ r0 :: rest).Perm P) (hP : P.Nodup) (result : PrepareTaskResult) :
    (r ∈ P → ∃ s, ParticipantState.preparing.run
        (rangeView r (done.map joinPrepared ++ [.joinPrepare r0 result])) = some s ∧
      s.receive .abort = some .aborted) ∧
    (r ∉ P → rangeView r (done.map joinPrepared ++ [.joinPrepare r0 result]) = []) := by
  have hnd := List.nodup_append.mp (hperm.nodup_iff.mpr hP)
  have h0 : r0 ∉ done := fun h => hnd.2.2 h (List.mem_cons_self _ _)
  rw [rangeView_append, rangeView_map_ranges r done hnd.1 joinPrepared _ fun _ => rfl]
  refine ⟨fun _ => ?_, fun hr => ?_⟩
  · by_cases hd : r ∈ done
    · have : r0 ≠ r := fun h => h0 (h ▸ hd)
      simp [hd, this, Event.toRange, ParticipantState.receive]
    · by_cases h0r : r0 = r <;> cases result <;>
        simp [hd, h0r, Event.toRange, ParticipantState.receive]
  · have hr' := mt hperm.mem_iff.mp hr
    simp only [List.mem_append, List.mem_cons, not_or] at hr'
    simp [hr'.1, Ne.symm hr'.2.1, Event.toRange]

/-- **What a range sees of the join loop and what follows it.** A participant range,
prepared by now, takes at most the result of its own prepare and then at most one
decision allowed by the result; any other range hears nothing. -/
theorem JoinRound.rangeView (h : JoinRound id P epoch calls) (hP : P.Nodup) :
    (r ∈ P → ∃ s, ParticipantState.preparing.run (rangeView r calls) = some s) ∧
      (r ∉ P → rangeView r calls = []) := by
  rcases h with ⟨done, r0, rest, aborts, hperm, ⟨answer, rfl⟩, rfl⟩ |
    ⟨done, r0, rest, hperm, rfl⟩ | ⟨order, answer, commits, hperm, rfl, hcommits⟩
  case inl =>
    obtain ⟨hin, hout⟩ := rangeView_joinStopped r hperm hP .joinError
    rw [show ∀ l, done.map joinPrepared ++ .joinPrepare r0 .joinError :: l =
        (done.map joinPrepared ++ [.joinPrepare r0 .joinError]) ++ l by simp,
      rangeView_append, rangeView_abortRound r hP answer]
    refine ⟨fun hr => ?_, fun hr => by simp [hout hr, hr]⟩
    obtain ⟨s, hs, habort⟩ := hin hr
    refine ⟨.aborted, ?_⟩
    rw [ParticipantState.run_append, hs, if_pos hr]
    simpa using habort
  case inr.inl =>
    obtain ⟨hin, hout⟩ := rangeView_joinStopped r hperm hP .rangeClientError
    exact ⟨fun hr => (hin hr).imp fun _ => And.left, hout⟩
  case inr.inr =>
    have hcommits' : rangeView r commits = [] ∨
        rangeView r commits = if r ∈ P then [.commit epoch] else [] := by
      rcases hcommits with rfl | ⟨-, rfl⟩
      · exact .inl rfl
      · exact .inr (rangeView_map_ranges r P hP _ _ fun _ => rfl)
    rw [rangeView_append, rangeView_cons,
      rangeView_map_ranges r order (hperm.nodup_iff.mpr hP) joinPrepared _ fun _ => rfl]
    simp only [hperm.mem_iff]
    refine ⟨fun hr => ?_, fun hr => ?_⟩ <;> rcases hcommits' with hc | hc <;>
      simp [hr, hc, Event.toRange, ParticipantState.receive]

/-- **A prepare round is a run of the protocol for every range**: its prepare, if it is a
participant, and then what the join loop and the decision bring it. -/
theorem PrepareRound.rangeView_run (h : PrepareRound id P calls) (hP : P.Nodup) :
    ∃ s, ParticipantState.working.run (rangeView r calls) = some s := by
  obtain ⟨prepares, rest, hfst, rfl, hrest⟩ := h
  rw [rangeView_append, rangeView_map r prepares Prod.fst (hfst ▸ hP)
    (fun q => .prepareTransaction q.1 q.2) .prepare fun _ => rfl, hfst]
  rcases hrest with rfl | ⟨epoch, joins, rfl, hjoins⟩
  · by_cases hr : r ∈ P <;> simp [hr, Event.toRange, ParticipantState.receive]
  · obtain ⟨hin, hout⟩ := hjoins.rangeView r hP
    by_cases hr : r ∈ P
    · obtain ⟨s, hs⟩ := hin hr
      exact ⟨s, by simp [hr, hs, Event.toRange, ParticipantState.receive]⟩
    · exact ⟨.working, by simp [hr, hout hr, Event.toRange]⟩

/-- **The log of every shape is a run of the protocol for every range**, and a range of a
running transaction is working. -/
theorem TwoPhaseShape.rangeView_run {tx : Transaction} {trace : List Event}
    (h : TwoPhaseShape tx trace) :
    ∃ s, ParticipantState.working.run (rangeView r trace) = some s ∧
      (tx.state = .running → s = .working) := by
  obtain ⟨reads, decision, rfl, hreads, hrun, hd⟩ := h
  have hP := tx.participantRanges.keys_nodup
  rw [rangeView_append, ParticipantState.run_append,
    ParticipantState.run_of_gets (hreads.rangeView_get r), Option.some_bind]
  by_cases hs : tx.state = .running
  · rw [hrun hs]
    exact ⟨.working, rfl, fun _ => rfl⟩
  suffices ∃ s, ParticipantState.working.run (rangeView r decision) = some s from
    this.imp fun _ h => ⟨h, fun h' => absurd h' hs⟩
  rcases hd with rfl | ⟨answer, rfl⟩ | hprepare
  · exact ⟨_, rfl⟩
  · rw [rangeView_abortRound r hP answer]
    by_cases hr : r ∈ tx.participantRanges.keys <;> simp [hr, ParticipantState.receive]
  · exact hprepare.rangeView_run r hP

end Rounds

/-! ### The state a range ends in -/

section Decision

variable {r : FullRangeId} {tx : Transaction} {trace : List Event}

theorem mem_of_rangeView_commit {epoch : UInt64} (h : .commit epoch ∈ rangeView r trace) :
    .commitTransaction r epoch ∈ trace := by
  obtain ⟨ev, hev, he⟩ := List.mem_filterMap.mp h
  cases ev <;> simp [Event.toRange] at he
  rwa [he.1, he.2] at hev

theorem mem_of_rangeView_abort (h : .abort ∈ rangeView r trace) : .abortTransaction r ∈ trace := by
  obtain ⟨ev, hev, he⟩ := List.mem_filterMap.mp h
  cases ev <;> simp [Event.toRange] at he
  rwa [he] at hev

/-- A commit to a range in a log of the two-phase shape goes to a participant range, after
the state store granted the commit at its epoch. -/
theorem TwoPhaseShape.granted_of_commit (h : TwoPhaseShape tx trace) {epoch : UInt64}
    (hm : .commitTransaction r epoch ∈ trace) :
    r ∈ tx.participantRanges.keys ∧
      .tryCommitTransaction tx.id epoch (some (.transactionIsCommitted epoch)) ∈ trace := by
  obtain ⟨reads, decision, rfl, hreads, -, hd⟩ := h
  rcases List.mem_append.mp hm with hm | hm
  · exact absurd hm (hreads.not_mem rfl)
  rcases hd with rfl | ⟨answer, rfl⟩ | ⟨prepares, rest, -, rfl, rfl | ⟨e, joins, rfl, hjoins⟩⟩
  all_goals try simp at hm
  rcases hjoins with ⟨done, r0, _, aborts, -, ⟨a, rfl⟩, rfl⟩ | ⟨done, r0, _, -, rfl⟩ |
    ⟨order, answer, commits, -, rfl, rfl | ⟨rfl, rfl⟩⟩
  all_goals simp [joinPrepared] at hm
  obtain ⟨_, hr, rfl, rfl⟩ := hm
  exact ⟨hr, by simp⟩

/-- An abort to a range in a log of the two-phase shape goes to a participant range, in a
log that asks the state store to abort. -/
theorem TwoPhaseShape.abortAsked_of_abort (h : TwoPhaseShape tx trace)
    (hm : .abortTransaction r ∈ trace) :
    r ∈ tx.participantRanges.keys ∧ ∃ answer, .tryAbortTransaction tx.id answer ∈ trace := by
  obtain ⟨reads, decision, rfl, hreads, -, hd⟩ := h
  rcases List.mem_append.mp hm with hm | hm
  · exact absurd hm (hreads.not_mem rfl)
  rcases hd with rfl | ⟨answer, rfl⟩ | ⟨prepares, rest, -, rfl, rfl | ⟨e, joins, rfl, hjoins⟩⟩
  all_goals try simp at hm
  · exact ⟨hm, answer, by simp⟩
  rcases hjoins with ⟨done, r0, _, aborts, -, ⟨a, rfl⟩, rfl⟩ | ⟨done, r0, _, -, rfl⟩ |
    ⟨order, answer, commits, -, rfl, rfl | ⟨-, rfl⟩⟩
  all_goals simp [joinPrepared] at hm
  exact ⟨hm, a, by simp⟩

theorem rangeView_commitCalls (tx : Transaction) (epoch : UInt64) :
    rangeView r (commitCalls tx epoch) =
      if r ∈ tx.participantRanges.keys then [.commit epoch] else [] := by
  rw [commitCalls, rangeView_cons,
    rangeView_map_ranges r _ tx.participantRanges.keys_nodup (.commitTransaction · epoch) _
      fun _ => rfl]
  rfl

/-- **The state a participant range ends in is the decision of the log**: committed
exactly when the transaction is, aborted exactly when it is. -/
theorem LogsDecision.participantState (hshape : TwoPhaseShape tx trace)
    (hlog : LogsDecision tx trace) {s : ParticipantState}
    (hs : ParticipantState.working.run (rangeView r trace) = some s) :
    (s = .committed ↔ tx.state = .committed ∧ r ∈ tx.participantRanges) ∧
      (s = .aborted ↔ tx.state = .aborted ∧ r ∈ tx.participantRanges) := by
  refine ⟨⟨fun hc => ?_, fun ⟨hc, hr⟩ => ?_⟩, ⟨fun ha => ?_, fun ⟨ha, hr⟩ => ?_⟩⟩
  · subst hc
    obtain ⟨epoch, he⟩ := (ParticipantState.commit_mem_of_run hs).resolve_left nofun
    obtain ⟨hr, hg⟩ := hshape.granted_of_commit (mem_of_rangeView_commit he)
    exact ⟨hlog.1.1.mpr ⟨epoch, hg⟩, AList.mem_keys.mpr hr⟩
  · obtain ⟨pre, epoch, rfl⟩ := hlog.2.1 hc
    rw [rangeView_append, rangeView_commitCalls, if_pos (AList.mem_keys.mp hr),
      ParticipantState.run_append] at hs
    obtain ⟨t, -, ht⟩ := Option.bind_eq_some.mp hs
    exact ParticipantState.eq_committed_of_receive_commit (by simpa using ht)
  · subst ha
    have he := (ParticipantState.abort_mem_of_run hs).resolve_left nofun
    obtain ⟨hr, hasked⟩ := hshape.abortAsked_of_abort (mem_of_rangeView_abort he)
    exact ⟨hlog.1.2.mpr hasked, AList.mem_keys.mpr hr⟩
  · obtain ⟨pre, answer, rfl⟩ := hlog.2.2 ha
    rw [rangeView_append, abortCalls, rangeView_abortRound r tx.participantRanges.keys_nodup,
      if_pos (AList.mem_keys.mp hr), ParticipantState.run_append] at hs
    obtain ⟨t, -, ht⟩ := Option.bind_eq_some.mp hs
    exact ParticipantState.eq_aborted_of_receive_abort (by simpa using ht)

end Decision

/-- **Every participant range follows the two-phase commit protocol and ends in the
coordinator's decision.** On every run, the log cut down to one range is a run of the
participant's state machine – reads only before its prepare, at most one prepare, a commit
only after its own prepare succeeded, at most one decision and nothing after it – which
leaves the range working while the transaction runs, committed exactly when the
transaction is committed and the range is a participant, and aborted exactly when the
transaction is aborted and the range is a participant. -/
theorem participants_follow_protocol (k : Constants) (c : Config) (h : Reachable k c)
    (r : FullRangeId) :
    ∃ s, ParticipantState.working.run (rangeView r c.trace) = some s ∧
      (c.tx.state = .running → s = .working) ∧
      (s = .committed ↔ c.tx.state = .committed ∧ r ∈ c.tx.participantRanges) ∧
      (s = .aborted ↔ c.tx.state = .aborted ∧ r ∈ c.tx.participantRanges) :=
  let ⟨s, hs, hrun⟩ := h.twoPhaseShape.rangeView_run r
  ⟨s, hs, hrun, LogsDecision.participantState h.twoPhaseShape h.logsDecision hs⟩

/-- A `put` and a `commit` the state store grants: the range written to is committed. -/
theorem participants_follow_protocol_after_commit :
    Reachable ⟨0, 0⟩ ((((Config.init 0).step ⟨0, 0⟩ (.put ⟨"", ""⟩ [9] [1])
        (.routing ⟨1⟩ ⟨⟨1⟩, 2⟩))).step ⟨0, 0⟩ .commit (.committing 1)) ∧
      ∃ s, ParticipantState.working.run (rangeView ⟨⟨1⟩, 2⟩
          ((((Config.init 0).step ⟨0, 0⟩ (.put ⟨"", ""⟩ [9] [1])
            (.routing ⟨1⟩ ⟨⟨1⟩, 2⟩))).step ⟨0, 0⟩ .commit (.committing 1)).trace) = some s ∧
        (((((Config.init 0).step ⟨0, 0⟩ (.put ⟨"", ""⟩ [9] [1])
            (.routing ⟨1⟩ ⟨⟨1⟩, 2⟩))).step ⟨0, 0⟩ .commit (.committing 1)).tx.state = .running →
          s = .working) ∧
        (s = .committed ↔ ((((Config.init 0).step ⟨0, 0⟩ (.put ⟨"", ""⟩ [9] [1])
            (.routing ⟨1⟩ ⟨⟨1⟩, 2⟩))).step ⟨0, 0⟩ .commit (.committing 1)).tx.state = .committed ∧
          ⟨⟨1⟩, 2⟩ ∈ ((((Config.init 0).step ⟨0, 0⟩ (.put ⟨"", ""⟩ [9] [1])
            (.routing ⟨1⟩ ⟨⟨1⟩, 2⟩))).step ⟨0, 0⟩ .commit (.committing 1)).tx.participantRanges) ∧
        (s = .aborted ↔ ((((Config.init 0).step ⟨0, 0⟩ (.put ⟨"", ""⟩ [9] [1])
            (.routing ⟨1⟩ ⟨⟨1⟩, 2⟩))).step ⟨0, 0⟩ .commit (.committing 1)).tx.state = .aborted ∧
          ⟨⟨1⟩, 2⟩ ∈ ((((Config.init 0).step ⟨0, 0⟩ (.put ⟨"", ""⟩ [9] [1])
            (.routing ⟨1⟩ ⟨⟨1⟩, 2⟩))).step ⟨0, 0⟩ .commit (.committing 1)).tx.participantRanges) :=
  have h : Reachable ⟨0, 0⟩ ((((Config.init 0).step ⟨0, 0⟩ (.put ⟨"", ""⟩ [9] [1])
      (.routing ⟨1⟩ ⟨⟨1⟩, 2⟩))).step ⟨0, 0⟩ .commit (.committing 1)) :=
    .step .commit (.committing 1) (.step (.put ⟨"", ""⟩ [9] [1]) (.routing ⟨1⟩ ⟨⟨1⟩, 2⟩) (.init 0))
  ⟨h, participants_follow_protocol ⟨0, 0⟩ _ h ⟨⟨1⟩, 2⟩⟩

end AtomixCoordinator
