import AtomixCoordinator.TwoPhase

/-!
# The participant ranges

A range becomes a participant range of a transaction when a key is routed to it by `get`,
`put` or `del`, and only then: `get_participant_range` is called right after the oracle
named the range, whatever follows – a buffered answer, a read, a failed read. So the
participant ranges are exactly the ranges the oracle named in the log; and every call to a
range server – a read, a prepare, a commit or an abort – goes to a participant range of
the moment, so the coordinator never contacts a range that does not take part
(`AtomixCoordinator.participants_are_routed_ranges`).
-/

namespace AtomixCoordinator

/-- The range a call to a range server goes to. -/
def Event.rangeTarget : Event → Option FullRangeId
  | .get r _ _ | .prepareTransaction r _ | .commitTransaction r _ | .abortTransaction r => some r
  | _ => none

theorem mem_routedRanges {r : FullRangeId} {calls : List Event} :
    r ∈ routedRanges calls ↔ ∃ id key, .fullRangeIdOfKey id key (some r) ∈ calls := by
  simp only [routedRanges, List.mem_filterMap]
  constructor
  · rintro ⟨ev, hev, h⟩
    cases ev <;> simp only [Event.routedRange, reduceCtorEq] at h
    exact ⟨_, _, h ▸ hev⟩
  · rintro ⟨id, key, h⟩
    exact ⟨_, h, rfl⟩

theorem NoLookups.routedRanges_eq_nil {calls : List Event} (h : NoLookups calls) :
    routedRanges calls = [] :=
  List.filterMap_eq_nil_iff.mpr fun ev hev => by
    have hl := h ev hev
    cases ev <;> first | rfl | simp [Event.isLookup] at hl

/-- Every call of `calls` to a range server goes to a range of `P`. -/
def Contacts (P : HashMap FullRangeId ParticipantRange) (calls : List Event) : Prop :=
  ∀ ev ∈ calls, ∀ r, ev.rangeTarget = some r → r ∈ P

section Contacts

variable {P P' : HashMap FullRangeId ParticipantRange} {calls calls' : List Event}

@[simp] theorem contacts_nil : Contacts P [] := by simp [Contacts]

@[simp] theorem contacts_cons (ev : Event) :
    Contacts P (ev :: calls) ↔ (∀ r, ev.rangeTarget = some r → r ∈ P) ∧ Contacts P calls :=
  List.forall_mem_cons

@[simp] theorem contacts_append : Contacts P (calls ++ calls') ↔ Contacts P calls ∧ Contacts P calls' :=
  List.forall_mem_append

theorem Contacts.mono (h : Contacts P calls) (hP : ∀ r, r ∈ P → r ∈ P') : Contacts P' calls :=
  fun ev hev r hr => hP r (h ev hev r hr)

theorem contacts_of_lookups (h : ∀ ev ∈ calls, ev.isLookup = true) : Contacts P calls :=
  fun ev hev r hr => by
    have := h ev hev
    cases ev <;> simp_all [Event.rangeTarget, Event.isLookup]

theorem contacts_keys_map (f : FullRangeId → Event) (hf : ∀ r, (f r).rangeTarget = some r) :
    Contacts P (P.keys.map f) := by
  simp only [Contacts, List.mem_map]
  rintro _ ⟨r, hr, rfl⟩ r' h
  rw [hf] at h
  cases h
  exact AList.mem_keys.mp hr

theorem contacts_joins (l : List FullRangeId) : Contacts P (l.map joinPrepared) := by
  simp [Contacts, joinPrepared, Event.rangeTarget]

theorem contacts_abortCalls (tx : Transaction) (answer : Option OpResult) :
    Contacts tx.participantRanges (abortCalls tx answer) := by
  rw [abortCalls, contacts_append]
  exact ⟨contacts_keys_map _ fun _ => rfl, by simp [Event.rangeTarget]⟩

theorem contacts_prepareCalls (tx : Transaction) : Contacts tx.participantRanges (prepareCalls tx) := by
  simp only [Contacts, prepareCalls, List.mem_map]
  rintro _ ⟨e, he, rfl⟩ r hr
  cases hr
  exact AList.mem_keys.mp (List.mem_keys_of_mem he)

end Contacts

/-! ### One call -/

section Calls

variable (k : Constants) (ans : Answers) (key : Bytes)

theorem readYourWrites_participants (rangeId : FullRangeId) (tx : Transaction) :
    (∀ r, r ∈ (readYourWrites k ans rangeId key tx).tx.participantRanges ↔
      r = rangeId ∨ r ∈ tx.participantRanges) ∧
    Contacts (readYourWrites k ans rangeId key tx).tx.participantRanges
      (readYourWrites k ans rangeId key tx).calls := by
  rcases readYourWrites_cases k ans rangeId key tx with ⟨_, -, h⟩ | ⟨-, -, h⟩ | ⟨-, -, h⟩
  · simp [h]
  · simp [h]
  rw [h]
  rcases readFromRange_cases k ans rangeId key (tx.touch rangeId) with
    ⟨-, h'⟩ | ⟨_, -, -, h'⟩ | ⟨_, -, -, h'⟩ <;> rw [h']
  · simp [Contacts, Event.rangeTarget]
  · refine ⟨fun r => by simp, ?_⟩
    rw [contacts_cons]
    exact ⟨fun r hr => by cases hr; simp, contacts_abortCalls _ _⟩
  · simp [Contacts, Event.rangeTarget]

theorem bufferMutation_participants (ks : Keyspace) (update : ParticipantRange → ParticipantRange)
    (tx : Transaction) :
    (∀ r, r ∈ (bufferMutation ans ks key update tx).tx.participantRanges ↔
      r ∈ tx.participantRanges ∨ r ∈ routedRanges (bufferMutation ans ks key update tx).calls) ∧
    Contacts (bufferMutation ans ks key update tx).tx.participantRanges
      (bufferMutation ans ks key update tx).calls := by
  rcases bufferMutation_cases ans ks key tx update with
    ⟨-, h⟩ | ⟨-, cache, calls, hres, ⟨rangeId, -, hrouted, h⟩ | ⟨_, -, hrouted, h⟩⟩ <;> rw [h]
  · simp
  · exact ⟨fun r => by simp [hrouted, or_comm], contacts_of_lookups hres.isLookup⟩
  · exact ⟨fun r => by simp [hrouted], contacts_of_lookups hres.isLookup⟩

theorem commit_contacts (tx : Transaction) :
    Contacts (commit ans tx).tx.participantRanges (commit ans tx).calls := by
  rw [(commit_frame ans tx).1]
  by_cases hs : tx.state = .running
  swap
  · simp [commit_of_not_running hs]
  rcases (@commit_cases ans _ hs) with ⟨-, hc⟩ | ⟨epoch, -, -, hc⟩ |
      ⟨_, pre, r, _, -, -, -, ⟨-, hc⟩ | ⟨-, hc⟩⟩ <;> rw [hc]
  · simp [contacts_prepareCalls, Event.rangeTarget]
  · obtain ⟨commits, hcalls, hcommits⟩ :=
      commitDecision_calls { tx with state := .preparing } epoch ans.tryCommitTransaction
    have hc : Contacts tx.participantRanges commits := by
      rcases hcommits with rfl | ⟨-, rfl⟩
      · exact contacts_nil
      · exact contacts_keys_map _ fun _ => rfl
    simp [hcalls, contacts_prepareCalls, contacts_joins, hc, Event.rangeTarget]
  · simp [contacts_prepareCalls, contacts_joins, contacts_abortCalls, Event.rangeTarget]
  · simp [contacts_prepareCalls, contacts_joins, Event.rangeTarget]

/-- **What one call does to the participant ranges**: it adds the ranges it routed a key
to, and calls range servers of participant ranges only. -/
theorem Op.perform_participants (op : Op) (tx : Transaction) :
    (∀ r, r ∈ (op.perform k ans tx).tx.participantRanges ↔
      r ∈ tx.participantRanges ∨ r ∈ routedRanges (op.perform k ans tx).calls) ∧
    Contacts (op.perform k ans tx).tx.participantRanges (op.perform k ans tx).calls := by
  cases op with
  | get ks key =>
    rcases get_cases k ans ks key tx with
      ⟨-, h⟩ | ⟨-, cache, calls, hres, ⟨rangeId, -, hrouted, h⟩ | ⟨_, -, hrouted, h⟩⟩
    · simp [h]
    · obtain ⟨hP, hC⟩ := readYourWrites_participants k ans key rangeId (tx.withCache cache)
      obtain ⟨-, -, hl⟩ := readYourWrites_frame k ans (tx.withCache cache) rangeId key
      simp only [Op.perform_get, h, Outcome.map_tx, Outcome.map_calls, Outcome.prepend_tx,
        Outcome.prepend_calls, routedRanges_append, hrouted, hl.routedRanges_eq_nil, contacts_append]
      exact ⟨fun r => by simp [hP, or_comm], contacts_of_lookups hres.isLookup, hC⟩
    · simp only [Op.perform_get, h, Outcome.map_mk, hrouted]
      exact ⟨fun r => by simp, contacts_of_lookups hres.isLookup⟩
  | put ks key val => simpa using bufferMutation_participants ans key ks (·.bufferPut key val) tx
  | del ks key => simpa using bufferMutation_participants ans key ks (·.bufferDel key) tx
  | commit =>
    obtain ⟨hc, hn⟩ := commit_frame ans tx
    refine ⟨fun r => ?_, by simpa using commit_contacts ans tx⟩
    simp only [Op.perform_commit, Outcome.map_tx, Outcome.map_calls, hn.noLookups.routedRanges_eq_nil]
    rw [hc]
    simp
  | abort =>
    obtain ⟨hc, hn⟩ := abort_frame ans tx
    refine ⟨fun r => ?_, ?_⟩
    · simp only [Op.perform_abort, Outcome.map_tx, Outcome.map_calls,
        hn.noLookups.routedRanges_eq_nil]
      rw [hc]
      simp
    · simp only [Op.perform_abort, Outcome.map_tx, Outcome.map_calls]
      rw [abort_apply]
      split_ifs
      · exact contacts_nil
      · rw [recordAbort_apply]
        exact contacts_abortCalls _ _
      · exact contacts_nil

end Calls

/-! ### Whole runs -/

theorem Reachable.participants {k : Constants} {c : Config} (h : Reachable k c) :
    (∀ r, r ∈ c.tx.participantRanges ↔ r ∈ routedRanges c.trace) ∧
      Contacts c.tx.participantRanges c.trace :=
  h.trace_induction (fun tx trace => (∀ r, r ∈ tx.participantRanges ↔ r ∈ routedRanges trace) ∧
      Contacts tx.participantRanges trace)
    (fun _ => ⟨fun r => by simp [Transaction.new], contacts_nil⟩) fun c op ans _ _ ih => by
    obtain ⟨hP, hC⟩ := Op.perform_participants k ans op c.tx
    dsimp only at ih ⊢
    rw [routedRanges_append, contacts_append]
    exact ⟨fun r => by rw [hP, ih.1, List.mem_append], ih.2.mono fun r hr => (hP r).mpr (.inl hr), hC⟩

/-- **The participant ranges are the routed ranges, and the only ranges contacted.** In
every reachable configuration a range is a participant range exactly when the oracle
named it in the log, and every call of the log to a range server went to a participant
range. -/
theorem participants_are_routed_ranges (k : Constants) (c : Config) (h : Reachable k c) :
    (∀ r, r ∈ c.tx.participantRanges ↔ ∃ id key, .fullRangeIdOfKey id key (some r) ∈ c.trace) ∧
      ∀ ev ∈ c.trace, ∀ r, ev.rangeTarget = some r → r ∈ c.tx.participantRanges :=
  ⟨fun r => (h.participants.1 r).trans mem_routedRanges, h.participants.2⟩

/-- After a `put`, its range is the one participant range. -/
theorem participants_are_routed_ranges_after_put :
    Reachable ⟨0, 0⟩ ((Config.init 0).step ⟨0, 0⟩ (.put ⟨"", ""⟩ [9] [1])
      (.routing ⟨1⟩ ⟨⟨1⟩, 2⟩)) ∧
    (∀ r, r ∈ ((Config.init 0).step ⟨0, 0⟩ (.put ⟨"", ""⟩ [9] [1])
        (.routing ⟨1⟩ ⟨⟨1⟩, 2⟩)).tx.participantRanges ↔
      ∃ id key, .fullRangeIdOfKey id key (some r) ∈ ((Config.init 0).step ⟨0, 0⟩
        (.put ⟨"", ""⟩ [9] [1]) (.routing ⟨1⟩ ⟨⟨1⟩, 2⟩)).trace) ∧
    ∀ ev ∈ ((Config.init 0).step ⟨0, 0⟩ (.put ⟨"", ""⟩ [9] [1]) (.routing ⟨1⟩ ⟨⟨1⟩, 2⟩)).trace,
      ∀ r, ev.rangeTarget = some r →
        r ∈ ((Config.init 0).step ⟨0, 0⟩ (.put ⟨"", ""⟩ [9] [1])
          (.routing ⟨1⟩ ⟨⟨1⟩, 2⟩)).tx.participantRanges :=
  have h : Reachable ⟨0, 0⟩ ((Config.init 0).step ⟨0, 0⟩ (.put ⟨"", ""⟩ [9] [1])
      (.routing ⟨1⟩ ⟨⟨1⟩, 2⟩)) := .step (.put ⟨"", ""⟩ [9] [1]) (.routing ⟨1⟩ ⟨⟨1⟩, 2⟩) (.init 0)
  ⟨h, participants_are_routed_ranges ⟨0, 0⟩ _ h⟩

end AtomixCoordinator
