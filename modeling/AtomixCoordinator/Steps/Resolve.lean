import AtomixCoordinator.Transaction

/-!
# What the small methods do

Each method of `AtomixCoordinator.Transaction` gets one lemma that says everything it
can do, so that the proofs about the client API never unfold a method they call. This
file covers the ones every data operation starts with: the state check, the resolution
of a key to its range, and the access to a participant range.

Resolution is the one place where the keyspace cache changes, and it changes nothing
else (`AtomixCoordinator.resolveFullRecordKey_cases`): it makes directory lookups only,
and it ends in an error that leaves the transaction running, a panic, or the range the
oracle named. A participant range is read through
`AtomixCoordinator.Transaction.participant`, which answers a fresh range where the
transaction has none, exactly as `get_participant_range` would create it.
-/

namespace AtomixCoordinator

open Coord

/-! ### Participant ranges -/

/-- The participant range of `rangeId` as `get_participant_range` finds it: the stored one,
or a fresh one. -/
def Transaction.participant (tx : Transaction) (rangeId : FullRangeId) : ParticipantRange :=
  (tx.participantRanges.lookup rangeId).getD .fresh

/-- The transaction with the participant range of `rangeId` replaced by `p`. -/
def Transaction.setParticipant (tx : Transaction) (rangeId : FullRangeId)
    (p : ParticipantRange) : Transaction :=
  { tx with participantRanges := tx.participantRanges.insert rangeId p }

/-- The transaction with its keyspace cache replaced by `cache`. -/
def Transaction.withCache (tx : Transaction) (cache : HashMap Keyspace KeyspaceId) :
    Transaction :=
  { tx with resolvedKeyspaces := cache }

/-- The transaction after `get_participant_range rangeId`: one with a participant range
there. -/
def Transaction.touch (tx : Transaction) (rangeId : FullRangeId) : Transaction :=
  if rangeId ∈ tx.participantRanges then tx else tx.setParticipant rangeId .fresh

section Participants

variable (tx : Transaction) (rangeId rangeId' : FullRangeId) (p : ParticipantRange)

@[simp] theorem Transaction.setParticipant_state : (tx.setParticipant rangeId p).state = tx.state :=
  rfl

@[simp] theorem Transaction.setParticipant_id : (tx.setParticipant rangeId p).id = tx.id := rfl

@[simp] theorem Transaction.setParticipant_resolvedKeyspaces :
    (tx.setParticipant rangeId p).resolvedKeyspaces = tx.resolvedKeyspaces := rfl

theorem Transaction.participant_setParticipant :
    (tx.setParticipant rangeId p).participant rangeId' =
      if rangeId' = rangeId then p else tx.participant rangeId' := by
  unfold Transaction.participant Transaction.setParticipant
  split_ifs with h
  · subst h
    rw [AList.lookup_insert, Option.getD_some]
  · rw [AList.lookup_insert_ne h]

@[simp] theorem Transaction.participant_setParticipant_self :
    (tx.setParticipant rangeId p).participant rangeId = p := by
  simp [Transaction.participant_setParticipant]

@[simp] theorem Transaction.withCache_state (cache : HashMap Keyspace KeyspaceId) :
    (tx.withCache cache).state = tx.state := rfl

@[simp] theorem Transaction.withCache_id (cache : HashMap Keyspace KeyspaceId) :
    (tx.withCache cache).id = tx.id := rfl

@[simp] theorem Transaction.withCache_participantRanges (cache : HashMap Keyspace KeyspaceId) :
    (tx.withCache cache).participantRanges = tx.participantRanges := rfl

@[simp] theorem Transaction.withCache_resolvedKeyspaces (cache : HashMap Keyspace KeyspaceId) :
    (tx.withCache cache).resolvedKeyspaces = cache := rfl

@[simp] theorem Transaction.participant_withCache (cache : HashMap Keyspace KeyspaceId) :
    (tx.withCache cache).participant rangeId = tx.participant rangeId := rfl

@[simp] theorem Transaction.participant_withState (s : State) :
    ({ tx with state := s }).participant rangeId = tx.participant rangeId := rfl

@[simp] theorem Transaction.touch_state : (tx.touch rangeId).state = tx.state := by
  unfold Transaction.touch; split_ifs <;> rfl

@[simp] theorem Transaction.touch_id : (tx.touch rangeId).id = tx.id := by
  unfold Transaction.touch; split_ifs <;> rfl

@[simp] theorem Transaction.touch_resolvedKeyspaces :
    (tx.touch rangeId).resolvedKeyspaces = tx.resolvedKeyspaces := by
  unfold Transaction.touch; split_ifs <;> rfl

@[simp] theorem Transaction.participant_touch :
    (tx.touch rangeId).participant rangeId' = tx.participant rangeId' := by
  unfold Transaction.touch
  split_ifs with h
  · rfl
  · rw [Transaction.participant_setParticipant]
    split_ifs with h'
    · subst h'
      simp [Transaction.participant, AList.lookup_eq_none.mpr h]
    · rfl

@[simp] theorem Transaction.touch_setParticipant :
    (tx.touch rangeId).setParticipant rangeId p = tx.setParticipant rangeId p := by
  unfold Transaction.touch
  split_ifs
  · rfl
  · simp [Transaction.setParticipant, AList.insert_insert]

@[simp] theorem Transaction.mem_setParticipant {r : FullRangeId} :
    r ∈ (tx.setParticipant rangeId p).participantRanges ↔ r = rangeId ∨ r ∈ tx.participantRanges :=
  AList.mem_insert _

@[simp] theorem Transaction.mem_touch {r : FullRangeId} :
    r ∈ (tx.touch rangeId).participantRanges ↔ r = rangeId ∨ r ∈ tx.participantRanges := by
  unfold Transaction.touch
  split_ifs with h
  · exact ⟨.inr, by rintro (rfl | h'); exacts [h, h']⟩
  · exact AList.mem_insert _

end Participants

/-! ### The state check -/

/-- What `check_still_running` answers a transaction that is not running. -/
def State.stillRunningError : State → Error
  | .aborted => .transactionAborted .other
  | _ => .transactionNoLongerRunning

theorem checkStillRunning_of_running {tx : Transaction} (h : tx.state = .running) :
    checkStillRunning tx = ⟨tx, [], .ok ()⟩ := by
  simp [checkStillRunning, h]

theorem checkStillRunning_of_not_running {tx : Transaction} (h : tx.state ≠ .running) :
    checkStillRunning tx = ⟨tx, [], .err tx.state.stillRunningError⟩ := by
  cases hs : tx.state <;> simp_all [checkStillRunning, State.stillRunningError]

/-- **A method that starts with the state check does nothing else unless the transaction
is running.** -/
theorem checkStillRunning_bind (f : Unit → Coord α) (tx : Transaction) :
    (checkStillRunning >>= f) tx =
      if tx.state = .running then f () tx else ⟨tx, [], .err tx.state.stillRunningError⟩ := by
  split_ifs with h
  · exact bind_of_ok_nil (checkStillRunning_of_running h)
  · exact bind_of_err (checkStillRunning_of_not_running h)

/-! ### Getting a participant range -/

theorem getParticipantRange_apply (rangeId : FullRangeId) (tx : Transaction) :
    getParticipantRange rangeId tx = ⟨tx.touch rangeId, [], .ok (tx.participant rangeId)⟩ := by
  unfold getParticipantRange Transaction.touch Transaction.participant
  cases h : tx.participantRanges.lookup rangeId with
  | some p =>
    have hm : rangeId ∈ tx.participantRanges := AList.lookup_isSome.mp (by simp [h])
    simp [h, hm]
  | none =>
    have hm : rangeId ∉ tx.participantRanges := AList.lookup_eq_none.mp h
    simp [h, hm, Transaction.setParticipant]

@[simp] theorem setParticipantRange_apply (rangeId : FullRangeId) (p : ParticipantRange)
    (tx : Transaction) : setParticipantRange rangeId p tx = ⟨tx.setParticipant rangeId p, [], .ok ()⟩ :=
  rfl

@[simp] theorem getParticipantRange_bind (rangeId : FullRangeId)
    (f : ParticipantRange → Coord α) (tx : Transaction) :
    (getParticipantRange rangeId >>= f) tx = f (tx.participant rangeId) (tx.touch rangeId) :=
  bind_of_ok_nil (getParticipantRange_apply rangeId tx)

@[simp] theorem setParticipantRange_bind (rangeId : FullRangeId) (p : ParticipantRange)
    (f : Unit → Coord α) (tx : Transaction) :
    (setParticipantRange rangeId p >>= f) tx = f () (tx.setParticipant rangeId p) :=
  bind_of_ok_nil rfl

/-- **Changing a participant range through `get_participant_range`** stores the changed
range, whether or not it was there. -/
theorem getParticipantRange_bind_set (rangeId : FullRangeId)
    (g : ParticipantRange → ParticipantRange) (tx : Transaction) :
    (getParticipantRange rangeId >>= fun p => setParticipantRange rangeId (g p)) tx =
      ⟨tx.setParticipant rangeId (g (tx.participant rangeId)), [], .ok ()⟩ := by
  simp

/-! ### Resolving a key -/

/-- The id the universe directory named for `ks` in `ev`, if `ev` asked it about `ks`. -/
def Event.resolves (ks : Keyspace) : Event → Option KeyspaceId
  | .getKeyspaceInfo ks' answer => if ks' = ks then answer.resolved else none
  | _ => none

/-- The id of the first resolution of `ks` in `calls` that succeeded. -/
def firstResolution (ks : Keyspace) (calls : List Event) : Option KeyspaceId :=
  (calls.filterMap (Event.resolves ks)).head?

@[simp] theorem firstResolution_nil (ks : Keyspace) : firstResolution ks [] = none := rfl

@[simp] theorem firstResolution_append (ks : Keyspace) (calls calls' : List Event) :
    firstResolution ks (calls ++ calls') =
      (firstResolution ks calls).or (firstResolution ks calls') := by
  simp [firstResolution]

@[simp] theorem firstResolution_cons (ks : Keyspace) (ev : Event) (calls : List Event) :
    firstResolution ks (ev :: calls) = (ev.resolves ks).or (firstResolution ks calls) := by
  cases h : ev.resolves ks <;> simp [firstResolution, List.filterMap_cons, h]

/-- The range the oracle named in `ev`, if `ev` asked it. -/
def Event.routedRange : Event → Option FullRangeId
  | .fullRangeIdOfKey _ _ answer => answer
  | _ => none

/-- The ranges the oracle named in `calls`, in order. -/
def routedRanges (calls : List Event) : List FullRangeId := calls.filterMap Event.routedRange

@[simp] theorem routedRanges_nil : routedRanges [] = [] := rfl

@[simp] theorem routedRanges_append (calls calls' : List Event) :
    routedRanges (calls ++ calls') = routedRanges calls ++ routedRanges calls' :=
  List.filterMap_append _ _ _

theorem firstResolution_eq_none {ks : Keyspace} {calls : List Event}
    (h : ∀ ev ∈ calls, ∀ ks' answer, ev ≠ .getKeyspaceInfo ks' answer) :
    firstResolution ks calls = none := by
  simp only [firstResolution, List.head?_eq_none_iff, List.filterMap_eq_nil_iff]
  intro ev hev
  cases ev with
  | getKeyspaceInfo ks' answer => exact absurd rfl (h _ hev ks' answer)
  | _ => rfl

/-- How a resolution of a key of `ks` that found the keyspace cache `old` left it
(`cache`), and which lookups it made (`calls`): the universe directory is asked first,
once, and only if `ks` was not cached, and the id it names, if any, is cached; then the
oracle is asked, only with the id now cached for `ks`. -/
def Resolution (ks : Keyspace) (old cache : HashMap Keyspace KeyspaceId) (calls : List Event) :
    Prop :=
  ∃ asked routed, calls = asked ++ routed ∧
    (∀ ev ∈ routed, ∃ id key answer, ev = .fullRangeIdOfKey id key answer ∧
      cache.lookup ks = some id) ∧
    ((ks ∈ old ∧ asked = [] ∧ cache = old) ∨
      (∃ answer, ks ∉ old ∧ asked = [.getKeyspaceInfo ks answer] ∧ answer.resolved = none ∧
        cache = old) ∨
      (∃ answer id, ks ∉ old ∧ asked = [.getKeyspaceInfo ks answer] ∧
        answer.resolved = some id ∧ cache = old.insert ks id))

namespace Resolution

variable {ks : Keyspace} {old cache : HashMap Keyspace KeyspaceId} {calls : List Event}

theorem isLookup (h : Resolution ks old cache calls) : ∀ ev ∈ calls, ev.isLookup = true := by
  obtain ⟨asked, routed, rfl, hrouted, hasked⟩ := h
  intro ev hev
  rcases List.mem_append.mp hev with hev | hev
  · rcases hasked with ⟨-, rfl, -⟩ | ⟨_, -, rfl, -⟩ | ⟨_, _, -, rfl, -⟩ <;>
      simp_all [Event.isLookup]
  · obtain ⟨_, _, _, rfl, -⟩ := hrouted ev hev
    rfl

/-- **The cache holds the first id the directory named.** -/
theorem lookup_eq (h : Resolution ks old cache calls) (ks' : Keyspace) :
    cache.lookup ks' = (old.lookup ks').or (firstResolution ks' calls) := by
  obtain ⟨asked, routed, rfl, hrouted, hasked⟩ := h
  have hr : firstResolution ks' routed = none := firstResolution_eq_none fun ev hev ks'' a => by
    obtain ⟨_, _, _, rfl, -⟩ := hrouted ev hev
    simp
  rcases hasked with ⟨-, rfl, rfl⟩ | ⟨a, -, rfl, ha, rfl⟩ | ⟨a, id, hks, rfl, ha, rfl⟩
  · simp [hr]
  · by_cases h : ks = ks' <;> simp [hr, Event.resolves, h, ha]
  · by_cases h : ks = ks'
    · subst h
      simp [hr, Event.resolves, ha, AList.lookup_eq_none.mpr hks]
    · simp [hr, Event.resolves, h, AList.lookup_insert_ne (Ne.symm h)]

/-- **The cache gains at most one entry**, for `ks`. -/
theorem grows (h : Resolution ks old cache calls) :
    cache = old ∨ ∃ id, ks ∉ old ∧ cache = old.insert ks id := by
  obtain ⟨-, -, -, -, ⟨-, -, rfl⟩ | ⟨_, -, -, -, rfl⟩ | ⟨_, id, hks, -, -, rfl⟩⟩ := h
  · exact .inl rfl
  · exact .inl rfl
  · exact .inr ⟨id, hks, rfl⟩

/-- **The directory is asked only about an uncached `ks`, and first.** -/
theorem asks (h : Resolution ks old cache calls) {pre post : List Event} {ks' : Keyspace}
    {answer : KeyspaceInfoAnswer} (hc : calls = pre ++ .getKeyspaceInfo ks' answer :: post) :
    pre = [] ∧ ks' = ks ∧ ks ∉ old := by
  obtain ⟨asked, routed, rfl, hrouted, hasked⟩ := h
  have hnot : .getKeyspaceInfo ks' answer ∉ routed := fun hm => by
    obtain ⟨_, _, _, h, -⟩ := hrouted _ hm
    cases h
  rcases hasked with ⟨-, rfl, -⟩ | ⟨a, hks, rfl, -⟩ | ⟨a, _, hks, rfl, -⟩
  · rw [List.nil_append] at hc
    exact absurd (by rw [hc]; simp) hnot
  all_goals
    cases pre with
    | nil =>
      simp only [List.nil_append, List.singleton_append, List.cons.injEq] at hc
      obtain ⟨⟨rfl, -⟩, -⟩ := hc
      exact ⟨rfl, rfl, hks⟩
    | cons x pre =>
      simp only [List.singleton_append, List.cons_append, List.nil_append, List.cons.injEq] at hc
      exact absurd (by rw [hc.2]; simp) hnot

/-- **The oracle is asked only with the id cached for `ks`.** -/
theorem routes (h : Resolution ks old cache calls) {id : KeyspaceId} {key : Bytes}
    {answer : Option FullRangeId} (hm : .fullRangeIdOfKey id key answer ∈ calls) :
    cache.lookup ks = some id := by
  obtain ⟨asked, routed, rfl, hrouted, hasked⟩ := h
  rcases List.mem_append.mp hm with hm | hm
  · rcases hasked with ⟨-, rfl, -⟩ | ⟨_, -, rfl, -⟩ | ⟨_, _, -, rfl, -⟩ <;> simp at hm
  · obtain ⟨_, _, _, he, hl⟩ := hrouted _ hm
    cases he
    exact hl

end Resolution

/-- How a resolution can fail: with an error that leaves the transaction running, or by
panicking. -/
def Ret.FailedLookup : Ret α → Prop
  | .ok _ => False
  | .err e => e.isAborted = false
  | .panic => True

section Resolution

variable {ans : Answers} {ks : Keyspace} {tx : Transaction}

theorem resolveKeyspace_of_lookup_some {keyspaceId : KeyspaceId}
    (h : tx.resolvedKeyspaces.lookup ks = some keyspaceId) :
    resolveKeyspace ans ks tx = ⟨tx, [], .ok keyspaceId⟩ := by
  simp [resolveKeyspace, h]

/-- A keyspace resolved for the first time is looked up in the universe directory, and
cached if the answer names an id. -/
theorem resolveKeyspace_of_resolved {keyspaceId : KeyspaceId}
    (h : tx.resolvedKeyspaces.lookup ks = none)
    (ha : ans.getKeyspaceInfo.resolved = some keyspaceId) :
    resolveKeyspace ans ks tx =
      ⟨tx.withCache (tx.resolvedKeyspaces.insert ks keyspaceId),
        [.getKeyspaceInfo ks ans.getKeyspaceInfo], .ok keyspaceId⟩ := by
  cases hg : ans.getKeyspaceInfo with
  | found id => cases id <;> simp_all [resolveKeyspace, KeyspaceInfoAnswer.resolved,
      Transaction.withCache]
  | _ => simp [hg, KeyspaceInfoAnswer.resolved] at ha

/-- An answer of the universe directory that names no id fails the resolution. -/
theorem resolveKeyspace_of_unresolved (h : tx.resolvedKeyspaces.lookup ks = none)
    (ha : ans.getKeyspaceInfo.resolved = none) :
    ∃ r : Ret KeyspaceId, r.FailedLookup ∧
      resolveKeyspace ans ks tx = ⟨tx, [.getKeyspaceInfo ks ans.getKeyspaceInfo], r⟩ := by
  cases hg : ans.getKeyspaceInfo with
  | status message => exact ⟨.err (.internalError message), rfl, by simp [resolveKeyspace, h, hg]⟩
  | notFound => exact ⟨.err .keyspaceDoesNotExist, rfl, by simp [resolveKeyspace, h, hg]⟩
  | found id =>
    cases id with
    | none => exact ⟨.panic, trivial, by simp [resolveKeyspace, h, hg]⟩
    | some _ => simp [hg, KeyspaceInfoAnswer.resolved] at ha

/-- Resolving a keyspace does not ask the oracle. -/
theorem resolveKeyspace_routedRanges (ans : Answers) (ks : Keyspace) (tx : Transaction) :
    routedRanges (resolveKeyspace ans ks tx).calls = [] := by
  cases h : tx.resolvedKeyspaces.lookup ks with
  | some id => simp [resolveKeyspace_of_lookup_some h]
  | none =>
    cases ha : ans.getKeyspaceInfo.resolved with
    | some id => simp [resolveKeyspace_of_resolved h ha, routedRanges, Event.routedRange]
    | none =>
      obtain ⟨r, -, heq⟩ := resolveKeyspace_of_unresolved h ha
      simp [heq, routedRanges, Event.routedRange]

/-- **What resolving a keyspace can do.** It changes nothing but the keyspace cache, as a
`AtomixCoordinator.Resolution` says; then it returns the id now cached, or fails without
ending the transaction. -/
theorem resolveKeyspace_cases (ans : Answers) (ks : Keyspace) (tx : Transaction) :
    ∃ cache calls, Resolution ks tx.resolvedKeyspaces cache calls ∧
      ((∃ keyspaceId, cache.lookup ks = some keyspaceId ∧
          resolveKeyspace ans ks tx = ⟨tx.withCache cache, calls, .ok keyspaceId⟩) ∨
        ∃ r : Ret KeyspaceId, r.FailedLookup ∧
          resolveKeyspace ans ks tx = ⟨tx.withCache cache, calls, r⟩) := by
  cases h : tx.resolvedKeyspaces.lookup ks with
  | some keyspaceId =>
    have hm : ks ∈ tx.resolvedKeyspaces := AList.lookup_isSome.mp (by simp [h])
    exact ⟨tx.resolvedKeyspaces, [], ⟨[], [], rfl, by simp, .inl ⟨hm, rfl, rfl⟩⟩,
      .inl ⟨keyspaceId, h, resolveKeyspace_of_lookup_some h⟩⟩
  | none =>
    have hm : ks ∉ tx.resolvedKeyspaces := AList.lookup_eq_none.mp h
    cases ha : ans.getKeyspaceInfo.resolved with
    | some keyspaceId =>
      exact ⟨_, _, ⟨_, [], rfl, by simp, .inr (.inr ⟨_, keyspaceId, hm, rfl, ha, rfl⟩)⟩,
        .inl ⟨keyspaceId, by simp, resolveKeyspace_of_resolved h ha⟩⟩
    | none =>
      obtain ⟨r, hr, heq⟩ := resolveKeyspace_of_unresolved h ha
      exact ⟨tx.resolvedKeyspaces, _, ⟨_, [], rfl, by simp, .inr (.inl ⟨_, hm, rfl, ha, rfl⟩)⟩,
        .inr ⟨r, hr, heq⟩⟩

/-- Asking the oracle with the id cached for `ks` keeps to a resolution of `ks`. -/
theorem Resolution.route {old cache : HashMap Keyspace KeyspaceId} {calls : List Event}
    (h : Resolution ks old cache calls) {id : KeyspaceId} (hid : cache.lookup ks = some id)
    (key : Bytes) (answer : Option FullRangeId) :
    Resolution ks old cache (calls ++ [.fullRangeIdOfKey id key answer]) := by
  obtain ⟨asked, routed, rfl, hrouted, hasked⟩ := h
  refine ⟨asked, routed ++ [.fullRangeIdOfKey id key answer], by simp, ?_, hasked⟩
  intro ev hev
  rcases List.mem_append.mp hev with hev | hev
  · exact hrouted ev hev
  · exact ⟨id, key, answer, List.mem_singleton.mp hev, hid⟩

/-- **What resolving a key can do.** It changes nothing but the keyspace cache, as a
`AtomixCoordinator.Resolution` says; then it routes the key to the range the oracle named,
the one range its calls name, or fails without ending the transaction, having named no
range. -/
theorem resolveFullRecordKey_cases (ans : Answers) (ks : Keyspace) (key : Bytes)
    (tx : Transaction) :
    ∃ cache calls, Resolution ks tx.resolvedKeyspaces cache calls ∧
      ((∃ rangeId, ans.fullRangeIdOfKey = some rangeId ∧ routedRanges calls = [rangeId] ∧
          resolveFullRecordKey ans ks key tx = ⟨tx.withCache cache, calls, .ok ⟨rangeId, key⟩⟩) ∨
        ∃ r : Ret FullRecordKey, r.FailedLookup ∧ routedRanges calls = [] ∧
          resolveFullRecordKey ans ks key tx = ⟨tx.withCache cache, calls, r⟩) := by
  obtain ⟨cache, calls, hres, ⟨keyspaceId, hid, hk⟩ | ⟨r, hr, hk⟩⟩ :=
    resolveKeyspace_cases ans ks tx <;>
  have hcalls : routedRanges calls = [] := by simpa [hk] using resolveKeyspace_routedRanges ans ks tx
  · refine ⟨cache, _, hres.route hid key ans.fullRangeIdOfKey, ?_⟩
    cases ho : ans.fullRangeIdOfKey with
    | none =>
      refine .inr ⟨.err .keyspaceDoesNotExist, rfl, by rw [routedRanges_append, hcalls]; rfl, ?_⟩
      simp [resolveFullRecordKey, bind_of_ok hk, ho]
    | some rangeId =>
      refine .inl ⟨rangeId, rfl, by rw [routedRanges_append, hcalls]; rfl, ?_⟩
      simp [resolveFullRecordKey, bind_of_ok hk, ho]
  · refine ⟨cache, calls, hres, .inr ?_⟩
    cases r with
    | ok _ => exact hr.elim
    | err e => exact ⟨.err e, hr, hcalls, bind_of_err hk⟩
    | panic => exact ⟨.panic, trivial, hcalls, bind_of_panic hk⟩

end Resolution

end AtomixCoordinator
