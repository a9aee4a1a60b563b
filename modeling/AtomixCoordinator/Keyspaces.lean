import AtomixCoordinator.Failures

/-!
# The keyspace cache

A transaction resolves each keyspace name once: `resolve_keyspace` asks the universe
directory only about a name it has not cached, and caches the id the directory names.
The directory may name another id for the same name later; the transaction never asks
again, so within one transaction a name always stands for the id of its first successful
resolution. Over a whole run (`AtomixCoordinator.resolution_is_first`): the cache holds
exactly the first id the directory named for each name
(`AtomixCoordinator.firstResolution`), the directory is asked about a name only while no
resolution of it has succeeded, and every data operation on a name is routed with that
one id.

The proof goes through one lemma per call (`AtomixCoordinator.Op.perform_cacheStep`):
what a call does to the cache and which lookups it makes, as a
`AtomixCoordinator.CacheStep`. Only the resolution of a data operation's key makes
lookups; the reads, prepares and rounds that follow make none.
-/

namespace AtomixCoordinator

/-- The keyspace a call names, if it is a data operation. -/
def Op.keyspace : Op → Option Keyspace
  | .get ks _ | .put ks _ _ | .del ks _ => some ks
  | .commit | .abort => none

/-- What a list `l ++ l'` that has `x` after `pre` splits into. -/
theorem List.append_eq_append_cons {α : Type} {l l' pre post : List α} {x : α}
    (h : l ++ l' = pre ++ x :: post) :
    (∃ post', l = pre ++ x :: post') ∨ ∃ pre', pre = l ++ pre' ∧ l' = pre' ++ x :: post := by
  rcases List.append_eq_append_iff.mp h with ⟨a', rfl, h'⟩ | ⟨c', rfl, h'⟩
  · exact .inr ⟨a', rfl, h'⟩
  · cases c' with
    | nil => exact .inr ⟨[], by simp, by simpa using h'.symm⟩
    | cons y c' =>
      simp only [List.cons_append, List.cons.injEq] at h'
      obtain ⟨rfl, -⟩ := h'
      exact .inl ⟨c', rfl⟩

/-- None of `calls` is a lookup. -/
def NoLookups (calls : List Event) : Prop := ∀ ev ∈ calls, ev.isLookup = false

section NoLookups

variable {ev : Event} {calls calls' : List Event}

@[simp] theorem noLookups_nil : NoLookups [] := List.forall_mem_nil _

@[simp] theorem noLookups_cons : NoLookups (ev :: calls) ↔ ev.isLookup = false ∧ NoLookups calls :=
  List.forall_mem_cons

@[simp] theorem noLookups_append : NoLookups (calls ++ calls') ↔ NoLookups calls ∧ NoLookups calls' :=
  List.forall_mem_append

@[simp] theorem noLookups_map {α : Type} (f : α → Event) (l : List α) :
    NoLookups (l.map f) ↔ ∀ a ∈ l, (f a).isLookup = false :=
  List.forall_mem_map

/-- None of `calls` is a read: no lookup, and no read from a range server. -/
def NoReads (calls : List Event) : Prop := ∀ ev ∈ calls, ev.isRead = false

@[simp] theorem noReads_nil : NoReads [] := List.forall_mem_nil _

@[simp] theorem noReads_cons : NoReads (ev :: calls) ↔ ev.isRead = false ∧ NoReads calls :=
  List.forall_mem_cons

@[simp] theorem noReads_append : NoReads (calls ++ calls') ↔ NoReads calls ∧ NoReads calls' :=
  List.forall_mem_append

@[simp] theorem noReads_map {α : Type} (f : α → Event) (l : List α) :
    NoReads (l.map f) ↔ ∀ a ∈ l, (f a).isRead = false :=
  List.forall_mem_map

theorem NoReads.noLookups (h : NoReads calls) : NoLookups calls := fun ev hev => by
  cases hl : ev.isLookup
  · rfl
  · simpa [Event.isRead_of_isLookup hl] using h ev hev

end NoLookups

/-! ### One call -/

/-- How one call treated the keyspace cache: it found `old` and left `cache`, making the
calls `calls`, and it named the keyspace `ks`, if any. The cache gained the first id the
directory named in `calls`; the directory was asked only first, and only about a name
not cached; the oracle was asked only with the id now cached for `ks`. -/
structure CacheStep (ks : Option Keyspace) (old cache : HashMap Keyspace KeyspaceId)
    (calls : List Event) : Prop where
  lookup_eq : ∀ ks', cache.lookup ks' = (old.lookup ks').or (firstResolution ks' calls)
  asks : ∀ {pre post ks' answer}, calls = pre ++ .getKeyspaceInfo ks' answer :: post →
    pre = [] ∧ old.lookup ks' = none
  routes : ∀ {id key answer}, .fullRangeIdOfKey id key answer ∈ calls →
    ∃ ks', ks = some ks' ∧ cache.lookup ks' = some id

/-- A call that makes no lookup leaves the cache alone. -/
theorem CacheStep.of_noLookups {ks : Option Keyspace} {old : HashMap Keyspace KeyspaceId}
    {calls : List Event} (h : NoLookups calls) : CacheStep ks old old calls where
  lookup_eq ks' := by
    rw [firstResolution_eq_none fun ev hev ks'' a he => by simpa [he, Event.isLookup] using h ev hev]
    simp
  asks := by
    intro pre post ks' answer hc
    exact absurd (h (.getKeyspaceInfo ks' answer) (by simp [hc])) (by simp [Event.isLookup])
  routes hm := absurd (h _ hm) (by simp [Event.isLookup])

/-- A resolution of `ks` followed by calls that are not lookups. -/
theorem Resolution.cacheStep {ks : Keyspace} {old cache : HashMap Keyspace KeyspaceId}
    {calls rest : List Event} (h : Resolution ks old cache calls)
    (hrest : NoLookups rest) : CacheStep (some ks) old cache (calls ++ rest) where
  lookup_eq ks' := by
    have hr : firstResolution ks' rest = none := firstResolution_eq_none fun ev hev ks'' a he => by
      simpa [he, Event.isLookup] using hrest ev hev
    rw [firstResolution_append, hr, Option.or_none]
    exact h.lookup_eq ks'
  asks := by
    intro pre post ks' answer hc
    rcases List.append_eq_append_cons hc with ⟨post', hc'⟩ | ⟨pre', -, hc'⟩
    · obtain ⟨hpre, rfl, hks⟩ := h.asks hc'
      exact ⟨hpre, AList.lookup_eq_none.mpr hks⟩
    · exact absurd (hrest (.getKeyspaceInfo ks' answer) (by simp [hc'])) (by simp [Event.isLookup])
  routes hm := by
    rcases List.mem_append.mp hm with hm | hm
    · exact ⟨ks, rfl, h.routes hm⟩
    · exact absurd (hrest _ hm) (by simp [Event.isLookup])

/-- A resolution of `ks` that ends the call. -/
theorem Resolution.cacheStep_self {ks : Keyspace} {old cache : HashMap Keyspace KeyspaceId}
    {calls : List Event} (h : Resolution ks old cache calls) : CacheStep (some ks) old cache calls := by
  simpa using h.cacheStep fun ev hev => absurd hev (List.not_mem_nil ev)

section Frames

variable (k : Constants) (ans : Answers) (tx : Transaction)

/-- A read keeps the cache and the id, and makes no lookup. -/
theorem readYourWrites_frame (rangeId : FullRangeId) (key : Bytes) :
    (readYourWrites k ans rangeId key tx).tx.resolvedKeyspaces = tx.resolvedKeyspaces ∧
      (readYourWrites k ans rangeId key tx).tx.id = tx.id ∧
      NoLookups (readYourWrites k ans rangeId key tx).calls := by
  rcases readYourWrites_cases k ans rangeId key tx with ⟨_, -, h⟩ | ⟨-, -, h⟩ | ⟨-, -, h⟩
  · simp [h]
  · simp [h]
  · rw [h]
    rcases readFromRange_cases k ans rangeId key (tx.touch rangeId) with
      ⟨-, h'⟩ | ⟨_, -, -, h'⟩ | ⟨_, -, -, h'⟩ <;> simp [h', abortCalls]

/-- Deciding changes only the state, and makes no read. -/
theorem commitDecision_frame (epoch : UInt64) (answer : Option OpResult) :
    (commitDecision tx epoch answer).tx = { tx with state := (commitDecision tx epoch answer).tx.state } ∧
      NoReads (commitDecision tx epoch answer).calls := by
  unfold commitDecision
  split
  · split_ifs <;> simp
  all_goals simp

/-- **Committing changes only the state**, and makes no read. -/
theorem commit_frame :
    (commit ans tx).tx = { tx with state := (commit ans tx).tx.state } ∧
      NoReads (commit ans tx).calls := by
  by_cases hs : tx.state = .running
  · rcases @commit_cases ans _ hs with ⟨-, hc⟩ | ⟨epoch, -, -, hc⟩ |
        ⟨_, _, _, _, -, -, -, ⟨-, hc⟩ | ⟨-, hc⟩⟩
    · simp [hc, prepareCalls]
    · obtain ⟨h1, h2⟩ := commitDecision_frame { tx with state := .preparing } epoch
        ans.tryCommitTransaction
      rw [hc, Outcome.prepend_tx, Outcome.prepend_calls, h1]
      simp [h2, prepareCalls, joinPrepared]
    · simp [hc, prepareCalls, joinPrepared, abortCalls]
    · simp [hc, prepareCalls, joinPrepared]
  · simp [commit_of_not_running hs]

/-- **Aborting changes only the state**, and makes no read. -/
theorem abort_frame :
    (abort ans tx).tx = { tx with state := (abort ans tx).tx.state } ∧
      NoReads (abort ans tx).calls := by
  rw [abort_apply]
  split_ifs
  · simp
  · simp [recordAbort_apply, abortCalls]
  · simp

end Frames

/-- What `put` and `del` do to the keyspace cache: the resolution of their key. -/
theorem bufferMutation_cacheStep (ans : Answers) (ks : Keyspace) (key : Bytes)
    (update : ParticipantRange → ParticipantRange) (tx : Transaction) :
    CacheStep (some ks) tx.resolvedKeyspaces (bufferMutation ans ks key update tx).tx.resolvedKeyspaces
      (bufferMutation ans ks key update tx).calls := by
  rcases bufferMutation_cases ans ks key tx update with
    ⟨-, h⟩ | ⟨-, cache, calls, hres, ⟨_, -, -, h⟩ | ⟨_, -, -, h⟩⟩
  · simpa [h] using CacheStep.of_noLookups (by simp)
  all_goals simpa [h] using hres.cacheStep_self

/-- **What one call does to the keyspace cache.** -/
theorem Op.perform_cacheStep (k : Constants) (op : Op) (ans : Answers) (tx : Transaction) :
    CacheStep op.keyspace tx.resolvedKeyspaces (op.perform k ans tx).tx.resolvedKeyspaces
      (op.perform k ans tx).calls := by
  cases op with
  | get ks key =>
    rcases get_cases k ans ks key tx with ⟨-, h⟩ | ⟨-, cache, calls, hres, ⟨rangeId, -, -, h⟩ | ⟨_, -, -, h⟩⟩
    · simpa [h] using CacheStep.of_noLookups (by simp)
    · obtain ⟨hc, -, hl⟩ := readYourWrites_frame k ans (tx.withCache cache) rangeId key
      simpa [h, hc] using hres.cacheStep hl
    · simpa [h] using hres.cacheStep_self
  | put ks key val => simpa using bufferMutation_cacheStep ans ks key _ tx
  | del ks key => simpa using bufferMutation_cacheStep ans ks key _ tx
  | commit =>
    obtain ⟨hc, hl⟩ := commit_frame ans tx
    simpa [congrArg Transaction.resolvedKeyspaces hc] using CacheStep.of_noLookups hl.noLookups
  | abort =>
    obtain ⟨hc, hl⟩ := abort_frame ans tx
    simpa [congrArg Transaction.resolvedKeyspaces hc] using CacheStep.of_noLookups hl.noLookups

/-! ### Whole runs -/

/-- What a run keeps of the keyspace cache: the cache holds the first id the directory
named for each name; the directory was asked about a name only while no resolution of
it had succeeded; and every data operation on a name was routed with that first id. -/
structure CacheInv (c : Config) : Prop where
  lookup_eq : ∀ ks, c.tx.resolvedKeyspaces.lookup ks = firstResolution ks c.trace
  asks : ∀ {ks pre answer post}, c.trace = pre ++ .getKeyspaceInfo ks answer :: post →
    firstResolution ks pre = none
  routes : ∀ s ∈ c.history, ∀ {ks id key answer}, s.op.keyspace = some ks →
    .fullRangeIdOfKey id key answer ∈ s.calls → firstResolution ks c.trace = some id

theorem CacheInv.init (id : Uuid) : CacheInv (Config.init id) where
  lookup_eq _ := rfl
  asks h := by simp [Config.trace, Config.init] at h
  routes _ hs := by simp [Config.init] at hs

theorem CacheInv.step {k : Constants} {c : Config} (h : CacheInv c) (op : Op) (ans : Answers) :
    CacheInv (c.step k op ans) := by
  cases hp : c.panicked
  case true => rwa [Config.step_of_panicked hp]
  case false =>
  have hs := Op.perform_cacheStep k op ans c.tx
  have hlookup : ∀ ks, (c.step k op ans).tx.resolvedKeyspaces.lookup ks =
      firstResolution ks (c.step k op ans).trace := fun ks => by
    rw [Config.trace_step_of_live hp, Config.step_of_live hp, firstResolution_append,
      ← h.lookup_eq]
    exact hs.lookup_eq ks
  refine ⟨hlookup, fun htr => ?_, fun s hmem ks id key answer hks hm => ?_⟩
  · rw [Config.trace_step_of_live hp] at htr
    rcases List.append_eq_append_cons htr with ⟨post', htr'⟩ | ⟨pre', rfl, hc⟩
    · exact h.asks htr'
    · obtain ⟨rfl, hnone⟩ := hs.asks hc
      simpa [← h.lookup_eq] using hnone
  · rw [Config.step_of_live hp] at hmem
    rcases List.mem_append.mp hmem with hmem | hmem
    · rw [Config.trace_step_of_live hp, firstResolution_append, h.routes s hmem hks hm]
      rfl
    · rw [List.mem_singleton.mp hmem] at hks hm
      obtain ⟨ks', hks', hid⟩ := hs.routes hm
      rw [hks] at hks'
      cases hks'
      rw [← hlookup, Config.step_of_live hp]
      exact hid

theorem Reachable.cacheInv {k : Constants} {c : Config} (h : Reachable k c) : CacheInv c := by
  induction h with
  | init id => exact CacheInv.init id
  | step op ans _ ih => exact ih.step op ans

/-- **Within a transaction a keyspace name stands for the id of its first successful
resolution.** In every reachable configuration the keyspace cache holds, for each name,
the id the universe directory named the first time it named one; the directory was
asked about a name only while no resolution of it had succeeded; and every `get`, `put`
or `del` on a name was routed to the oracle with that first id. -/
theorem resolution_is_first (k : Constants) (c : Config) (h : Reachable k c) :
    (∀ ks, c.tx.resolvedKeyspaces.lookup ks = firstResolution ks c.trace) ∧
      (∀ ks pre answer post, c.trace = pre ++ .getKeyspaceInfo ks answer :: post →
        firstResolution ks pre = none) ∧
      (∀ s ∈ c.history, ∀ ks id key answer, s.op.keyspace = some ks →
        .fullRangeIdOfKey id key answer ∈ s.calls → firstResolution ks c.trace = some id) :=
  ⟨h.cacheInv.lookup_eq, fun _ _ _ _ => h.cacheInv.asks,
    fun s hs _ _ _ _ => h.cacheInv.routes s hs⟩

/-- A run of one `put`, under a directory that names the id `5`, keeps the cache equal to
the first resolution. -/
theorem resolution_is_first_after_put :
    Reachable ⟨0, 0⟩ ((Config.init 0).step ⟨0, 0⟩ (.put ⟨"", ""⟩ [] [])
        { Answers.failing with getKeyspaceInfo := .found (some ⟨5⟩) }) ∧
      ((Config.init 0).step ⟨0, 0⟩ (.put ⟨"", ""⟩ [] [])
          { Answers.failing with getKeyspaceInfo := .found (some ⟨5⟩) }).tx.resolvedKeyspaces.lookup
          ⟨"", ""⟩ =
        firstResolution ⟨"", ""⟩ ((Config.init 0).step ⟨0, 0⟩ (.put ⟨"", ""⟩ [] [])
          { Answers.failing with getKeyspaceInfo := .found (some ⟨5⟩) }).trace :=
  ⟨.step _ _ (.init 0), (resolution_is_first ⟨0, 0⟩ _ (.step _ _ (.init 0))).1 _⟩

end AtomixCoordinator
