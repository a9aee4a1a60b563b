import AtomixCoordinator.Keyspaces

/-!
# The write, delete and read buffers

A transaction buffers its writes per participant range: `put` stores the value in the
range's write set and drops the key from its delete set, `del` does the reverse, so the
last of them wins; and a read that went to the range server records the key in the
range's read set. What `commit` sends to each range is read off these buffers
(`AtomixCoordinator.prepareRequest`).

The reference is the history of the run. `AtomixCoordinator.lastWrite` is the last
successful `put` or `del` of a key routed to a range, and `AtomixCoordinator.StepRecord.ReadFrom`
a successful `get` that read a key from a range. In every live configuration the buffers
are exactly this summary (`AtomixCoordinator.Reachable.bufferInv`), so each prepare request
carries it (`AtomixCoordinator.prepare_request_is_history_summary`). A `get` of a key routed
to the range that buffered its last write answers from the buffer, with no call to a range
server (`AtomixCoordinator.get_reads_own_write`); routed elsewhere, it does not
(`AtomixCoordinator.get_after_put_elsewhere_reads_range`).
-/

namespace AtomixCoordinator

/-! ### The summary of a history -/

/-- The write a call of `op` makes to `key`: `some (some v)` for a `put` of `v`, `some none`
for a `del`. -/
def Op.writeOf (key : Bytes) : Op → Option (Option Bytes)
  | .put _ k v => if k = key then some (some v) else none
  | .del _ k => if k = key then some none else none
  | _ => none

/-- The write a step buffered for `key` on range `r`: that of a `put` or `del` of `key` that
returned, routed to `r`. -/
def StepRecord.bufferedWrite (r : FullRangeId) (key : Bytes) (s : StepRecord) :
    Option (Option Bytes) :=
  if s.ret.isOk = true ∧ s.answers.fullRangeIdOfKey = some r then s.op.writeOf key else none

/-- The last write of `key` that `history` buffered on range `r`. -/
def lastWrite (r : FullRangeId) (key : Bytes) (history : List StepRecord) : Option (Option Bytes) :=
  (history.filterMap (StepRecord.bufferedWrite r key)).getLast?

@[simp] theorem lastWrite_nil (r : FullRangeId) (key : Bytes) : lastWrite r key [] = none := rfl

@[simp] theorem lastWrite_concat (r : FullRangeId) (key : Bytes) (history : List StepRecord)
    (s : StepRecord) :
    lastWrite r key (history ++ [s]) = (s.bufferedWrite r key).or (lastWrite r key history) := by
  cases h : s.bufferedWrite r key <;> simp [lastWrite, List.filterMap_cons, h]

/-- A step was a `get` of `key` that returned what it read from range `r`. -/
def StepRecord.ReadFrom (r : FullRangeId) (key : Bytes) (s : StepRecord) : Prop :=
  s.ret.isOk = true ∧ (∃ ks, s.op = .get ks key) ∧ ∃ answer, .get r [key] answer ∈ s.calls

/-- The participant range after a buffered write of `key`: a `put` of `v` for `some v`, a
`del` for `none`. -/
def ParticipantRange.bufferWrite (p : ParticipantRange) (key : Bytes) : Option Bytes → ParticipantRange
  | some v => p.bufferPut key v
  | none => p.bufferDel key

section BufferWrite

variable (p : ParticipantRange) (key key' : Bytes) (w : Option Bytes)

@[simp] theorem ParticipantRange.bufferWrite_writeset_lookup :
    (p.bufferWrite key w).writeset.lookup key' = if key' = key then w else p.writeset.lookup key' := by
  by_cases h : key' = key
  · subst h
    cases w <;> simp [ParticipantRange.bufferWrite, ParticipantRange.bufferPut,
      ParticipantRange.bufferDel, AList.lookup_erase]
  · cases w <;> simp [ParticipantRange.bufferWrite, ParticipantRange.bufferPut,
      ParticipantRange.bufferDel, h, AList.lookup_insert_ne, AList.lookup_erase_ne]

@[simp] theorem ParticipantRange.mem_bufferWrite_deleteset :
    key' ∈ (p.bufferWrite key w).deleteset ↔ if key' = key then w = none else key' ∈ p.deleteset := by
  cases w <;> by_cases h : key' = key <;>
    simp [ParticipantRange.bufferWrite, ParticipantRange.bufferPut, ParticipantRange.bufferDel, h,
      AList.mem_insert, AList.mem_erase]

@[simp] theorem ParticipantRange.bufferWrite_readset : (p.bufferWrite key w).readset = p.readset := by
  cases w <;> rfl

end BufferWrite

/-! ### One call -/

section Reads

variable (k : Constants) (ans : Answers) (rangeId : FullRangeId) (key : Bytes) (tx : Transaction)

/-- **What a read does to the buffers**: it leaves the write and delete sets alone, and
adds the key to the read set of the range it read from, if it returned. -/
theorem readYourWrites_buffers (h : (readYourWrites k ans rangeId key tx).ret.isPanic = false) :
    (∀ r, ((readYourWrites k ans rangeId key tx).tx.participant r).writeset =
        (tx.participant r).writeset ∧
      ((readYourWrites k ans rangeId key tx).tx.participant r).deleteset =
        (tx.participant r).deleteset) ∧
    (∀ r key', key' ∈ ((readYourWrites k ans rangeId key tx).tx.participant r).readset ↔
      key' ∈ (tx.participant r).readset ∨ ((readYourWrites k ans rangeId key tx).ret.isOk = true ∧
        ∃ answer, .get r [key'] answer ∈ (readYourWrites k ans rangeId key tx).calls)) ∧
    (∀ r key' answer, .get r [key'] answer ∈ (readYourWrites k ans rangeId key tx).calls →
      key' = key) := by
  rcases readYourWrites_cases k ans rangeId key tx with ⟨_, -, hr⟩ | ⟨-, -, hr⟩ | ⟨-, -, hr⟩
  · simp [hr]
  · simp [hr]
  · rw [hr] at h ⊢
    rcases readFromRange_cases k ans rangeId key (tx.touch rangeId) with
      ⟨-, hf⟩ | ⟨res, -, -, hf⟩ | ⟨res, -, -, hf⟩
    · simp [hf, Ret.isPanic] at h
    · refine ⟨fun r => ?_, fun r key' => ?_, fun r key' a => ?_⟩ <;>
        simp only [hf, Transaction.participant_withState, Transaction.participant_setParticipant,
          Transaction.participant_touch]
      · split_ifs with hr <;> (try subst hr) <;> simp [ParticipantRange.observe]
      · have : (abortedWith ans.tryAbortTransaction
            (.transactionAborted .rangeLeadershipChanged) : Ret (Option Bytes)).isOk = false := by
          unfold abortedWith; split <;> rfl
        split_ifs with hr <;> (try subst hr) <;> simp [ParticipantRange.observe, this]
      · simp [abortCalls]
        rintro - rfl -
        rfl
    · cases hv : res.vals.head? with
      | none => simp [hf, hv, Ret.isPanic] at h
      | some val =>
        refine ⟨fun r => ?_, fun r key' => ?_, fun r key' a => ?_⟩ <;>
          simp only [hf, hv, Transaction.participant_setParticipant, Transaction.participant_touch]
        · split_ifs with hr <;> (try subst hr) <;>
            simp [ParticipantRange.observe, ParticipantRange.recordRead]
        · split_ifs with hr
          · subst hr
            simp [ParticipantRange.observe, ParticipantRange.recordRead, AList.mem_insert, Ret.isOk,
              eq_comm, or_comm]
          · simp [hr]
        · simp
          rintro - rfl -
          rfl

end Reads

/-! ### The buffers follow the history -/

/-- The buffers of `tx` are the summary of `history`: the write set of each range holds the
value of the last write of each key buffered there if it was a `put`, the delete set the
keys whose last write was a `del`, and the read set the keys a `get` read from the range. -/
structure BufferInv (tx : Transaction) (history : List StepRecord) : Prop where
  writeset : ∀ r key, (tx.participant r).writeset.lookup key = (lastWrite r key history).join
  deleteset : ∀ r key, key ∈ (tx.participant r).deleteset ↔ lastWrite r key history = some none
  readset : ∀ r key, key ∈ (tx.participant r).readset ↔ ∃ s ∈ history, s.ReadFrom r key

theorem BufferInv.nil (id : Uuid) : BufferInv (Transaction.new id) [] where
  writeset _ _ := rfl
  deleteset _ _ := by simp [Transaction.participant, Transaction.new, ParticipantRange.fresh]
  readset _ _ := by simp [Transaction.participant, Transaction.new, ParticipantRange.fresh]

section Step

variable {tx tx' : Transaction} {history : List StepRecord} {s : StepRecord}

theorem StepRecord.bufferedWrite_of_not_ok (h : s.ret.isOk = false) (r : FullRangeId)
    (key : Bytes) : s.bufferedWrite r key = none := by
  simp [StepRecord.bufferedWrite, h]

/-- A step that buffered no write keeps the invariant, if it left the write and delete sets
alone and added to the read sets only what it read. -/
theorem BufferInv.of_read (hinv : BufferInv tx history)
    (hsets : ∀ r, (tx'.participant r).writeset = (tx.participant r).writeset ∧
      (tx'.participant r).deleteset = (tx.participant r).deleteset)
    (hread : ∀ r key, key ∈ (tx'.participant r).readset ↔
      key ∈ (tx.participant r).readset ∨ s.ReadFrom r key)
    (hw : ∀ r key, s.bufferedWrite r key = none) : BufferInv tx' (history ++ [s]) where
  writeset r key := by rw [(hsets r).1, hinv.writeset, lastWrite_concat, hw, Option.none_or]
  deleteset r key := by rw [(hsets r).2, hinv.deleteset, lastWrite_concat, hw, Option.none_or]
  readset r key := by simp [hread, hinv.readset, or_and_right, exists_or]

/-- A step that changed no participant range, buffered no write and read nothing. -/
theorem BufferInv.of_participantRanges_eq (hinv : BufferInv tx history)
    (hp : tx'.participantRanges = tx.participantRanges) (hw : ∀ r key, s.bufferedWrite r key = none)
    (hr : ∀ r key, ¬ s.ReadFrom r key) : BufferInv tx' (history ++ [s]) :=
  hinv.of_read (fun r => by simp [Transaction.participant, hp])
    (fun r key => by simp [Transaction.participant, hp, hr]) hw

/-- A step that buffered the write `w` of `key0` on range `r0`, and nothing else. -/
theorem BufferInv.bufferWrite (hinv : BufferInv tx history) (r0 : FullRangeId) (key0 : Bytes)
    (w : Option Bytes)
    (hp : ∀ r, tx'.participant r = if r = r0 then (tx.participant r0).bufferWrite key0 w
      else tx.participant r)
    (hw : ∀ r key, s.bufferedWrite r key = if r0 = r ∧ key0 = key then some w else none)
    (hr : ∀ r key, ¬ s.ReadFrom r key) : BufferInv tx' (history ++ [s]) where
  writeset r key := by
    rw [hp, lastWrite_concat, hw]
    by_cases h : r = r0
    · subst h
      by_cases hk : key = key0
      · subst hk
        simp
      · simp [hk, Ne.symm hk, hinv.writeset]
    · simp [h, Ne.symm h, hinv.writeset]
  deleteset r key := by
    rw [hp, lastWrite_concat, hw]
    by_cases h : r = r0
    · subst h
      by_cases hk : key = key0
      · subst hk
        simp
      · simp [hk, Ne.symm hk, hinv.deleteset]
    · simp [h, Ne.symm h, hinv.deleteset]
  readset r key := by
    rw [hp]
    split_ifs with h <;> (try subst h) <;> simp [hinv.readset, hr, or_and_right, exists_or]

end Step

/-- A failed lookup did not return. -/
theorem Ret.FailedLookup.isOk {r : Ret α} (h : r.FailedLookup) : r.isOk = false := by
  cases r
  · exact h.elim
  all_goals rfl

/-- A `put` or `del` of `key` that buffers `w` keeps the invariant. -/
theorem BufferInv.bufferMutation {tx : Transaction} {history : List StepRecord}
    (hinv : BufferInv tx history) (ans : Answers) (ks : Keyspace) (key : Bytes) (w : Option Bytes)
    (update : ParticipantRange → ParticipantRange) (hupdate : ∀ p, update p = p.bufferWrite key w)
    (op : Op) (hop : ∀ key', op.writeOf key' = if key = key' then some w else none)
    (hget : ∀ ks' key', op ≠ .get ks' key') :
    BufferInv (bufferMutation ans ks key update tx).tx
      (history ++ [⟨op, ans, (bufferMutation ans ks key update tx).calls,
        (bufferMutation ans ks key update tx).ret.map fun _ => .unit⟩]) := by
  have hnoread : ∀ (s : StepRecord) r key', s.op = op → ¬ s.ReadFrom r key' :=
    fun _ _ key' hs ⟨_, ⟨ks', hks'⟩, _⟩ => hget ks' key' (hs.symm.trans hks')
  rcases bufferMutation_cases ans ks key tx update with
    ⟨-, hb⟩ | ⟨-, cache, calls, -, ⟨r0, hr0, -, hb⟩ | ⟨r, hr, -, hb⟩⟩ <;> rw [hb]
  · exact hinv.of_participantRanges_eq rfl (fun _ _ => rfl) (fun r key' => hnoread _ r key' rfl)
  · refine hinv.bufferWrite r0 key w (fun r => ?_) (fun r key' => ?_)
      (fun r key' => hnoread _ r key' rfl)
    · simp [Transaction.participant_setParticipant, hupdate]
    · by_cases h1 : r0 = r <;> by_cases h2 : key = key' <;>
        simp [StepRecord.bufferedWrite, hop, Ret.isOk, hr0, h1, h2]
  · exact hinv.of_participantRanges_eq rfl
      (fun _ _ => StepRecord.bufferedWrite_of_not_ok (by simpa using hr.isOk) _ _)
      (fun r key' => hnoread _ r key' rfl)

/-- **Every call that does not panic keeps the buffers equal to the summary of the
history.** -/
theorem BufferInv.perform {k : Constants} {tx : Transaction} {history : List StepRecord}
    (hinv : BufferInv tx history) (op : Op) (ans : Answers)
    (h : (op.perform k ans tx).ret.isPanic = false) :
    BufferInv (op.perform k ans tx).tx
      (history ++ [⟨op, ans, (op.perform k ans tx).calls, (op.perform k ans tx).ret⟩]) := by
  cases op with
  | get ks key =>
    rcases get_cases k ans ks key tx with ⟨-, hg⟩ | ⟨-, cache, calls, hres, ⟨r0, -, -, hg⟩ | ⟨r, hr, -, hg⟩⟩
    · simp only [Op.perform_get, hg, Outcome.map_mk]
      exact hinv.of_participantRanges_eq rfl (fun _ _ => rfl) (by simp [StepRecord.ReadFrom, Ret.isOk])
    · simp only [Op.perform_get, hg, Outcome.map_ret, Outcome.prepend_ret, Ret.isPanic_map] at h ⊢
      obtain ⟨hsets, hread, hkey⟩ := readYourWrites_buffers k ans r0 key (tx.withCache cache) h
      refine hinv.of_read (fun r => by simpa using hsets r) (fun r key' => ?_)
        (fun r key' => by simp [StepRecord.bufferedWrite, Op.writeOf])
      have hnot : ∀ a, .get r [key'] a ∉ calls := fun a ha => by
        simpa using hres.isLookup _ ha
      simp only [Outcome.map_tx, Outcome.prepend_tx, hread, Transaction.participant_withCache,
        StepRecord.ReadFrom, Outcome.map_ret, Outcome.prepend_ret, Ret.isOk_map, Outcome.map_calls,
        Outcome.prepend_calls, List.mem_append, Op.get.injEq]
      constructor
      · rintro (h | ⟨hok, a, ha⟩)
        · exact .inl h
        · exact .inr ⟨hok, ⟨ks, rfl, (hkey r key' a ha).symm⟩, a, .inr ha⟩
      · rintro (h | ⟨hok, -, a, ha | ha⟩)
        · exact .inl h
        · exact absurd ha (hnot a)
        · exact .inr ⟨hok, a, ha⟩
    · simp only [Op.perform_get, hg, Outcome.map_mk]
      exact hinv.of_participantRanges_eq rfl
        (fun _ _ => StepRecord.bufferedWrite_of_not_ok (by simpa using hr.isOk) _ _)
        (by simp [StepRecord.ReadFrom, hr.isOk])
  | put ks key val =>
    simpa using hinv.bufferMutation ans ks key (some val) (·.bufferPut key val) (fun _ => rfl)
      (.put ks key val) (fun _ => rfl) (by simp)
  | del ks key =>
    simpa using hinv.bufferMutation ans ks key none (·.bufferDel key) (fun _ => rfl) (.del ks key)
      (fun _ => rfl) (by simp)
  | commit =>
    obtain ⟨hc, -⟩ := commit_frame ans tx
    rw [Op.perform_commit]
    exact hinv.of_participantRanges_eq (by rw [Outcome.map_tx, hc])
      (fun _ _ => by simp [StepRecord.bufferedWrite, Op.writeOf]) (by simp [StepRecord.ReadFrom])
  | abort =>
    obtain ⟨hc, -⟩ := abort_frame ans tx
    rw [Op.perform_abort]
    exact hinv.of_participantRanges_eq (by rw [Outcome.map_tx, hc])
      (fun _ _ => by simp [StepRecord.bufferedWrite, Op.writeOf]) (by simp [StepRecord.ReadFrom])

/-- **In every live configuration the buffers are the summary of the history.** A panic
ends the run: the transaction is dropped while unwinding, so its buffers are never read
again. -/
theorem Reachable.bufferInv {k : Constants} {c : Config} (h : Reachable k c)
    (hp : c.panicked = false) : BufferInv c.tx c.history := by
  induction h with
  | init id => exact BufferInv.nil id
  | @step c op ans _ ih =>
    cases hc : c.panicked
    · rw [Config.step_of_live hc] at hp ⊢
      exact (ih hc).perform op ans hp
    · rw [Config.step_of_panicked hc] at hp
      exact absurd hp (by simp [hc])

/-- **No key is both written and deleted**: in every live configuration, a key in the
delete set of a range has no value in its write set. -/
theorem buffers_disjoint {k : Constants} {c : Config} (h : Reachable k c)
    (hp : c.panicked = false) (r : FullRangeId) (key : Bytes)
    (hd : key ∈ (c.tx.participant r).deleteset) : (c.tx.participant r).writeset.lookup key = none := by
  have hinv := h.bufferInv hp
  rw [hinv.writeset, (hinv.deleteset r key).mp hd]
  rfl

/-- After a `put` of a key and a `del` of it, the key is deleted and not written. -/
theorem buffers_disjoint_after_put_del :
    Reachable ⟨0, 0⟩ ((((Config.init 0).step ⟨0, 0⟩ (.put ⟨"", ""⟩ [9] [1])
      (.routing ⟨1⟩ ⟨⟨1⟩, 2⟩))).step ⟨0, 0⟩ (.del ⟨"", ""⟩ [9]) (.routing ⟨1⟩ ⟨⟨1⟩, 2⟩)) ∧
    ((((Config.init 0).step ⟨0, 0⟩ (.put ⟨"", ""⟩ [9] [1])
      (.routing ⟨1⟩ ⟨⟨1⟩, 2⟩))).step ⟨0, 0⟩ (.del ⟨"", ""⟩ [9])
        (.routing ⟨1⟩ ⟨⟨1⟩, 2⟩)).panicked = false ∧
    [9] ∈ (((((Config.init 0).step ⟨0, 0⟩ (.put ⟨"", ""⟩ [9] [1])
      (.routing ⟨1⟩ ⟨⟨1⟩, 2⟩))).step ⟨0, 0⟩ (.del ⟨"", ""⟩ [9])
        (.routing ⟨1⟩ ⟨⟨1⟩, 2⟩)).tx.participant ⟨⟨1⟩, 2⟩).deleteset ∧
    (((((Config.init 0).step ⟨0, 0⟩ (.put ⟨"", ""⟩ [9] [1])
      (.routing ⟨1⟩ ⟨⟨1⟩, 2⟩))).step ⟨0, 0⟩ (.del ⟨"", ""⟩ [9])
        (.routing ⟨1⟩ ⟨⟨1⟩, 2⟩)).tx.participant ⟨⟨1⟩, 2⟩).writeset.lookup [9] = none :=
  have h : Reachable ⟨0, 0⟩ ((((Config.init 0).step ⟨0, 0⟩ (.put ⟨"", ""⟩ [9] [1])
      (.routing ⟨1⟩ ⟨⟨1⟩, 2⟩))).step ⟨0, 0⟩ (.del ⟨"", ""⟩ [9]) (.routing ⟨1⟩ ⟨⟨1⟩, 2⟩)) :=
    .step (.del ⟨"", ""⟩ [9]) (.routing ⟨1⟩ ⟨⟨1⟩, 2⟩)
      (.step (.put ⟨"", ""⟩ [9] [1]) (.routing ⟨1⟩ ⟨⟨1⟩, 2⟩) (.init 0))
  have hd : [9] ∈ (((((Config.init 0).step ⟨0, 0⟩ (.put ⟨"", ""⟩ [9] [1])
      (.routing ⟨1⟩ ⟨⟨1⟩, 2⟩))).step ⟨0, 0⟩ (.del ⟨"", ""⟩ [9])
        (.routing ⟨1⟩ ⟨⟨1⟩, 2⟩)).tx.participant ⟨⟨1⟩, 2⟩).deleteset := by decide
  ⟨h, rfl, hd, buffers_disjoint h rfl ⟨⟨1⟩, 2⟩ [9] hd⟩

/-! ### What a prepare request carries -/

section Prepare

variable (p : ParticipantRange)

theorem prepareRequest_mem_writes (key val : Bytes) :
    (⟨key, val⟩ : Record) ∈ (prepareRequest p).writes ↔ p.writeset.lookup key = some val := by
  rw [Option.mem_def.symm, AList.mem_lookup_iff]
  simp only [prepareRequest, List.mem_map, Record.mk.injEq]
  constructor
  · rintro ⟨⟨k', v'⟩, he, rfl, rfl⟩
    exact he
  · exact fun he => ⟨_, he, rfl, rfl⟩

theorem prepareRequest_writes_nodup : ((prepareRequest p).writes.map Record.key).Nodup := by
  have : (prepareRequest p).writes.map Record.key = p.writeset.keys := by
    simp [prepareRequest, AList.keys, List.keys, Function.comp_def]
  exact this ▸ p.writeset.keys_nodup

theorem prepareRequest_mem_deletes (key : Bytes) :
    key ∈ (prepareRequest p).deletes ↔ key ∈ p.deleteset :=
  AList.mem_keys.symm

theorem prepareRequest_hasReads : (prepareRequest p).hasReads = true ↔ ∃ key, key ∈ p.readset := by
  simp [prepareRequest, List.isEmpty_iff, List.eq_nil_iff_forall_not_mem, AList.mem_keys]

end Prepare

theorem mem_prepareCalls {tx : Transaction} {r : FullRangeId} {req : PrepareRequest} :
    .prepareTransaction r req ∈ prepareCalls tx ↔
      ∃ p, tx.participantRanges.lookup r = some p ∧ req = prepareRequest p := by
  simp only [prepareCalls, List.mem_map, Event.prepareTransaction.injEq]
  constructor
  · rintro ⟨⟨r', p⟩, he, rfl, rfl⟩
    exact ⟨p, AList.mem_lookup_iff.mpr he, rfl⟩
  · rintro ⟨p, hl, rfl⟩
    exact ⟨⟨r, p⟩, AList.mem_lookup_iff.mp hl, rfl, rfl⟩

/-- The only prepares `commit` sends are those of `AtomixCoordinator.prepareCalls`. -/
theorem mem_prepareCalls_of_mem_commit {ans : Answers} {tx : Transaction} {r : FullRangeId}
    {req : PrepareRequest} (h : .prepareTransaction r req ∈ (commit ans tx).calls) :
    .prepareTransaction r req ∈ prepareCalls tx := by
  by_cases hs : tx.state = .running
  · rcases @commit_cases ans _ hs with ⟨-, hc⟩ | ⟨epoch, -, -, hc⟩ |
        ⟨_, _, _, _, -, -, -, ⟨-, hc⟩ | ⟨-, hc⟩⟩
    · simpa [hc] using h
    · rw [hc, Outcome.prepend_calls] at h
      unfold commitDecision at h
      split at h
      · split_ifs at h <;> simpa [joinPrepared] using h
      all_goals simpa [joinPrepared] using h
    · simpa [hc, joinPrepared, abortCalls] using h
    · simpa [hc, joinPrepared] using h
  · simp [commit_of_not_running hs] at h

/-- A commit of a running transaction first sends every participant range its prepare. -/
theorem commit_calls_of_running {ans : Answers} {tx : Transaction} (hs : tx.state = .running) :
    ∃ rest, (commit ans tx).calls = prepareCalls tx ++ rest := by
  rcases @commit_cases ans _ hs with ⟨-, hc⟩ | ⟨epoch, -, -, hc⟩ |
      ⟨_, _, _, _, -, -, -, ⟨-, hc⟩ | ⟨-, hc⟩⟩ <;> simp [hc]

theorem prepare_mem_commit_of_participant {ans : Answers} {tx : Transaction}
    (hs : tx.state = .running) {r : FullRangeId} (hr : r ∈ tx.participantRanges) :
    ∃ req, .prepareTransaction r req ∈ (commit ans tx).calls := by
  obtain ⟨p, hp⟩ := Option.isSome_iff_exists.mp (AList.lookup_isSome.mpr hr)
  obtain ⟨rest, hc⟩ := @commit_calls_of_running ans _ hs
  exact ⟨_, hc ▸ List.mem_append_left rest (mem_prepareCalls.mpr ⟨p, hp, rfl⟩)⟩

/-- **What `commit` sends each range is the summary of the history.** In every live
configuration the buffers are that summary; a `commit` of the running transaction sends
every participant range a prepare request; and a prepare request sent to a range `r`
carries, once each, the keys whose last write buffered on `r` was a `put` with its value,
the keys whose last write there was a `del`, and whether a `get` read from `r`. -/
theorem prepare_request_is_history_summary (k : Constants) (c : Config) (h : Reachable k c)
    (hp : c.panicked = false) :
    BufferInv c.tx c.history ∧
      (c.tx.state = .running → ∀ (ans : Answers), ∀ r ∈ c.tx.participantRanges,
        ∃ req, .prepareTransaction r req ∈ (commit ans c.tx).calls) ∧
      ∀ (ans : Answers) (r : FullRangeId) (req : PrepareRequest),
        .prepareTransaction r req ∈ (commit ans c.tx).calls →
        (req.writes.map Record.key).Nodup ∧
        (∀ key val, (⟨key, val⟩ : Record) ∈ req.writes ↔
          lastWrite r key c.history = some (some val)) ∧
        (∀ key, key ∈ req.deletes ↔ lastWrite r key c.history = some none) ∧
        (req.hasReads = true ↔ ∃ s ∈ c.history, ∃ key, s.ReadFrom r key) := by
  have hinv := h.bufferInv hp
  refine ⟨hinv, fun hs _ _ hr => prepare_mem_commit_of_participant hs hr, fun ans r req hm => ?_⟩
  obtain ⟨p, hl, rfl⟩ := mem_prepareCalls.mp (mem_prepareCalls_of_mem_commit hm)
  have hpart : c.tx.participant r = p := by simp [Transaction.participant, hl]
  refine ⟨prepareRequest_writes_nodup p, fun key val => ?_, fun key => ?_, ?_⟩
  · rw [prepareRequest_mem_writes, ← hpart, hinv.writeset, Option.join_eq_some]
  · rw [prepareRequest_mem_deletes, ← hpart, hinv.deleteset]
  · simp only [prepareRequest_hasReads, ← hpart, hinv.readset]
    exact ⟨fun ⟨key, s, hs, hr⟩ => ⟨s, hs, key, hr⟩, fun ⟨s, hs, key, hr⟩ => ⟨key, s, hs, hr⟩⟩

/-- One `put` routed to a range: a `commit` then sends the range a prepare request that
writes the key and value of the `put`, which is the last write the history buffered
there. -/
theorem prepare_request_is_history_summary_after_put :
    Reachable ⟨0, 0⟩ ((Config.init 0).step ⟨0, 0⟩ (.put ⟨"", ""⟩ [] [1])
        (.routing ⟨1⟩ ⟨⟨1⟩, 2⟩)) ∧
      ((Config.init 0).step ⟨0, 0⟩ (.put ⟨"", ""⟩ [] [1]) (.routing ⟨1⟩ ⟨⟨1⟩, 2⟩)).panicked = false ∧
      (∃ req, .prepareTransaction ⟨⟨1⟩, 2⟩ req ∈ (commit (.committing 1) ((Config.init 0).step
        ⟨0, 0⟩ (.put ⟨"", ""⟩ [] [1]) (.routing ⟨1⟩ ⟨⟨1⟩, 2⟩)).tx).calls) ∧
      .prepareTransaction ⟨⟨1⟩, 2⟩ ⟨false, [⟨[], [1]⟩], []⟩ ∈ (commit (.committing 1)
        ((Config.init 0).step ⟨0, 0⟩ (.put ⟨"", ""⟩ [] [1]) (.routing ⟨1⟩ ⟨⟨1⟩, 2⟩)).tx).calls ∧
      ∀ key val, (⟨key, val⟩ : Record) ∈ [⟨[], [1]⟩] ↔ lastWrite ⟨⟨1⟩, 2⟩ key
        ((Config.init 0).step ⟨0, 0⟩ (.put ⟨"", ""⟩ [] [1]) (.routing ⟨1⟩ ⟨⟨1⟩, 2⟩)).history =
          some (some val) :=
  have h : Reachable ⟨0, 0⟩ ((Config.init 0).step ⟨0, 0⟩ (.put ⟨"", ""⟩ [] [1])
      (.routing ⟨1⟩ ⟨⟨1⟩, 2⟩)) := .step _ _ (.init 0)
  have hsum := prepare_request_is_history_summary ⟨0, 0⟩ _ h rfl
  have hm : .prepareTransaction ⟨⟨1⟩, 2⟩ ⟨false, [⟨[], [1]⟩], []⟩ ∈ (commit (.committing 1)
      ((Config.init 0).step ⟨0, 0⟩ (.put ⟨"", ""⟩ [] [1]) (.routing ⟨1⟩ ⟨⟨1⟩, 2⟩)).tx).calls := by
    decide
  ⟨h, rfl, hsum.2.1 rfl _ _ (by decide), hm, (hsum.2.2 _ _ _ hm).2.1⟩

/-! ### Reading one's own writes -/

/-- A range the transaction holds something for is a participant already. -/
theorem Transaction.touch_of_participant_ne_fresh {tx : Transaction} {r : FullRangeId}
    (h : tx.participant r ≠ .fresh) : tx.touch r = tx := by
  unfold Transaction.touch
  split_ifs with hm
  · rfl
  · exact absurd (by simp [Transaction.participant, AList.lookup_eq_none.mpr hm]) h

/-- **A `get` routed to the range that buffered the last write of its key answers from the
buffer.** It returns the value of that `put`, or nothing after a `del`, with no call but
the lookups of its key, and leaves every participant range as it was. -/
theorem get_reads_own_write (k : Constants) (c : Config) (h : Reachable k c)
    (hp : c.panicked = false) (r : FullRangeId) (key : Bytes) (w : Option Bytes)
    (hw : lastWrite r key c.history = some w) (ks : Keyspace) (ans : Answers)
    (hr : ans.fullRangeIdOfKey = some r) (val : Option Bytes)
    (hget : (get k ans ks key c.tx).ret = .ok val) :
    val = w ∧ (∀ ev ∈ (get k ans ks key c.tx).calls, ev.isLookup = true) ∧
      (get k ans ks key c.tx).tx.participantRanges = c.tx.participantRanges := by
  have hinv := h.bufferInv hp
  rcases get_cases k ans ks key c.tx with ⟨-, hg⟩ | ⟨-, cache, calls, hres, ⟨r0, hr0, -, hg⟩ | ⟨ret, hret, -, hg⟩⟩
  · simp [hg] at hget
  · obtain rfl : r0 = r := Option.some.inj (hr0.symm.trans hr)
    have hbuf : readYourWrites k ans r0 key (c.tx.withCache cache) =
        ⟨c.tx.withCache cache, [], .ok w⟩ := by
      have hl : (c.tx.participant r0).writeset.lookup key = w := by
        rw [hinv.writeset, hw]
        rfl
      cases w with
      | some v =>
        rw [readYourWrites_of_written (by simpa using hl), Transaction.touch_of_participant_ne_fresh]
        intro hf
        rw [Transaction.participant_withCache] at hf
        simp [hf, ParticipantRange.fresh] at hl
      | none =>
        have hd : key ∈ (c.tx.participant r0).deleteset := (hinv.deleteset r0 key).mpr hw
        rw [readYourWrites_of_deleted (by simpa using hl) (by simpa using hd),
          Transaction.touch_of_participant_ne_fresh]
        intro hf
        rw [Transaction.participant_withCache] at hf
        simp [hf, ParticipantRange.fresh] at hd
    rw [hg, hbuf] at hget ⊢
    simp only [Outcome.prepend_mk, Ret.ok.injEq, List.append_nil] at hget ⊢
    exact ⟨hget.symm, hres.isLookup, rfl⟩
  · rw [hg] at hget
    subst hget
    exact hret.elim

/-- One `put` and then a `get` of the same key routed to the same range: the `get` returns
the value written, from the buffer. -/
theorem get_reads_own_write_after_put :
    Reachable ⟨0, 0⟩ ((Config.init 0).step ⟨0, 0⟩ (.put ⟨"", ""⟩ [] [1])
        (.routing ⟨1⟩ ⟨⟨1⟩, 2⟩)) ∧
      ((Config.init 0).step ⟨0, 0⟩ (.put ⟨"", ""⟩ [] [1]) (.routing ⟨1⟩ ⟨⟨1⟩, 2⟩)).panicked = false ∧
      lastWrite ⟨⟨1⟩, 2⟩ [] ((Config.init 0).step ⟨0, 0⟩ (.put ⟨"", ""⟩ [] [1])
        (.routing ⟨1⟩ ⟨⟨1⟩, 2⟩)).history = some (some [1]) ∧
      (get ⟨0, 0⟩ (.routing ⟨1⟩ ⟨⟨1⟩, 2⟩) ⟨"", ""⟩ [] ((Config.init 0).step ⟨0, 0⟩
        (.put ⟨"", ""⟩ [] [1]) (.routing ⟨1⟩ ⟨⟨1⟩, 2⟩)).tx).ret = .ok (some [1]) ∧
      (∀ ev ∈ (get ⟨0, 0⟩ (.routing ⟨1⟩ ⟨⟨1⟩, 2⟩) ⟨"", ""⟩ [] ((Config.init 0).step ⟨0, 0⟩
        (.put ⟨"", ""⟩ [] [1]) (.routing ⟨1⟩ ⟨⟨1⟩, 2⟩)).tx).calls, ev.isLookup = true) :=
  ⟨.step _ _ (.init 0), rfl, rfl, rfl, (get_reads_own_write ⟨0, 0⟩ _
    (.step (.put ⟨"", ""⟩ [] [1]) (.routing ⟨1⟩ ⟨⟨1⟩, 2⟩) (.init 0)) rfl ⟨⟨1⟩, 2⟩ [] (some [1]) rfl
    ⟨"", ""⟩ (.routing ⟨1⟩ ⟨⟨1⟩, 2⟩) rfl (some [1]) rfl).2.1⟩

/-! ### Read-your-writes whatever the routing -/

/-- The write a step made to `key` in keyspace `ks`, wherever the key was routed: that of
a `put` or `del` of `key` in `ks` that returned. -/
def StepRecord.writeInKeyspace (ks : Keyspace) (key : Bytes) (s : StepRecord) :
    Option (Option Bytes) :=
  if s.ret.isOk = true ∧ s.op.keyspace = some ks then s.op.writeOf key else none

/-- The last successful `put` or `del` of `key` in keyspace `ks`, wherever it was routed. -/
def lastWriteInKeyspace (ks : Keyspace) (key : Bytes) (history : List StepRecord) :
    Option (Option Bytes) :=
  (history.filterMap (StepRecord.writeInKeyspace ks key)).getLast?

/-- Read-your-writes as the spec states it, for any answers of the oracle: after the last
successful `put` (or `del`) of a key in a keyspace, every successful `get` of it returns the
value written (or nothing), sends no read to a range server, and changes no read set and no
leader sequence number. -/
def ReadsOwnWritesForAnyRouting (k : Constants) : Prop :=
  ∀ c, Reachable k c → c.panicked = false → ∀ ks key w, lastWriteInKeyspace ks key c.history = some w →
    ∀ ans val, (get k ans ks key c.tx).ret = .ok val →
      val = w ∧ (∀ ev ∈ (get k ans ks key c.tx).calls, ∀ r keys answer, ev ≠ .get r keys answer) ∧
      ∀ r, ((get k ans ks key c.tx).tx.participant r).readset = (c.tx.participant r).readset ∧
        ((get k ans ks key c.tx).tx.participant r).leaderSequenceNumber =
          (c.tx.participant r).leaderSequenceNumber

/-- **Read-your-writes fails when the oracle routes the key elsewhere**, whatever the
sentinels: after a `put` of `[] ↦ [1]` routed to one range, a `get` of `[]` routed to
another range reads it from that range, which reports nothing. -/
theorem get_after_put_elsewhere_reads_range : ¬ ∃ k, ReadsOwnWritesForAnyRouting k := by
  rintro ⟨k, hk⟩
  have hfresh : ((Config.init 0).step k (.put ⟨"", ""⟩ [] [1])
      (.routing ⟨1⟩ ⟨⟨1⟩, 2⟩)).tx.participant ⟨⟨1⟩, 3⟩ = .fresh := rfl
  have hget : (get k { Answers.routing ⟨1⟩ ⟨⟨1⟩, 3⟩ with get := some ⟨[none], 0⟩ } ⟨"", ""⟩ []
      ((Config.init 0).step k (.put ⟨"", ""⟩ [] [1]) (.routing ⟨1⟩ ⟨⟨1⟩, 2⟩)).tx).ret =
      .ok none := by
    rw [@get_of_cached k { Answers.routing ⟨1⟩ ⟨⟨1⟩, 3⟩ with get := some ⟨[none], 0⟩ } ⟨"", ""⟩ []
        ((Config.init 0).step k (.put ⟨"", ""⟩ [] [1]) (.routing ⟨1⟩ ⟨⟨1⟩, 2⟩)).tx ⟨1⟩ ⟨⟨1⟩, 3⟩
        rfl rfl rfl, Outcome.prepend_ret,
      readYourWrites_of_unbuffered (by rw [hfresh]; rfl) (by rw [hfresh]; decide),
      readFromRange_of_leader_kept rfl (by
        rw [Transaction.participant_touch, hfresh]
        simp only [ParticipantRange.observe, ParticipantRange.fresh, pinLeaderSequenceNumber_zero]
        rfl)]
    rfl
  obtain ⟨hval, -⟩ := hk _ (.step (.put ⟨"", ""⟩ [] [1]) (.routing ⟨1⟩ ⟨⟨1⟩, 2⟩) (.init 0)) rfl
    ⟨"", ""⟩ [] (some [1]) rfl _ none hget
  exact absurd hval (by simp)

end AtomixCoordinator
