/-
An observation that is already stored and is recorded once more.  It is
answered with its snapshot and writes nothing new exactly while no snapshot
observed later says something else.
-/
import ShemaPlatform.ChangeLog

namespace ShemaPlatform

open Calendar ReadCommitted ReadCommitted.Prog StateRun

namespace ObservationReplay

section Replays

variable (sha256 uuid5 : String → String) (rows : MonitoringRows)

/-- Nothing has been observed of any counterparty. -/
structure Unobserved : Prop where
  keyed : ∀ {monitorId monitor}, monitorAt rows monitorId = some monitor →
    monitor.monitorId = monitorId
  snapshots : ∀ snapshotId, snapshotAt rows snapshotId = none
  pairs : ∀ monitorId before after, pairAt rows monitorId before after = none
  unused : ∀ monitorId key : String,
    recordAt rows s!"counterparty.observation:{monitorId}:{key}" = none

/-- Rows that calls lead to, each with a new id for its change event. -/
structure Reached : Prop where
  calls : ∃ start calls, Unobserved start ∧
    Along (fun rows call => ObservationCall.after sha256 uuid5 rows call)
      ObservationCall.Fresh start calls ∧
    rows = calls.foldl (fun rows call => call.after sha256 uuid5 rows) start

/-- A call of the monitor's actor whose observation is already stored. -/
structure Again (call : ObservationCall) (monitor : CounterpartyMonitor)
    (stored : CounterpartySnapshot) : Prop where
  authorized : call.authorize = .ok ()
  found : monitorAt rows call.monitorId = some monitor
  actor : monitor.actorId = call.actorId
  identifierType : call.observation.identifierType = monitor.identifierType
  identifier : PyText.strip call.observation.identifier = monitor.identifier
  kept : ∃ snapshotId, snapshotAt rows snapshotId = some stored
  monitorId : stored.monitorId = call.monitorId
  observedAt : stored.observedAt = call.observation.observedAt
  payload : stored.payload = call.observation.payload

/-- The call returns the stored snapshot and adds nothing beside it. -/
def Safe (call : ObservationCall) (stored : CounterpartySnapshot) : Prop :=
  ∃ rows', (call.record sha256 uuid5).atomically (fun _ => false) rows =
      .ok (stored, rows') ∧
    snapshotAt rows' = snapshotAt rows ∧ changeAt rows' = changeAt rows ∧
    outboxAt rows' = outboxAt rows

/-- The key was answered with this snapshot; or it is new, and the snapshot
observed last has the same payload. -/
def Undisturbed (call : ObservationCall) (stored : CounterpartySnapshot) : Prop :=
  match call.key.bind fun key => recordAt rows (call.reservationKey key) with
  | some record => record.requestHash = call.observationHash sha256 ∧
      record.resultRef = stored.snapshotId
  | none => ∀ latest ∈ MonitoringRepository.latestSnapshot rows call.monitorId,
      latest.payload = stored.payload

/-- What holds of the rows between calls. -/
structure Indexed : Prop where
  keyed : ∀ {monitorId monitor}, monitorAt rows monitorId = some monitor →
    monitor.monitorId = monitorId
  named : ∀ {snapshotId snapshot}, snapshotAt rows snapshotId = some snapshot →
    snapshot.snapshotId = snapshotId ∧ PyText.startsWith snapshotId "cps:" = true
  content : ∀ {snapshotId snapshot}, snapshotAt rows snapshotId = some snapshot →
    contentAt rows snapshot.monitorId snapshot.observedAt
      (snapshotPayloadHash sha256 snapshot.payload) = some snapshotId
  answered : ∀ {monitorId key : String} {record},
    recordAt rows s!"counterparty.observation:{monitorId}:{key}" = some record →
    PyText.startsWith record.resultRef "pending:" = false
  sent : ∀ monitorId, CounterpartyChangeLog.Sent uuid5 monitorId rows

end Replays

variable {sha256 uuid5 : String → String} {rows : MonitoringRows}
  {call : ObservationCall} {monitor : CounterpartyMonitor}
  {stored : CounterpartySnapshot}

theorem Unobserved.indexed (h : Unobserved rows) : Indexed sha256 uuid5 rows := by
  constructor
  · exact h.keyed
  · intro snapshotId snapshot hsnapshot
    simp [h.snapshots] at hsnapshot
  · intro snapshotId snapshot hsnapshot
    simp [h.snapshots] at hsnapshot
  · intro monitorId key record hrecord
    rw [h.unused] at hrecord
    cases hrecord
  · intro monitorId
    constructor
    intro before after changeId hpair
    simp [h.pairs] at hpair

theorem Indexed.keep {writes : ObservationCall.Writes}
    (hindexed : Indexed sha256 uuid5 rows)
    (hkeeps : call.Keeps sha256 uuid5 rows monitor stored writes)
    (hfresh : call.Fresh rows) :
    Indexed sha256 uuid5 (writes.all call monitor stored ++ rows) := by
  constructor
  · intro monitorId found hfound
    replace hfound := (hkeeps.get_eq (.monitor monitorId)).symm.trans hfound
    replace hfound := (monitorAt_monitor _ _ _ _).symm.trans hfound
    split_ifs at hfound with hsame
    · obtain rfl := Option.some.inj hfound
      subst hsame
      have hmonitorId : monitor.monitorId = call.monitorId := hindexed.keyed hkeeps.found
      exact hmonitorId
    · exact hindexed.keyed hfound
  · intro snapshotId snapshot hsnapshot
    rcases hkeeps.snapshotAt_cases hsnapshot with hold | ⟨rfl, rfl, _⟩
    · exact hindexed.named hold
    · exact ⟨rfl, PyText.startsWith_append _ _⟩
  · intro snapshotId snapshot hsnapshot
    refine (hkeeps.get_eq (.snapshotContent _ _ _)).trans ?_
    rcases hkeeps.snapshotAt_cases hsnapshot with hold | ⟨_, _, hkept⟩
    · have hcontent := hindexed.content hold
      rcases hkeeps.stores.added_or_found with ⟨hnew, _, _, hkept⟩ | ⟨_, _, _, hkept⟩
      · rw [hkept]
        refine (contentAt_snapshot _ _ _ _ _ _).trans
          (((contentAt_content _ _ _ _ _ _ _ _).trans (if_neg ?_)).trans hcontent)
        rintro ⟨hmonitor, hobserved, hhash⟩
        rw [hmonitor, hobserved, hhash, hcontent] at hnew
        cases hnew
      · rw [hkept]
        exact hcontent
    · rw [hkept]
      exact (contentAt_snapshot _ _ _ _ _ _).trans
        ((contentAt_content _ _ _ _ _ _ _ _).trans (if_pos ⟨rfl, rfl, rfl⟩))
  · intro monitorId key record hrecord
    replace hrecord := (hkeeps.get_eq (.idempotencyKey _)).symm.trans hrecord
    by_cases hused : call.key.map call.reservationKey =
        some s!"counterparty.observation:{monitorId}:{key}"
    · obtain ⟨own, hkey, hreserved⟩ := Option.map_eq_some_iff.mp hused
      obtain ⟨completed, hcompleted, _, href⟩ := hkeeps.recorded own hkey
      rw [hreserved] at hcompleted
      obtain rfl := Option.some.inj (hcompleted.symm.trans hrecord)
      rw [href]
      apply not_pending_of_cps
      rcases hkeeps.stores.added_or_found with ⟨_, _, rfl, _⟩ | ⟨_, _, hstored, _⟩
      · exact PyText.startsWith_append _ _
      · obtain ⟨rfl, hcps⟩ := hindexed.named hstored
        exact hcps
    · exact hindexed.answered ((hkeeps.other _ hused).symm.trans hrecord)
  · intro monitorId
    exact (hindexed.sent monitorId).keep (hindexed.sent call.monitorId) hkeeps hfresh

/-- A call keeps what holds of the rows, whether it is accepted or refused. -/
theorem Indexed.after (hindexed : Indexed sha256 uuid5 rows) (hfresh : call.Fresh rows) :
    Indexed sha256 uuid5 (call.after sha256 uuid5 rows) := by
  unfold ObservationCall.after
  split
  · rename_i result rows' haccepted
    rcases ObservationCall.record_atomically haccepted with ⟨rfl, _⟩ |
      ⟨monitor, writes, rfl, hkeeps⟩
    · exact hindexed
    · exact hindexed.keep hkeeps hfresh
  · exact hindexed

theorem Reached.indexed (h : Reached sha256 uuid5 rows) : Indexed sha256 uuid5 rows := by
  obtain ⟨start, calls, hstart, hfresh, rfl⟩ := h.calls
  have hfirst : Indexed sha256 uuid5 start := hstart.indexed
  apply (throughout_of_step _ hfirst hfresh).last
  intro rows call hindexed hfresh
  exact hindexed.after hfresh

section Answers

variable {locked : LockedItems} {own : MonitoringRows}

theorem toSnapshot_new (observation : CounterpartyObservation) {monitorId : String}
    (hmonitor : PyText.blank monitorId = false) :
    (observation.toSnapshot sha256 monitorId).new sha256 =
      .ok (observation.toSnapshot sha256 monitorId) := by
  have hid : PyText.blank (observation.toSnapshot sha256 monitorId).snapshotId =
      false :=
    PyText.blank_of_startsWith (PyText.startsWith_append "cps:" _) (by decide)
  have hversion : PyText.blank "authoritative-counterparty:v1" = false := by decide
  have hhash : snapshotPayloadHash sha256 (observation.toSnapshot sha256
      monitorId).payload = (observation.toSnapshot sha256 monitorId).payloadHash := rfl
  refine bind_eq_ok.mpr ⟨(), require_eq_ok.mpr ?_, bind_eq_ok.mpr ⟨(),
    require_eq_ok.mpr ?_, bind_eq_ok.mpr ⟨(), require_eq_ok.mpr ?_, rfl⟩⟩⟩
  · rw [hid]
    simp [CounterpartyObservation.toSnapshot, hmonitor]
  · simp [CounterpartyObservation.toSnapshot, observation.valid.1, hversion]
  · rw [hhash, beq_self_eq_true]

/-- An observation that matches its monitor can be kept. -/
theorem snapshotFromObservation_ok {observation : CounterpartyObservation}
    (htype : observation.identifierType = monitor.identifierType)
    (hidentifier : PyText.strip observation.identifier = monitor.identifier) :
    snapshotFromObservation sha256 monitor observation =
      .ok (observation.toSnapshot sha256 monitor.monitorId) := by
  refine bind_eq_ok.mpr ⟨(), require_eq_ok.mpr ?_, bind_eq_ok.mpr ⟨(),
    require_eq_ok.mpr ?_, toSnapshot_new observation monitor.valid.1⟩⟩
  · rw [htype, beq_self_eq_true]
  · rw [hidentifier, beq_self_eq_true]

/-- A key that was answered with a snapshot is answered with it again. -/
theorem replayed_again {snapshot : CounterpartySnapshot} {key : String}
    {record : IdempotencyRecord} (hkey : call.key = some key)
    (hrecord : recordAt (own ++ rows) (call.reservationKey key) = some record)
    (hhash : record.requestHash = call.observationHash sha256)
    (hcps : PyText.startsWith record.resultRef "cps:" = true)
    (hstored : snapshotAt (own ++ rows) record.resultRef = some stored) :
    (call.replayed sha256 snapshot).execute locked rows own =
      .ok (some stored, own) := by
  have hanswered := not_pending_of_cps hcps
  have hother : record.resultRef ≠ "pending:" ++ snapshot.snapshotId := by
    intro hpending
    rw [hpending, PyText.startsWith_append] at hanswered
    cases hanswered
  unfold ObservationCall.replayed
  rw [hkey]
  simp only [execute_bind_eq_ok]
  refine ⟨record, own, MonitoringIdempotency.reserve_eq_ok.mpr
    (Or.inr ⟨hrecord, hhash, rfl⟩), ?_⟩
  rw [if_neg hother]
  simp only [execute_bind_eq_ok, execute_lift_eq_ok, require_eq_ok,
    MonitoringRepository.getSnapshot, execute_select_eq_ok]
  exact ⟨(), own, ⟨by simp [hanswered], rfl⟩, some stored, own,
    ⟨hstored.symm, rfl⟩, rfl⟩

/-- A new key, or none, is reserved. -/
theorem replayed_first {snapshot : CounterpartySnapshot}
    (hunused : call.key.bind (fun key =>
      recordAt rows (call.reservationKey key)) = none) :
    ∃ reserved, (call.replayed sha256 snapshot).execute locked rows [] =
        .ok (none, reserved) ∧
      call.Reserves sha256 rows reserved ("pending:" ++ snapshot.snapshotId) := by
  have hreplayed : ∃ reserved, (call.replayed sha256 snapshot).execute locked rows [] =
      .ok (none, reserved) := by
    unfold ObservationCall.replayed
    cases hkey : call.key with
    | none => exact ⟨[], rfl⟩
    | some key =>
        rw [hkey, Option.bind_some] at hunused
        let record : IdempotencyRecord := ⟨call.reservationKey key,
          call.observationHash sha256, "pending:" ++ snapshot.snapshotId⟩
        have hreserve : (MonitoringIdempotency.reserve (call.reservationKey key)
            (call.observationHash sha256) ("pending:" ++ snapshot.snapshotId)).execute
            locked rows [] = .ok (record, [⟨MonitoringKey.idempotencyKey
              (call.reservationKey key), some record⟩]) :=
          MonitoringIdempotency.reserve_eq_ok.mpr (Or.inl ⟨hunused, rfl, rfl⟩)
        refine ⟨[⟨MonitoringKey.idempotencyKey (call.reservationKey key),
          some record⟩], execute_bind_eq_ok.mpr ⟨record, _, hreserve, ?_⟩⟩
        rw [if_pos rfl]
        rfl
  obtain ⟨reserved, hreserved⟩ := hreplayed
  rcases ObservationCall.replayed_eq_ok hreserved with ⟨_, hnone, _⟩ |
    ⟨_, written, hwritten, hreserves⟩
  · cases hnone
  · rw [List.append_nil] at hwritten
    subst hwritten
    exact ⟨reserved, hreserved, hreserves⟩

/-- Nothing is announced of a payload that stays. -/
theorem announce_quiet {before : CounterpartySnapshot}
    (hmonitor : before.monitorId = stored.monitorId)
    (hpayload : before.payload = stored.payload) :
    (call.announce uuid5 stored (some before)).execute locked rows own =
      .ok ((), own) := by
  have hdetect : detectCounterpartyChanges before stored = .ok ([], .info) := by
    have hdiff := (PatchLog.diff_eq_nil_iff PayloadField.mem_sorted).mpr hpayload
    simp [detectCounterpartyChanges, require, hmonitor, hdiff, changeSeverity]
  simp [ObservationCall.announce, hdetect, execute_bind_eq_ok]

/-- A pending record is completed. -/
theorem complete_pending {key requestHash resultRef : String}
    {record : IdempotencyRecord} (hnonblank : PyText.blank resultRef = false)
    (hrecord : recordAt (own ++ rows) key = some record)
    (hhash : record.requestHash = requestHash)
    (hpending : PyText.startsWith record.resultRef "pending:" = true) :
    ∃ completed, (MonitoringIdempotency.complete key requestHash resultRef).execute
      locked rows own = .ok ({ record with resultRef := resultRef }, completed) := by
  subst hhash
  have hlocked : Rows.get (own ++ rows) (MonitoringKey.idempotencyKey key) =
      some record := hrecord
  refine ⟨⟨MonitoringKey.idempotencyKey key, some { record with resultRef }⟩ ::
    ⟨MonitoringKey.idempotencyKey key, some record⟩ :: own, ?_⟩
  simp only [MonitoringIdempotency.complete, execute_bind_eq_ok, execute_lift_eq_ok,
    require_eq_ok, execute_selectForUpdate_eq_ok]
  refine ⟨(), own, ⟨by rw [hnonblank]; rfl, rfl⟩, some record, _,
    ⟨hlocked.symm, rfl⟩, ?_⟩
  simp [hpending, execute_bind_eq_ok, execute_updateWhere, execute_lift_eq_ok]

theorem complete_reserved
    (hcps : PyText.startsWith stored.snapshotId "cps:" = true)
    (hreserved : ∀ key, call.key = some key → ∃ record,
      recordAt (own ++ rows) (call.reservationKey key) = some record ∧
        record.requestHash = call.observationHash sha256 ∧
        PyText.startsWith record.resultRef "pending:" = true) :
    ∃ completed, (call.complete sha256 stored).execute locked rows own =
      .ok ((), completed) := by
  unfold ObservationCall.complete
  cases hkey : call.key with
  | none => exact ⟨own, rfl⟩
  | some key =>
      obtain ⟨record, hrecord, hhash, hpending⟩ := hreserved key hkey
      have hnonblank : PyText.blank stored.snapshotId = false :=
        PyText.blank_of_startsWith hcps (by decide)
      obtain ⟨completed, hcompleted⟩ := complete_pending hnonblank hrecord hhash hpending
      exact ⟨completed, execute_bind_eq_ok.mpr ⟨_, completed, hcompleted, rfl⟩⟩

/-- An observation that is stored is kept as it is, when its payload is the
one observed last. -/
theorem keep_again {reserved : MonitoringRows} (hindexed : Indexed sha256 uuid5 rows)
    (hagain : Again rows call monitor stored)
    (hreserves : call.Reserves sha256 rows reserved ("pending:" ++
      (call.observation.toSnapshot sha256 monitor.monitorId).snapshotId))
    (hlast : ∀ latest ∈ MonitoringRepository.latestSnapshot rows call.monitorId,
      latest.payload = stored.payload) :
    ∃ own, (call.keep sha256 uuid5 monitor (call.observation.toSnapshot sha256
      monitor.monitorId)).execute locked rows reserved = .ok (stored, own) := by
  obtain ⟨snapshotId, hstored⟩ := hagain.kept
  obtain ⟨rfl, hcps⟩ := hindexed.named hstored
  obtain ⟨latest, hlatest⟩ :=
    MonitoringRepository.latestSnapshot_isSome hstored hagain.monitorId
  obtain ⟨_, _, hmonitor⟩ := MonitoringRepository.latestSnapshot_mem hlatest
  have hbelow : ∀ key : MonitoringKey, key.table ≠ .idempotency →
      Rows.get (reserved ++ rows) key = rows.get key :=
    fun key hkey => hreserves.within.get_append rows hkey
  have hcontent := hindexed.content hstored
  rw [hagain.monitorId, hagain.observedAt, hagain.payload,
    ← hindexed.keyed hagain.found] at hcontent
  have hadd : (MonitoringRepository.addSnapshot (call.observation.toSnapshot sha256
      monitor.monitorId)).execute locked rows reserved = .ok (stored, reserved) :=
    MonitoringRepository.addSnapshot_eq_ok.mpr (Or.inr ⟨stored.snapshotId,
      (hbelow _ (by simp)).trans hcontent, (hbelow _ (by simp)).trans hstored, rfl⟩)
  have hset : (MonitoringRepository.setLastSnapshot call.monitorId stored.snapshotId
      call.now (call.now + seconds monitor.frequencySeconds)).execute locked rows
      reserved = .ok ((), ⟨MonitoringKey.monitor call.monitorId,
        some (call.checked stored monitor)⟩ :: reserved) :=
    MonitoringRepository.setLastSnapshot_eq_ok.mpr
      ⟨monitor, (hbelow _ (by simp)).trans hagain.found, rfl⟩
  obtain ⟨completed, hcompleted⟩ : ∃ completed, (call.complete sha256 stored).execute
      locked rows (⟨MonitoringKey.monitor call.monitorId,
        some (call.checked stored monitor)⟩ :: reserved) = .ok ((), completed) := by
    apply complete_reserved hcps
    intro key hkey
    obtain ⟨record, hrecord, hhash, href⟩ := hreserves.reserved key hkey
    refine ⟨record, ?_, hhash, ?_⟩
    · exact (Rows.get_cons_ne (by simp) _ _).trans hrecord
    · rw [href]
      exact PyText.startsWith_append _ _
  refine ⟨completed, ?_⟩
  simp only [ObservationCall.keep, execute_bind_eq_ok]
  refine ⟨some latest, reserved, ?_, stored, reserved, hadd, (), _, hset, (), _,
    announce_quiet (hmonitor.trans hagain.monitorId.symm) (hlast latest hlatest),
    (), completed, hcompleted, rfl⟩
  simp only [MonitoringRepository.getLatestSnapshot, scan, execute]
  rw [MonitoringRepository.latestSnapshot_append hreserves.within (by decide), hlatest]

variable (locked) in
/-- A stored observation is answered with its snapshot while it is undisturbed. -/
theorem record_again (hindexed : Indexed sha256 uuid5 rows)
    (hagain : Again rows call monitor stored)
    (hundisturbed : Undisturbed sha256 rows call stored) :
    ∃ own, (call.record sha256 uuid5).execute locked rows [] = .ok (stored, own) := by
  have hfound : (MonitoringRepository.getMonitorForActor call.monitorId
      call.actorId).execute locked rows [] = .ok (some monitor, []) := by
    have hselected : rows.get (MonitoringKey.monitor call.monitorId) = some monitor :=
      hagain.found
    simp [MonitoringRepository.getMonitorForActor, MonitoringRepository.getMonitor,
      execute_bind_eq_ok, hselected, Option.filter, hagain.actor]
  have hsnapshot : snapshotFromObservation sha256 monitor call.observation =
      .ok (call.observation.toSnapshot sha256 monitor.monitorId) :=
    snapshotFromObservation_ok hagain.identifierType hagain.identifier
  obtain ⟨snapshotId, hstored⟩ := hagain.kept
  obtain ⟨rfl, hcps⟩ := hindexed.named hstored
  have hreach : ∀ {result between own},
      (call.replayed sha256 (call.observation.toSnapshot sha256
        monitor.monitorId)).execute locked rows [] = .ok (result, between) →
      (result.elim (call.keep sha256 uuid5 monitor (call.observation.toSnapshot sha256
        monitor.monitorId)) Pure.pure).execute locked rows between = .ok (stored, own) →
      (call.record sha256 uuid5).execute locked rows [] = .ok (stored, own) := by
    intro result between own hreplayed hrest
    refine execute_bind_eq_ok.mpr ⟨(), [], execute_lift_eq_ok.mpr
      ⟨hagain.authorized, rfl⟩, execute_bind_eq_ok.mpr ⟨some monitor, [], hfound,
        execute_bind_eq_ok.mpr ⟨_, [], execute_lift_eq_ok.mpr ⟨hsnapshot, rfl⟩,
          execute_bind_eq_ok.mpr ⟨result, between, hreplayed, ?_⟩⟩⟩⟩
    cases result with
    | some answer => exact hrest
    | none => exact hrest
  unfold Undisturbed at hundisturbed
  cases hused : call.key.bind fun key => recordAt rows (call.reservationKey key) with
  | some record =>
      obtain ⟨key, hkey, hrecord⟩ := Option.bind_eq_some_iff.mp hused
      rw [hused] at hundisturbed
      obtain ⟨hhash, href⟩ := hundisturbed
      exact ⟨[], hreach (replayed_again hkey hrecord hhash (href ▸ hcps) (href ▸ hstored))
        rfl⟩
  | none =>
      rw [hused] at hundisturbed
      obtain ⟨reserved, hreplayed, hreserves⟩ := replayed_first hused
      obtain ⟨own, hkeep⟩ := keep_again hindexed hagain hreserves hundisturbed
      exact ⟨own, hreach hreplayed hkeep⟩

end Answers

/-- Rows that are kept once more add no snapshot. -/
theorem kept_again {writes : ObservationCall.Writes}
    (hindexed : Indexed sha256 uuid5 rows) (hagain : Again rows call monitor stored)
    {answer : CounterpartySnapshot}
    (hkeeps : call.Keeps sha256 uuid5 rows monitor answer writes) :
    writes.kept = [] := by
  obtain ⟨snapshotId, hstored⟩ := hagain.kept
  have hcontent := hindexed.content hstored
  rw [hagain.monitorId, hagain.observedAt, hagain.payload,
    ← hindexed.keyed hagain.found] at hcontent
  rcases hkeeps.stores.added_or_found with ⟨hnone, _⟩ | ⟨_, _, _, hkept⟩
  · exact absurd (hnone.symm.trans hcontent) (by simp)
  · exact hkept

/-- A key with which an observation is kept was not used before. -/
theorem unused_of_keeps {writes : ObservationCall.Writes}
    (hindexed : Indexed sha256 uuid5 rows)
    (hkeeps : call.Keeps sha256 uuid5 rows monitor stored writes) :
    call.key.bind (fun key => recordAt rows (call.reservationKey key)) = none := by
  cases hkey : call.key with
  | none => rfl
  | some key =>
      rcases hkeeps.reserves.fresh key hkey with hnone | ⟨record, hrecord, href⟩
      · exact hnone
      · have hanswered := hindexed.answered hrecord
        rw [href, PyText.startsWith_append] at hanswered
        cases hanswered

theorem safe_of_undisturbed (hindexed : Indexed sha256 uuid5 rows)
    (hagain : Again rows call monitor stored)
    (hundisturbed : Undisturbed sha256 rows call stored) :
    Safe sha256 uuid5 rows call stored := by
  obtain ⟨own, hrecord⟩ := record_again (fun _ => false) hindexed hagain hundisturbed
  have haccepted := atomically_eq_ok.mpr ⟨own, hrecord, rfl⟩
  refine ⟨own ++ rows, haccepted, ?_⟩
  rcases ObservationCall.record_atomically haccepted with ⟨hsame, _⟩ |
    ⟨found, writes, hwrites, hkeeps⟩
  · rw [hsame]
    exact ⟨rfl, rfl, rfl⟩
  · obtain rfl := Option.some.inj (hkeeps.found.symm.trans hagain.found)
    have hannounced : writes.announced = [] := by
      unfold Undisturbed at hundisturbed
      rw [unused_of_keeps hindexed hkeeps] at hundisturbed
      rcases hkeeps.announces with ⟨hnone, _⟩ | ⟨before, _, hbefore, hchanged, _⟩
      · exact hnone
      · exact absurd (hundisturbed before hbefore) hchanged
    rw [hwrites]
    refine ⟨funext fun snapshotId => (hkeeps.get_eq (.snapshot snapshotId)).trans ?_,
      funext fun changeId => (hkeeps.get_eq (.changeEvent changeId)).trans ?_,
      funext fun eventId => (hkeeps.get_eq (.outboxEvent eventId)).trans ?_⟩
    · rw [kept_again hindexed hagain hkeeps]
      rfl
    · rw [hannounced]
      rfl
    · rw [hannounced]
      rfl

theorem undisturbed_of_safe (hindexed : Indexed sha256 uuid5 rows)
    (hfresh : call.Fresh rows) (hsafe : Safe sha256 uuid5 rows call stored) :
    Undisturbed sha256 rows call stored := by
  obtain ⟨rows', haccepted, _, hchanges, _⟩ := hsafe
  unfold Undisturbed
  rcases ObservationCall.record_atomically haccepted with ⟨rfl, hreplays⟩ |
    ⟨monitor, writes, rfl, hkeeps⟩
  · obtain ⟨key, record, hkey, hrecord, hhash, _, hstored⟩ := hreplays.answered
    obtain ⟨hnamed, _⟩ := hindexed.named hstored
    rw [hkey, Option.bind_some, hrecord]
    exact ⟨hhash, hnamed.symm⟩
  · rw [unused_of_keeps hindexed hkeeps]
    rcases CounterpartyChangeLog.announced_eq hkeeps (hindexed.sent call.monitorId)
      hfresh with ⟨_, hlast⟩ | ⟨before, severity, _, _, hannounced⟩
    · exact hlast
    · -- the new event has an id that no event had
      have hread := congrFun hchanges call.changeId
      rw [hfresh.change] at hread
      replace hread := (hkeeps.get_eq (.changeEvent call.changeId)).symm.trans hread
      rw [hannounced] at hread
      simp [CounterpartyChangeLog.announcement, ObservationCall.eventRows,
        ObservationCall.changeEvent] at hread

/-- From any rows that calls lead to, an observation that is stored is answered
with its snapshot and adds nothing exactly while it is undisturbed. -/
theorem safe_iff_undisturbed (hreached : Reached sha256 uuid5 rows)
    (hagain : Again rows call monitor stored) (hfresh : call.Fresh rows) :
    Safe sha256 uuid5 rows call stored ↔ Undisturbed sha256 rows call stored := by
  have hindexed := hreached.indexed
  constructor
  · intro hsafe
    exact undisturbed_of_safe hindexed hfresh hsafe
  · intro hundisturbed
    exact safe_of_undisturbed hindexed hagain hundisturbed

section Sample

open CounterpartyChangeLog

theorem unobserved_sample : Unobserved monitoredRows := by
  constructor
  · intro monitorId monitor hmonitor
    have hkey := Rows.mem_keys_of_get hmonitor
    simp only [monitoredRows, Rows.keys_cons, Rows.keys_nil, List.mem_singleton,
      MonitoringKey.monitor.injEq] at hkey
    subst hkey
    exact new_sample.keyed hmonitor
  · exact fun _ => rfl
  · exact fun _ _ _ => rfl
  · exact fun _ _ => rfl

def sampleCalls : List ObservationCall :=
  [sampleCall "active" 20 "1", sampleCall "liquidated" 5 "2"]

/-- The rows after an observation and a late one. -/
def sampleRows : MonitoringRows :=
  sampleCalls.foldl (fun rows call => call.after id id rows) monitoredRows

theorem reached_sample : Reached id id sampleRows := by
  refine ⟨monitoredRows, sampleCalls, unobserved_sample, ?_, rfl⟩
  exact ⟨fresh_of_unmentioned (by decide +kernel),
    fresh_of_unmentioned (by decide +kernel), trivial⟩

def sampleSnapshot (legalStatus : String) (observedAt : Instant) :
    CounterpartySnapshot :=
  (sampleObservation legalStatus observedAt).toSnapshot id "monitor-1"

/-- The monitor after the late observation. -/
def sampleChecked : CounterpartyMonitor :=
  (sampleCall "liquidated" 5 "2").checked (sampleSnapshot "liquidated" 5) sampleMonitor

theorem sampleRows_read :
    monitorAt sampleRows "monitor-1" = some sampleChecked ∧
    snapshotAt sampleRows (sampleSnapshot "active" 20).snapshotId =
      some (sampleSnapshot "active" 20) ∧
    snapshotAt sampleRows (sampleSnapshot "liquidated" 5).snapshotId =
      some (sampleSnapshot "liquidated" 5) ∧
    sampleRows.live.any (mentions "3") = false ∧
    ((sampleCall "liquidated" 5 "3").record id id).accepts (fun _ => false)
      sampleRows = false := by
  decide +kernel

theorem again_sample {legalStatus changeId : String} {observedAt : Instant}
    (hstored : snapshotAt sampleRows (sampleSnapshot legalStatus observedAt).snapshotId =
      some (sampleSnapshot legalStatus observedAt)) :
    Again sampleRows (sampleCall legalStatus observedAt changeId) sampleChecked
      (sampleSnapshot legalStatus observedAt) := by
  constructor
  · rfl
  · exact sampleRows_read.1
  · rfl
  · rfl
  · have hidentifier : PyText.strip "7707083893" = "7707083893" := by decide
    exact hidentifier
  · exact ⟨_, hstored⟩
  · rfl
  · rfl
  · rfl

/-- The late observation cannot be recorded again: the event of its change is
in the outbox, with the id of the first call. -/
theorem late_observation_refused :
    Reached id id sampleRows ∧
    Again sampleRows (sampleCall "liquidated" 5 "3") sampleChecked
      (sampleSnapshot "liquidated" 5) ∧
    (sampleCall "liquidated" 5 "3").Fresh sampleRows ∧
    ¬ Safe id id sampleRows (sampleCall "liquidated" 5 "3")
      (sampleSnapshot "liquidated" 5) := by
  obtain ⟨_, _, hstored, hunmentioned, hrefused⟩ := sampleRows_read
  refine ⟨reached_sample, again_sample hstored, fresh_of_unmentioned hunmentioned, ?_⟩
  rintro ⟨rows', haccepted, _⟩
  rw [accepts_eq_true.mpr ⟨_, rows', haccepted⟩] at hrefused
  cases hrefused

theorem safe_iff_undisturbed_sample :
    Safe id id sampleRows (sampleCall "active" 20 "3") (sampleSnapshot "active" 20) ↔
      Undisturbed id sampleRows (sampleCall "active" 20 "3")
        (sampleSnapshot "active" 20) :=
  safe_iff_undisturbed reached_sample (again_sample sampleRows_read.2.1)
    (fresh_of_unmentioned sampleRows_read.2.2.2.1)

end Sample

end ObservationReplay

end ShemaPlatform
