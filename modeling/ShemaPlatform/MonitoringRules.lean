/-
When the statements of the monitoring tables are accepted, and what they
write.
-/
import ShemaPlatform.MonitoringService

namespace ShemaPlatform

open Calendar ReadCommitted ReadCommitted.Prog

/-- Which part of the tables a key belongs to. -/
inductive MonitoringTable where
  | monitors | snapshots | changes | idempotency | batches
deriving DecidableEq

@[simp] def MonitoringKey.table : MonitoringKey → MonitoringTable
  | .monitor _ => .monitors
  | .snapshot _ | .snapshotContent _ _ _ => .snapshots
  | .changeEvent _ | .changePair _ _ _ | .notification _ | .outboxEvent _
  | .auditLog _ => .changes
  | .idempotencyKey _ => .idempotency
  | .batchKey _ | .batch _ | .batchItem _ _ => .batches

/-- Rows of one part of the tables only. -/
abbrev WithinTable (table : MonitoringTable) (own : MonitoringRows) : Prop :=
  own.Only fun key => key.table = table

/-- The id of a snapshot is never taken for a pending reservation. -/
theorem not_pending_of_cps {text : String} (h : PyText.startsWith text "cps:" = true) :
    PyText.startsWith text "pending:" = false :=
  PyText.startsWith_other h (by decide) (by decide)

section Reading

variable (rows : MonitoringRows)

def monitorAt (monitorId : String) : Option CounterpartyMonitor :=
  rows.get (MonitoringKey.monitor monitorId)

def snapshotAt (snapshotId : String) : Option CounterpartySnapshot :=
  rows.get (MonitoringKey.snapshot snapshotId)

/-- The id of the snapshot with this content. -/
def contentAt (monitorId : String) (observedAt : Instant) (payloadHash : String) :
    Option String :=
  rows.get (MonitoringKey.snapshotContent monitorId observedAt payloadHash)

def changeAt (changeId : String) : Option CounterpartyChangeEvent :=
  rows.get (MonitoringKey.changeEvent changeId)

/-- The id of the change event from one snapshot to the other. -/
def pairAt (monitorId before after : String) : Option String :=
  rows.get (MonitoringKey.changePair monitorId before after)

def recordAt (key : String) : Option IdempotencyRecord :=
  rows.get (MonitoringKey.idempotencyKey key)

def outboxAt (eventId : String) : Option OutboxEvent :=
  rows.get (MonitoringKey.outboxEvent eventId)

end Reading

/-- Rows of one part of the tables hide nothing of another. -/
theorem WithinTable.get_append {table : MonitoringTable} {own : MonitoringRows}
    (h : WithinTable table own) (rows : MonitoringRows) {key : MonitoringKey}
    (hkey : key.table ≠ table) : Rows.get (own ++ rows) key = rows.get key :=
  Rows.Only.get_append h hkey rows

@[simp] theorem recordAt_record (rows : MonitoringRows) (key other : String)
    (row : Option IdempotencyRecord) :
    recordAt (⟨MonitoringKey.idempotencyKey key, row⟩ :: rows) other =
      if key = other then row else recordAt rows other := by
  by_cases hsame : key = other
  · subst hsame
    simp [recordAt]
  · simp [recordAt, hsame]

@[simp] theorem monitorAt_monitor (rows : MonitoringRows) (monitorId other : String)
    (row : Option CounterpartyMonitor) :
    monitorAt (⟨MonitoringKey.monitor monitorId, row⟩ :: rows) other =
      if monitorId = other then row else monitorAt rows other := by
  by_cases hsame : monitorId = other
  · subst hsame
    simp [monitorAt]
  · simp [monitorAt, hsame]

@[simp] theorem snapshotAt_snapshot (rows : MonitoringRows) (snapshotId other : String)
    (row : Option CounterpartySnapshot) :
    snapshotAt (⟨MonitoringKey.snapshot snapshotId, row⟩ :: rows) other =
      if snapshotId = other then row else snapshotAt rows other := by
  by_cases hsame : snapshotId = other
  · subst hsame
    simp [snapshotAt]
  · simp [snapshotAt, hsame]

@[simp] theorem snapshotAt_content (rows : MonitoringRows)
    (monitorId payloadHash snapshotId : String) (observedAt : Instant)
    (row : Option String) :
    snapshotAt (⟨MonitoringKey.snapshotContent monitorId observedAt payloadHash,
      row⟩ :: rows) snapshotId = snapshotAt rows snapshotId := by
  simp [snapshotAt]

@[simp] theorem contentAt_snapshot (rows : MonitoringRows)
    (snapshotId monitorId payloadHash : String) (observedAt : Instant)
    (row : Option CounterpartySnapshot) :
    contentAt (⟨MonitoringKey.snapshot snapshotId, row⟩ :: rows) monitorId observedAt
      payloadHash = contentAt rows monitorId observedAt payloadHash := by
  simp [contentAt]

@[simp] theorem contentAt_content (rows : MonitoringRows)
    (monitorId payloadHash monitorId' payloadHash' : String)
    (observedAt observedAt' : Instant) (row : Option String) :
    contentAt (⟨MonitoringKey.snapshotContent monitorId observedAt payloadHash,
      row⟩ :: rows) monitorId' observedAt' payloadHash' =
      if monitorId = monitorId' ∧ observedAt = observedAt' ∧
          payloadHash = payloadHash' then row
      else contentAt rows monitorId' observedAt' payloadHash' := by
  split_ifs with hsame
  · obtain ⟨rfl, rfl, rfl⟩ := hsame
    simp [contentAt]
  · exact Rows.get_cons_ne (by simpa using hsame) _ _

@[simp] theorem outboxAt_event (rows : MonitoringRows) (eventId other : String)
    (row : Option OutboxEvent) :
    outboxAt (⟨MonitoringKey.outboxEvent eventId, row⟩ :: rows) other =
      if eventId = other then row else outboxAt rows other := by
  by_cases hsame : eventId = other
  · subst hsame
    simp [outboxAt]
  · simp [outboxAt, hsame]

@[simp] theorem outboxAt_audit (rows : MonitoringRows) (auditId eventId : String)
    (row : Option AuditRecord) :
    outboxAt (⟨MonitoringKey.auditLog auditId, row⟩ :: rows) eventId =
      outboxAt rows eventId := by
  simp [outboxAt]

/-- The snapshots do not change with rows of another part of the tables. -/
theorem MonitoringRepository.snapshotsOf_append {table : MonitoringTable}
    {own : MonitoringRows} (hown : WithinTable table own)
    (htable : table ≠ .snapshots) (rows : MonitoringRows) (monitorId : String) :
    snapshotsOf (own ++ rows) monitorId = snapshotsOf rows monitorId := by
  induction own with
  | nil => rfl
  | cons entry own ih =>
      obtain ⟨hentry, hown⟩ := Rows.only_cons.mp hown
      rw [List.cons_append, ← ih hown]
      unfold snapshotsOf
      congr 1
      apply Rows.filterMap_live_cons
      intro row
      obtain ⟨key, _⟩ := entry
      cases key with
      | snapshot _ => exact absurd hentry.symm htable
      | _ => rfl

theorem MonitoringRepository.latestSnapshot_append {table : MonitoringTable}
    {own : MonitoringRows} (hown : WithinTable table own)
    (htable : table ≠ .snapshots) (rows : MonitoringRows) (monitorId : String) :
    latestSnapshot (own ++ rows) monitorId = latestSnapshot rows monitorId := by
  rw [latestSnapshot, latestSnapshot, snapshotsOf_append hown htable]

theorem MonitoringRepository.mem_snapshotsOf {rows : MonitoringRows}
    {monitorId : String} {snapshot : CounterpartySnapshot} :
    snapshot ∈ snapshotsOf rows monitorId ↔
      ∃ snapshotId, snapshotAt rows snapshotId = some snapshot ∧
        snapshot.monitorId = monitorId := by
  simp only [snapshotsOf, List.mem_filter, List.mem_filterMap, beq_iff_eq]
  constructor
  · rintro ⟨⟨⟨key, row⟩, hmem, hselect⟩, hmonitor⟩
    cases key with
    | snapshot snapshotId =>
        obtain rfl := Option.some.inj hselect
        exact ⟨snapshotId, Rows.mem_live.mp hmem, hmonitor⟩
    | _ => simp at hselect
  · rintro ⟨snapshotId, hsnapshot, hmonitor⟩
    exact ⟨⟨_, Rows.mem_live.mpr hsnapshot, rfl⟩, hmonitor⟩

theorem MonitoringRepository.latestSnapshot_mem {rows : MonitoringRows}
    {monitorId : String} {latest : CounterpartySnapshot}
    (h : latestSnapshot rows monitorId = some latest) :
    ∃ snapshotId, snapshotAt rows snapshotId = some latest ∧
      latest.monitorId = monitorId := by
  have hmem := List.mem_of_mem_head? h
  rw [List.mem_insertionSort] at hmem
  exact mem_snapshotsOf.mp hmem

theorem MonitoringRepository.latestSnapshot_isSome {rows : MonitoringRows}
    {monitorId snapshotId : String} {snapshot : CounterpartySnapshot}
    (hsnapshot : snapshotAt rows snapshotId = some snapshot)
    (hmonitor : snapshot.monitorId = monitorId) :
    ∃ latest, latestSnapshot rows monitorId = some latest := by
  have hmem : snapshot ∈ (snapshotsOf rows monitorId).insertionSort latestFirst :=
    (List.mem_insertionSort _).mpr (mem_snapshotsOf.mpr ⟨snapshotId, hsnapshot, hmonitor⟩)
  exact ⟨_, List.head?_eq_some_head (List.ne_nil_of_mem hmem)⟩

section Statements

variable {locked : LockedItems} {rows own own' : MonitoringRows}

theorem MonitoringIdempotency.reserve_eq_ok {key requestHash resultRef : String}
    {record : IdempotencyRecord} :
    (reserve key requestHash resultRef).execute locked rows own =
        .ok (record, own') ↔
      (recordAt (own ++ rows) key = none ∧ record = ⟨key, requestHash, resultRef⟩ ∧
        own' = ⟨MonitoringKey.idempotencyKey key, some record⟩ :: own) ∨
      (recordAt (own ++ rows) key = some record ∧
        record.requestHash = requestHash ∧ own' = own) := by
  simp only [reserve, execute_bind_eq_ok, execute_insertNew_eq_ok, recordAt]
  constructor
  · rintro ⟨_, _, ⟨hnone, rfl, rfl⟩ | ⟨⟨existing, hexisting⟩, rfl, rfl⟩, h⟩
    · obtain ⟨rfl, rfl⟩ := execute_pure_eq_ok.mp h
      exact Or.inl ⟨hnone, rfl, rfl⟩
    · simp only [Bool.false_eq_true, ↓reduceIte, execute_bind_eq_ok,
        execute_select, hexisting, Except.ok.injEq, Prod.mk.injEq] at h
      obtain ⟨_, _, ⟨rfl, rfl⟩, h⟩ := h
      simp only [execute_bind_eq_ok, execute_lift_eq_ok, require_eq_ok, beq_iff_eq,
        execute_pure_eq_ok] at h
      obtain ⟨_, _, ⟨hhash, rfl⟩, rfl, rfl⟩ := h
      exact Or.inr ⟨hexisting, hhash, rfl⟩
  · rintro (⟨hnone, rfl, rfl⟩ | ⟨hexisting, hhash, rfl⟩)
    · exact ⟨true, _, Or.inl ⟨hnone, rfl, rfl⟩, rfl⟩
    · refine ⟨false, own', Or.inr ⟨⟨record, hexisting⟩, rfl, rfl⟩, ?_⟩
      simp [execute_bind_eq_ok, execute_lift_eq_ok, hexisting, hhash]

theorem MonitoringIdempotency.complete_eq_ok {key requestHash resultRef : String}
    {record : IdempotencyRecord}
    (h : (complete key requestHash resultRef).execute locked rows own =
      .ok (record, own')) :
    ∃ existing, recordAt (own ++ rows) key = some existing ∧
      existing.requestHash = requestHash ∧
      ((existing.resultRef ≠ "" ∧
          PyText.startsWith existing.resultRef "pending:" = false ∧
          own' = ⟨MonitoringKey.idempotencyKey key, some existing⟩ :: own) ∨
        own' = ⟨MonitoringKey.idempotencyKey key, some { existing with resultRef }⟩ ::
          ⟨MonitoringKey.idempotencyKey key, some existing⟩ :: own) := by
  simp only [complete, execute_bind_eq_ok, execute_lift_eq_ok,
    execute_selectForUpdate_eq_ok] at h
  obtain ⟨_, _, ⟨_, rfl⟩, seen, _, ⟨rfl, rfl⟩, h⟩ := h
  cases hseen : Rows.get (own ++ rows) (MonitoringKey.idempotencyKey key) with
  | none => simp [hseen] at h
  | some existing =>
      simp only [hseen, execute_bind_eq_ok, execute_lift_eq_ok, require_eq_ok,
        beq_iff_eq] at h
      obtain ⟨_, _, ⟨hhash, rfl⟩, h⟩ := h
      refine ⟨existing, hseen, hhash, ?_⟩
      split_ifs at h with hdone
      · obtain ⟨_, rfl⟩ := execute_pure_eq_ok.mp h
        simp only [Bool.not_eq_true', Bool.or_eq_false_iff, beq_eq_false_iff_ne,
          ne_eq] at hdone
        exact Or.inl ⟨hdone.1, hdone.2, rfl⟩
      · simp only [execute_bind_eq_ok, execute_updateWhere_eq_ok, Option.map_some,
          Option.toList_some, List.cons_append, List.nil_append, Rows.get_cons_self,
          Option.bind_some, hhash, ↓reduceIte] at h
        obtain ⟨_, _, ⟨hnone, _⟩ | ⟨updated, hupdated, rfl, rfl⟩, h⟩ := h
        · cases hnone
        · obtain rfl := Option.some.inj hupdated
          obtain ⟨_, rfl⟩ := execute_pure_eq_ok.mp h
          exact Or.inr (by rw [hhash])

theorem MonitoringAudits.append_eq_ok {record : AuditRecord} {result : Unit}
    (h : (append record).execute locked rows own = .ok (result, own')) :
    own' = ⟨MonitoringKey.auditLog record.auditId, some record⟩ :: own := by
  simp only [append, execute_bind_eq_ok, execute_lift_eq_ok,
    execute_insert_eq_ok] at h
  obtain ⟨accepted, _, ⟨hnew, rfl⟩, _, rfl⟩ := h
  rw [AuditRecord.new_eq_ok hnew]

theorem MonitoringOutbox.append_eq_ok {event result : OutboxEvent}
    (h : (append event).execute locked rows own = .ok (result, own')) :
    (outboxAt (own ++ rows) event.eventId = none ∧
        own' = ⟨MonitoringKey.outboxEvent event.eventId, some event⟩ :: own) ∨
      (outboxAt (own ++ rows) event.eventId = some event ∧ own' = own) := by
  simp only [append, execute_bind_eq_ok, execute_insertNew_eq_ok] at h
  obtain ⟨_, _, ⟨hnone, rfl, rfl⟩ | ⟨⟨existing, hexisting⟩, rfl, rfl⟩, h⟩ := h
  · obtain ⟨_, rfl⟩ := execute_pure_eq_ok.mp h
    exact Or.inl ⟨hnone, rfl⟩
  · simp only [Bool.false_eq_true, ↓reduceIte, execute_bind_eq_ok, execute_select,
      hexisting, Except.ok.injEq, Prod.mk.injEq] at h
    obtain ⟨_, _, ⟨rfl, rfl⟩, h⟩ := h
    simp only [execute_bind_eq_ok, execute_lift_eq_ok, require_eq_ok, beq_iff_eq,
      execute_pure_eq_ok] at h
    obtain ⟨_, _, ⟨hsame, rfl⟩, _, rfl⟩ := h
    exact Or.inr ⟨hsame ▸ hexisting, rfl⟩

namespace MonitoringRepository

theorem addSnapshot_eq_ok {snapshot stored : CounterpartySnapshot} :
    (addSnapshot snapshot).execute locked rows own = .ok (stored, own') ↔
      (contentAt (own ++ rows) snapshot.monitorId snapshot.observedAt
          snapshot.payloadHash = none ∧
        snapshotAt (own ++ rows) snapshot.snapshotId = none ∧ stored = snapshot ∧
        own' = ⟨MonitoringKey.snapshot snapshot.snapshotId, some snapshot⟩ ::
          ⟨MonitoringKey.snapshotContent snapshot.monitorId snapshot.observedAt
            snapshot.payloadHash, some snapshot.snapshotId⟩ :: own) ∨
      (∃ snapshotId, contentAt (own ++ rows) snapshot.monitorId snapshot.observedAt
          snapshot.payloadHash = some snapshotId ∧
        snapshotAt (own ++ rows) snapshotId = some stored ∧ own' = own) := by
  simp only [addSnapshot, execute_bind_eq_ok, execute_insertNew_eq_ok, contentAt,
    snapshotAt]
  constructor
  · rintro ⟨_, _, ⟨hnone, rfl, rfl⟩ | ⟨⟨snapshotId, hfound⟩, rfl, rfl⟩, h⟩
    · simp only [↓reduceIte, execute_bind_eq_ok, execute_insert_eq_ok] at h
      obtain ⟨_, _, ⟨hid, rfl⟩, h⟩ := h
      simp [execute_bind_eq_ok] at h
      obtain ⟨rfl, rfl⟩ := h
      simp at hid
      exact Or.inl ⟨hnone, hid, rfl, rfl⟩
    · simp only [Bool.false_eq_true, ↓reduceIte, execute_bind_eq_ok,
        execute_select_eq_ok] at h
      obtain ⟨_, _, ⟨rfl, rfl⟩, h⟩ := h
      simp only [hfound, execute_bind_eq_ok, execute_select_eq_ok] at h
      obtain ⟨seen, _, ⟨hseen, rfl⟩, h⟩ := h
      cases seen with
      | none => simp at h
      | some row =>
          obtain ⟨rfl, rfl⟩ := execute_pure_eq_ok.mp h
          exact Or.inr ⟨snapshotId, hfound, hseen.symm, rfl⟩
  · rintro (⟨hnone, hid, rfl, rfl⟩ | ⟨snapshotId, hfound, hid, rfl⟩)
    · refine ⟨true, _, Or.inl ⟨hnone, rfl, rfl⟩, ?_⟩
      simp only [↓reduceIte, execute_bind_eq_ok, execute_insert_eq_ok]
      refine ⟨(), _, ⟨by simpa using hid, rfl⟩, ?_⟩
      simp [execute_bind_eq_ok]
    · refine ⟨false, _, Or.inr ⟨⟨snapshotId, hfound⟩, rfl, rfl⟩, ?_⟩
      simp [execute_bind_eq_ok, hfound, hid]

theorem setLastSnapshot_eq_ok {monitorId snapshotId : String}
    {checkedAt nextCheckAt : Instant} {result : Unit} :
    (setLastSnapshot monitorId snapshotId checkedAt nextCheckAt).execute locked rows
        own = .ok (result, own') ↔
      ∃ monitor, monitorAt (own ++ rows) monitorId = some monitor ∧
        own' = ⟨MonitoringKey.monitor monitorId, some { monitor with
          lastSnapshotId := some snapshotId
          lastCheckedAt := some checkedAt
          nextCheckAt := nextCheckAt
          lastErrorCode := none
          lastErrorAt := none }⟩ :: own := by
  simp only [setLastSnapshot, execute_bind_eq_ok, execute_updateWhere, monitorAt]
  cases Rows.get (own ++ rows) (MonitoringKey.monitor monitorId) with
  | none => simp
  | some monitor => simp [eq_comm]

theorem setMonitorError_eq_ok {monitorId errorCode : String}
    {now nextCheckAt : Instant} {result : Unit} :
    (setMonitorError monitorId errorCode now nextCheckAt).execute locked rows own =
        .ok (result, own') ↔
      ∃ monitor, monitorAt (own ++ rows) monitorId = some monitor ∧
        own' = ⟨MonitoringKey.monitor monitorId, some { monitor with
          lastErrorCode := some errorCode
          lastErrorAt := some now
          nextCheckAt := nextCheckAt }⟩ :: own := by
  simp only [setMonitorError, execute_bind_eq_ok, execute_updateWhere, monitorAt]
  cases Rows.get (own ++ rows) (MonitoringKey.monitor monitorId) with
  | none => simp
  | some monitor => simp [eq_comm]

theorem addChangeEvent_eq_ok {event : CounterpartyChangeEvent} {result : Unit}
    (h : (addChangeEvent event).execute locked rows own = .ok (result, own')) :
    (∃ changeId, pairAt (own ++ rows) event.monitorId event.beforeSnapshotId
        event.afterSnapshotId = some changeId ∧ own' = own) ∨
      (pairAt (own ++ rows) event.monitorId event.beforeSnapshotId
          event.afterSnapshotId = none ∧
        own' = ⟨MonitoringKey.changeEvent event.changeId, some event⟩ ::
          ⟨MonitoringKey.notification event.notificationId, some event.changeId⟩ ::
          ⟨MonitoringKey.changePair event.monitorId event.beforeSnapshotId
            event.afterSnapshotId, some event.changeId⟩ :: own) := by
  simp only [addChangeEvent, execute_bind_eq_ok, execute_insertNew_eq_ok,
    pairAt] at h ⊢
  obtain ⟨_, _, ⟨hnone, rfl, rfl⟩ | ⟨⟨changeId, hfound⟩, rfl, rfl⟩, h⟩ := h
  · simp only [↓reduceIte, execute_bind_eq_ok, execute_insert_eq_ok] at h
    obtain ⟨_, _, ⟨_, rfl⟩, _, rfl⟩ := h
    exact Or.inr ⟨hnone, rfl⟩
  · simp only [Bool.false_eq_true, ↓reduceIte] at h
    obtain ⟨_, rfl⟩ := execute_pure_eq_ok.mp h
    exact Or.inl ⟨changeId, hfound, rfl⟩

end MonitoringRepository

end Statements

namespace ObservationCall

variable {sha256 uuid5 : String → String} {call : ObservationCall}
  {locked : LockedItems} {rows own own' : MonitoringRows}

/-- A key that was used before and answered with a snapshot. -/
structure Replays (sha256 : String → String) (call : ObservationCall)
    (rows : MonitoringRows) (stored : CounterpartySnapshot) : Prop where
  answered : ∃ key record, call.key = some key ∧
    recordAt rows (call.reservationKey key) = some record ∧
    record.requestHash = call.observationHash sha256 ∧
    PyText.startsWith record.resultRef "pending:" = false ∧
    snapshotAt rows record.resultRef = some stored

/-- No key, or one that is not used yet. -/
structure Reserves (sha256 : String → String) (call : ObservationCall)
    (rows written : MonitoringRows) (pendingRef : String) : Prop where
  within : WithinTable .idempotency written
  reserved : ∀ key, call.key = some key → ∃ record,
    recordAt (written ++ rows) (call.reservationKey key) = some record ∧
      record.requestHash = call.observationHash sha256 ∧
      record.resultRef = pendingRef
  fresh : ∀ key, call.key = some key →
    recordAt rows (call.reservationKey key) = none ∨
      ∃ record, recordAt rows (call.reservationKey key) = some record ∧
        record.resultRef = pendingRef
  other : ∀ key, call.key.map call.reservationKey ≠ some key →
    recordAt (written ++ rows) key = recordAt rows key

theorem replayed_eq_ok {snapshot : CounterpartySnapshot}
    {result : Option CounterpartySnapshot}
    (h : (call.replayed sha256 snapshot).execute locked rows own =
      .ok (result, own')) :
    (∃ stored, result = some stored ∧ own' = own ∧
        call.Replays sha256 (own ++ rows) stored) ∨
      (result = none ∧ ∃ written, own' = written ++ own ∧
        call.Reserves sha256 (own ++ rows) written
          ("pending:" ++ snapshot.snapshotId)) := by
  unfold replayed at h
  cases hkey : call.key with
  | none =>
      rw [hkey] at h
      obtain ⟨rfl, rfl⟩ := execute_pure_eq_ok.mp h
      refine Or.inr ⟨rfl, [], rfl, ?_⟩
      constructor
      · exact Rows.only_nil
      · simp [hkey]
      · simp [hkey]
      · simp
  | some key =>
      rw [hkey] at h
      simp only [execute_bind_eq_ok,
        MonitoringIdempotency.reserve_eq_ok] at h
      obtain ⟨record, _, hreserve, h⟩ := h
      rcases hreserve with ⟨hnone, rfl, rfl⟩ | ⟨hrecord, hhash, rfl⟩
      · rw [if_pos rfl] at h
        obtain ⟨rfl, rfl⟩ := execute_pure_eq_ok.mp h
        refine Or.inr ⟨rfl, [_], rfl, ?_⟩
        constructor
        · simp
        · intro used hused
          obtain rfl := Option.some.inj (hkey.symm.trans hused)
          exact ⟨_, (recordAt_record _ _ _ _).trans (if_pos rfl), rfl, rfl⟩
        · intro used hused
          obtain rfl := Option.some.inj (hkey.symm.trans hused)
          exact Or.inl hnone
        · intro other hother
          rw [hkey, Option.map_some, ne_eq, Option.some.injEq] at hother
          exact (recordAt_record _ _ _ _).trans (if_neg hother)
      · split_ifs at h with hpending
        · obtain ⟨rfl, rfl⟩ := execute_pure_eq_ok.mp h
          refine Or.inr ⟨rfl, [], rfl, ?_⟩
          constructor
          · exact Rows.only_nil
          · intro used hused
            obtain rfl := Option.some.inj (hkey.symm.trans hused)
            exact ⟨record, hrecord, hhash, hpending⟩
          · intro used hused
            obtain rfl := Option.some.inj (hkey.symm.trans hused)
            exact Or.inr ⟨record, hrecord, hpending⟩
          · exact fun _ _ => rfl
        · simp only [execute_bind_eq_ok, execute_lift_eq_ok, require_eq_ok,
            Bool.not_eq_true', MonitoringRepository.getSnapshot,
            execute_select_eq_ok] at h
          obtain ⟨_, _, ⟨hanswered, rfl⟩, found, _, ⟨hfound, rfl⟩, h⟩ := h
          cases found with
          | none => simp at h
          | some stored =>
              obtain ⟨rfl, rfl⟩ := execute_pure_eq_ok.mp h
              exact Or.inl ⟨stored, rfl, rfl, key, record, hkey, hrecord, hhash,
                hanswered, hfound.symm⟩

/-- The rows of a change event. -/
def eventRows (event : CounterpartyChangeEvent) : MonitoringRows :=
  [⟨MonitoringKey.changeEvent event.changeId, some event⟩,
    ⟨MonitoringKey.notification event.notificationId, some event.changeId⟩,
    ⟨MonitoringKey.changePair event.monitorId event.beforeSnapshotId
      event.afterSnapshotId, some event.changeId⟩]

@[simp] theorem outboxAt_eventRows (event : CounterpartyChangeEvent)
    (rows : MonitoringRows) (eventId : String) :
    outboxAt (eventRows event ++ rows) eventId = outboxAt rows eventId := by
  simp [outboxAt, eventRows]

@[simp] theorem pairAt_eventRows (event : CounterpartyChangeEvent)
    (rows : MonitoringRows) (monitorId before after : String) :
    pairAt (eventRows event ++ rows) monitorId before after =
      if event.monitorId = monitorId ∧ event.beforeSnapshotId = before ∧
          event.afterSnapshotId = after then some event.changeId
      else pairAt rows monitorId before after := by
  split_ifs with hsame
  · obtain ⟨rfl, rfl, rfl⟩ := hsame
    simp [pairAt, eventRows]
  · simp only [pairAt, eventRows, List.cons_append, List.nil_append]
    rw [Rows.get_cons_ne (by simp), Rows.get_cons_ne (by simp)]
    exact Rows.get_cons_ne (by simpa using hsame) _ _

/-- What is written when something has changed since the snapshot before. -/
structure Announces (uuid5 : String → String) (call : ObservationCall)
    (rows : MonitoringRows) (previous stored : CounterpartySnapshot)
    (written : MonitoringRows) (event : CounterpartyChangeEvent) : Prop where
  event_eq : ∃ severity, event = call.changeEvent previous stored
    (PatchLog.diff PayloadField.sorted previous.payload stored.payload) severity
  written_eq : ∃ events outbox, written =
      ⟨MonitoringKey.auditLog call.auditId, some (call.auditRecord event)⟩ ::
        (outbox ++ events) ∧
    ((events = [] ∧ ∃ changeId, pairAt rows event.monitorId event.beforeSnapshotId
        event.afterSnapshotId = some changeId) ∨
      (events = eventRows event ∧ pairAt rows event.monitorId
        event.beforeSnapshotId event.afterSnapshotId = none)) ∧
    ((outbox = [] ∧ outboxAt rows (uuid5 event.notificationId) =
        some (call.outboxEvent uuid5 event)) ∨
      (outbox = [⟨MonitoringKey.outboxEvent (uuid5 event.notificationId),
          some (call.outboxEvent uuid5 event)⟩] ∧
        outboxAt rows (uuid5 event.notificationId) = none))

theorem announce_eq_ok {previous : Option CounterpartySnapshot}
    {stored : CounterpartySnapshot} {result : Unit}
    (h : (call.announce uuid5 stored previous).execute locked rows own =
      .ok (result, own')) :
    (own' = own ∧ ∀ before ∈ previous, before.payload = stored.payload) ∨
      ∃ before written event, previous = some before ∧
        before.payload ≠ stored.payload ∧ own' = written ++ own ∧
        call.Announces uuid5 (own ++ rows) before stored written event := by
  cases previous with
  | none =>
      obtain ⟨_, rfl⟩ := execute_pure_eq_ok.mp h
      exact Or.inl ⟨rfl, by simp⟩
  | some before =>
      simp only [announce, execute_bind_eq_ok, execute_lift_eq_ok] at h
      obtain ⟨⟨changed, severity⟩, _, ⟨hdetect, rfl⟩, h⟩ := h
      obtain rfl := detectCounterpartyChanges_eq_ok hdetect
      split_ifs at h with hquiet
      · obtain ⟨_, rfl⟩ := execute_pure_eq_ok.mp h
        refine Or.inl ⟨rfl, ?_⟩
        intro other hother
        obtain rfl := Option.some.inj hother
        exact (PatchLog.diff_eq_nil_iff PayloadField.mem_sorted).mp
          (List.isEmpty_iff.mp hquiet)
      · simp only [execute_bind_eq_ok] at h
        obtain ⟨_, own₁, hevent, _, own₂, houtbox, haudit⟩ := h
        have hevents := MonitoringRepository.addChangeEvent_eq_ok hevent
        have houtboxes := MonitoringOutbox.append_eq_ok houtbox
        have hchanged : before.payload ≠ stored.payload := by
          intro hsame
          rw [(PatchLog.diff_eq_nil_iff PayloadField.mem_sorted).mpr hsame] at hquiet
          exact hquiet rfl
        obtain rfl := MonitoringAudits.append_eq_ok haudit
        rcases hevents with ⟨changeId, hpair, rfl⟩ | ⟨hpair, rfl⟩ <;>
          rcases houtboxes with ⟨hsent, rfl⟩ | ⟨hsent, rfl⟩
        · exact Or.inr ⟨before, _ :: ([_] ++ []), _, rfl, hchanged, rfl,
            ⟨severity, rfl⟩, [], [_], rfl, Or.inl ⟨rfl, changeId, hpair⟩,
            Or.inr ⟨rfl, hsent⟩⟩
        · exact Or.inr ⟨before, _ :: ([] ++ []), _, rfl, hchanged, rfl,
            ⟨severity, rfl⟩, [], [], rfl, Or.inl ⟨rfl, changeId, hpair⟩,
            Or.inl ⟨rfl, hsent⟩⟩
        · refine Or.inr ⟨before, _ :: ([_] ++ eventRows _), _, rfl, hchanged, rfl,
            ⟨severity, rfl⟩, eventRows _, [_], rfl, Or.inr ⟨rfl, hpair⟩,
            Or.inr ⟨rfl, ?_⟩⟩
          simpa [outboxAt, outboxEvent] using hsent
        · refine Or.inr ⟨before, _ :: ([] ++ eventRows _), _, rfl, hchanged, rfl,
            ⟨severity, rfl⟩, eventRows _, [], rfl, Or.inr ⟨rfl, hpair⟩,
            Or.inl ⟨rfl, ?_⟩⟩
          simpa [outboxAt, outboxEvent] using hsent

/-- The monitor after an observation is kept. -/
def checked (call : ObservationCall) (stored : CounterpartySnapshot)
    (monitor : CounterpartyMonitor) : CounterpartyMonitor :=
  { monitor with
    lastSnapshotId := some stored.snapshotId
    lastCheckedAt := some call.now
    nextCheckAt := call.now + seconds monitor.frequencySeconds
    lastErrorCode := none
    lastErrorAt := none }

/-- A snapshot that was added, or the one there was with its content. -/
structure Stores (rows : MonitoringRows) (snapshot stored : CounterpartySnapshot)
    (written : MonitoringRows) : Prop where
  added_or_found :
    (contentAt rows snapshot.monitorId snapshot.observedAt snapshot.payloadHash =
        none ∧ snapshotAt rows snapshot.snapshotId = none ∧ stored = snapshot ∧
      written = [⟨MonitoringKey.snapshot snapshot.snapshotId, some snapshot⟩,
        ⟨MonitoringKey.snapshotContent snapshot.monitorId snapshot.observedAt
          snapshot.payloadHash, some snapshot.snapshotId⟩]) ∨
    (∃ snapshotId, contentAt rows snapshot.monitorId snapshot.observedAt
        snapshot.payloadHash = some snapshotId ∧
      snapshotAt rows snapshotId = some stored ∧ written = [])

/-- The rows an observation is kept with, by the statements that write them. -/
structure Writes where
  reserved : MonitoringRows
  kept : MonitoringRows
  announced : MonitoringRows
  completed : MonitoringRows

/-- All of them, newest first, with the row of the monitor. -/
def Writes.all (writes : Writes) (call : ObservationCall)
    (monitor : CounterpartyMonitor) (stored : CounterpartySnapshot) :
    MonitoringRows :=
  writes.completed ++ (writes.announced ++
    ⟨MonitoringKey.monitor call.monitorId, some (call.checked stored monitor)⟩ ::
      (writes.kept ++ writes.reserved))

/-- An observation that is kept: the snapshot, the monitor, the announcement
of what has changed since the latest snapshot, and the completed key. -/
structure Keeps (sha256 uuid5 : String → String) (call : ObservationCall)
    (rows : MonitoringRows) (monitor : CounterpartyMonitor)
    (stored : CounterpartySnapshot) (writes : Writes) : Prop where
  found : monitorAt rows call.monitorId = some monitor
  reserves : call.Reserves sha256 rows writes.reserved ("pending:" ++
    (call.observation.toSnapshot sha256 monitor.monitorId).snapshotId)
  stores : Stores rows (call.observation.toSnapshot sha256 monitor.monitorId) stored
    writes.kept
  announces :
    (writes.announced = [] ∧ ∀ before ∈ MonitoringRepository.latestSnapshot rows
        call.monitorId, before.payload = stored.payload) ∨
    ∃ before event, MonitoringRepository.latestSnapshot rows call.monitorId =
        some before ∧ before.payload ≠ stored.payload ∧
      call.Announces uuid5 rows before stored writes.announced event
  within : WithinTable .idempotency writes.completed
  recorded : ∀ key, call.key = some key → ∃ record,
    recordAt (writes.completed ++ (writes.reserved ++ rows))
        (call.reservationKey key) = some record ∧
      record.requestHash = call.observationHash sha256 ∧
      record.resultRef = stored.snapshotId
  other : ∀ key, call.key.map call.reservationKey ≠ some key →
    recordAt (writes.completed ++ (writes.reserved ++ rows)) key = recordAt rows key

theorem complete_eq_ok {stored : CounterpartySnapshot} {result : Unit}
    (h : (call.complete sha256 stored).execute locked rows own = .ok (result, own')) :
    ∃ written, own' = written ++ own ∧ WithinTable .idempotency written ∧
      (call.key = none → written = []) ∧
      ∀ key, call.key = some key → ∃ existing,
        recordAt (own ++ rows) (call.reservationKey key) = some existing ∧
        existing.requestHash = call.observationHash sha256 ∧
        (PyText.startsWith existing.resultRef "pending:" = true →
          recordAt (written ++ (own ++ rows)) (call.reservationKey key) =
            some { existing with resultRef := stored.snapshotId }) ∧
        ∀ other, call.reservationKey key ≠ other →
          recordAt (written ++ (own ++ rows)) other = recordAt (own ++ rows) other := by
  unfold complete at h
  cases hkey : call.key with
  | none =>
      rw [hkey] at h
      obtain ⟨_, rfl⟩ := execute_pure_eq_ok.mp h
      exact ⟨[], rfl, Rows.only_nil, fun _ => rfl, by simp⟩
  | some key =>
      rw [hkey] at h
      simp only [execute_bind_eq_ok] at h
      obtain ⟨_, _, hcomplete, h⟩ := h
      obtain ⟨_, rfl⟩ := execute_pure_eq_ok.mp h
      obtain ⟨existing, hexisting, hhash, ⟨_, hdone, rfl⟩ | rfl⟩ :=
        MonitoringIdempotency.complete_eq_ok hcomplete
      · refine ⟨[_], rfl, by simp, by simp, ?_⟩
        intro used hused
        obtain rfl := Option.some.inj hused
        refine ⟨existing, hexisting, hhash, by simp [hdone], ?_⟩
        intro other hother
        exact (recordAt_record _ _ _ _).trans (if_neg hother)
      · refine ⟨[_, _], rfl, by simp, by simp, ?_⟩
        intro used hused
        obtain rfl := Option.some.inj hused
        refine ⟨existing, hexisting, hhash, ?_, ?_⟩
        · intro _
          exact (recordAt_record _ _ _ _).trans (if_pos rfl)
        · intro other hother
          exact ((recordAt_record _ _ _ _).trans (if_neg hother)).trans
            ((recordAt_record _ _ _ _).trans (if_neg hother))

theorem Stores.within {snapshot stored : CounterpartySnapshot}
    {written : MonitoringRows} (h : Stores rows snapshot stored written) :
    WithinTable .snapshots written := by
  rcases h.added_or_found with ⟨_, _, _, rfl⟩ | ⟨_, _, _, rfl⟩ <;>
    simp

theorem Announces.within {previous stored : CounterpartySnapshot}
    {written : MonitoringRows} {event : CounterpartyChangeEvent}
    (h : call.Announces uuid5 rows previous stored written event) :
    WithinTable .changes written := by
  obtain ⟨events, outbox, rfl, hevents, houtbox⟩ := h.written_eq
  rcases hevents with ⟨rfl, _⟩ | ⟨rfl, _⟩ <;>
    rcases houtbox with ⟨rfl, _⟩ | ⟨rfl, _⟩ <;>
      simp [eventRows]

/-- What precedes the announcement does not hide what it reads. -/
theorem Announces.congr {rows' : MonitoringRows}
    {previous stored : CounterpartySnapshot} {written : MonitoringRows}
    {event : CounterpartyChangeEvent}
    (h : call.Announces uuid5 rows previous stored written event)
    (hsame : ∀ key : MonitoringKey, key.table = .changes →
      rows.get key = Rows.get rows' key) :
    call.Announces uuid5 rows' previous stored written event := by
  obtain ⟨events, outbox, hwritten, hevents, houtbox⟩ := h.written_eq
  refine ⟨h.event_eq, events, outbox, hwritten, ?_, ?_⟩
  · rwa [pairAt, hsame _ rfl] at hevents
  · rwa [outboxAt, hsame _ rfl] at houtbox

theorem Keeps.within_announced {monitor : CounterpartyMonitor}
    {stored : CounterpartySnapshot} {writes : Writes}
    (h : call.Keeps sha256 uuid5 rows monitor stored writes) :
    WithinTable .changes writes.announced := by
  rcases h.announces with ⟨hnone, _⟩ | ⟨_, _, _, _, hannounces⟩
  · rw [hnone]
    exact Rows.only_nil
  · exact hannounces.within

/-- A part of the tables sees only the rows written for it. -/
theorem Keeps.get_eq {monitor : CounterpartyMonitor} {stored : CounterpartySnapshot}
    {writes : Writes} (h : call.Keeps sha256 uuid5 rows monitor stored writes)
    (key : MonitoringKey) : Rows.get (writes.all call monitor stored ++ rows) key =
      match key.table with
      | .monitors => Rows.get
          (⟨MonitoringKey.monitor call.monitorId, some (call.checked stored monitor)⟩ ::
            rows) key
      | .snapshots => Rows.get (writes.kept ++ rows) key
      | .changes => Rows.get (writes.announced ++ rows) key
      | .idempotency => Rows.get (writes.completed ++ (writes.reserved ++ rows)) key
      | .batches => rows.get key := by
  have hreserved : key.table ≠ .idempotency →
      Rows.get (writes.reserved ++ rows) key = rows.get key :=
    h.reserves.within.get_append rows
  have hkept : key.table ≠ .snapshots →
      Rows.get (writes.kept ++ (writes.reserved ++ rows)) key =
        Rows.get (writes.reserved ++ rows) key :=
    h.stores.within.get_append _
  have hupdated : key.table ≠ .monitors → Rows.get
      (⟨MonitoringKey.monitor call.monitorId, some (call.checked stored monitor)⟩ ::
        (writes.kept ++ (writes.reserved ++ rows))) key =
      Rows.get (writes.kept ++ (writes.reserved ++ rows)) key := by
    intro hkey
    apply Rows.get_cons_ne
    rintro rfl
    exact hkey rfl
  have hannounced : key.table ≠ .changes → ∀ below : MonitoringRows,
      Rows.get (writes.announced ++ below) key = below.get key :=
    fun hkey below => h.within_announced.get_append below hkey
  have hcompleted : key.table ≠ .idempotency → ∀ below : MonitoringRows,
      Rows.get (writes.completed ++ below) key = below.get key :=
    fun hkey below => h.within.get_append below hkey
  simp only [Writes.all, List.append_assoc, List.cons_append]
  cases htable : key.table with
  | monitors =>
      rw [hcompleted (by rw [htable]; decide), hannounced (by rw [htable]; decide)]
      apply Rows.get_append_congr [_]
      exact (hkept (by rw [htable]; decide)).trans (hreserved (by rw [htable]; decide))
  | snapshots =>
      rw [hcompleted (by rw [htable]; decide), hannounced (by rw [htable]; decide),
        hupdated (by rw [htable]; decide)]
      apply Rows.get_append_congr
      rw [hreserved (by rw [htable]; decide)]
  | changes =>
      rw [hcompleted (by rw [htable]; decide)]
      apply Rows.get_append_congr
      rw [hupdated (by rw [htable]; decide), hkept (by rw [htable]; decide),
        hreserved (by rw [htable]; decide)]
  | idempotency =>
      apply Rows.get_append_congr
      rw [hannounced (by rw [htable]; decide), hupdated (by rw [htable]; decide),
        hkept (by rw [htable]; decide)]
  | batches =>
      rw [hcompleted (by rw [htable]; decide), hannounced (by rw [htable]; decide),
        hupdated (by rw [htable]; decide), hkept (by rw [htable]; decide),
        hreserved (by rw [htable]; decide)]

/-- A snapshot that is there afterwards was there, or has been added. -/
theorem Keeps.snapshotAt_cases {monitor : CounterpartyMonitor}
    {stored snapshot : CounterpartySnapshot} {writes : Writes} {snapshotId : String}
    (h : call.Keeps sha256 uuid5 rows monitor stored writes)
    (hsnapshot : snapshotAt (writes.all call monitor stored ++ rows) snapshotId =
      some snapshot) :
    snapshotAt rows snapshotId = some snapshot ∨
      (snapshot = call.observation.toSnapshot sha256 monitor.monitorId ∧
        snapshotId = snapshot.snapshotId ∧
        writes.kept = [⟨MonitoringKey.snapshot snapshotId, some snapshot⟩,
          ⟨MonitoringKey.snapshotContent snapshot.monitorId snapshot.observedAt
            (snapshotPayloadHash sha256 snapshot.payload), some snapshotId⟩]) := by
  replace hsnapshot := (h.get_eq (.snapshot snapshotId)).symm.trans hsnapshot
  rcases h.stores.added_or_found with ⟨_, _, _, hkept⟩ | ⟨_, _, _, hkept⟩
  · rw [hkept] at hsnapshot
    replace hsnapshot := (snapshotAt_snapshot _ _ _ _).symm.trans hsnapshot
    split_ifs at hsnapshot with hsame
    · obtain rfl := Option.some.inj hsnapshot
      subst hsame
      exact Or.inr ⟨rfl, rfl, hkept⟩
    · exact Or.inl ((snapshotAt_content _ _ _ _ _ _).symm.trans hsnapshot)
  · rw [hkept] at hsnapshot
    exact Or.inl hsnapshot

theorem keep_eq_ok {monitor : CounterpartyMonitor} {stored : CounterpartySnapshot}
    {reserved : MonitoringRows}
    (hmonitor : monitorAt rows call.monitorId = some monitor)
    (hreserves : call.Reserves sha256 rows reserved ("pending:" ++
      (call.observation.toSnapshot sha256 monitor.monitorId).snapshotId))
    (h : (call.keep sha256 uuid5 monitor (call.observation.toSnapshot sha256
      monitor.monitorId)).execute locked rows reserved = .ok (stored, own)) :
    ∃ writes : Writes, own = writes.all call monitor stored ∧
      call.Keeps sha256 uuid5 rows monitor stored writes := by
  simp only [keep, execute_bind_eq_ok, MonitoringRepository.getLatestSnapshot, scan,
    execute, Except.ok.injEq, Prod.mk.injEq] at h
  obtain ⟨previous, _, ⟨rfl, rfl⟩, _, own₁, hadd, _, own₂, hset, _, own₃, hannounce,
    _, own₄, hcomplete, rfl, rfl⟩ := h
  have hbelow : ∀ key : MonitoringKey, key.table ≠ .idempotency →
      Rows.get (reserved ++ rows) key = rows.get key :=
    fun key hkey => hreserves.within.get_append rows hkey
  have hstores : ∃ kept, own₁ = kept ++ reserved ∧ Stores rows
      (call.observation.toSnapshot sha256 monitor.monitorId) stored kept := by
    rcases MonitoringRepository.addSnapshot_eq_ok.mp hadd with
      ⟨hcontent, hid, hstored, rfl⟩ | ⟨snapshotId, hcontent, hid, rfl⟩
    · exact ⟨[_, _], rfl, ⟨Or.inl ⟨(hbelow _ (by simp)).symm.trans hcontent,
        (hbelow _ (by simp)).symm.trans hid, hstored, rfl⟩⟩⟩
    · exact ⟨[], rfl, ⟨Or.inr ⟨snapshotId, (hbelow _ (by simp)).symm.trans hcontent,
        (hbelow _ (by simp)).symm.trans hid, rfl⟩⟩⟩
  obtain ⟨kept, rfl, hstores⟩ := hstores
  have hkept : ∀ key : MonitoringKey, key.table ≠ .snapshots →
      Rows.get ((kept ++ reserved) ++ rows) key = Rows.get (reserved ++ rows) key := by
    intro key hkey
    rw [List.append_assoc]
    exact hstores.within.get_append _ hkey
  obtain ⟨found, hfound, rfl⟩ := MonitoringRepository.setLastSnapshot_eq_ok.mp hset
  have hsame : found = monitor := by
    apply Option.some.inj
    rw [← hfound, ← hmonitor]
    exact (hkept _ (by simp)).trans (hbelow _ (by simp))
  subst hsame
  have hupdated : ∀ key : MonitoringKey, key.table ≠ .monitors →
      Rows.get ((⟨MonitoringKey.monitor call.monitorId,
        some (call.checked stored found)⟩ :: (kept ++ reserved)) ++ rows) key =
      Rows.get ((kept ++ reserved) ++ rows) key := by
    intro key hkey
    apply Rows.get_cons_ne
    rintro rfl
    exact hkey rfl
  have hannounces : ∃ announced, own₃ = announced ++
        ⟨MonitoringKey.monitor call.monitorId, some (call.checked stored found)⟩ ::
          (kept ++ reserved) ∧ WithinTable .changes announced ∧
      ((announced = [] ∧ ∀ before ∈ MonitoringRepository.latestSnapshot rows
          call.monitorId, before.payload = stored.payload) ∨
        ∃ before event, MonitoringRepository.latestSnapshot rows call.monitorId =
            some before ∧ before.payload ≠ stored.payload ∧
          call.Announces uuid5 rows before stored announced event) := by
    rw [MonitoringRepository.latestSnapshot_append hreserves.within (by simp)]
      at hannounce
    rcases announce_eq_ok hannounce with ⟨rfl, hquiet⟩ |
      ⟨before, written, event, hlatest, hchanged, rfl, hwritten⟩
    · exact ⟨[], rfl, Rows.only_nil, Or.inl ⟨rfl, hquiet⟩⟩
    · refine ⟨written, rfl, hwritten.within, Or.inr ⟨before, event, hlatest, hchanged,
        hwritten.congr ?_⟩⟩
      intro key hkey
      have hother : ∀ table, table ≠ .changes → key.table ≠ table := by
        rintro table htable rfl
        exact htable hkey
      exact ((hupdated key (hother _ (by simp))).trans
        (hkept key (hother _ (by simp)))).trans (hbelow key (hother _ (by simp)))
  obtain ⟨announced, rfl, hwithin, hannounces⟩ := hannounces
  obtain ⟨completed, rfl, hcompleted, hnone, hrecorded⟩ := complete_eq_ok hcomplete
  have hrecords : ∀ key, recordAt ((announced ++ ⟨MonitoringKey.monitor call.monitorId,
      some (call.checked stored found)⟩ :: (kept ++ reserved)) ++ rows) key =
        recordAt (reserved ++ rows) key := by
    intro key
    rw [List.append_assoc]
    exact ((hwithin.get_append _ (by simp)).trans (hupdated _ (by simp))).trans
      (hkept _ (by simp))
  have hcompletion : ∀ key, recordAt (completed ++ ((announced ++
      ⟨MonitoringKey.monitor call.monitorId, some (call.checked stored found)⟩ ::
        (kept ++ reserved)) ++ rows)) key =
      recordAt (completed ++ (reserved ++ rows)) key :=
    fun key => Rows.get_append_congr completed (hrecords key)
  refine ⟨⟨reserved, kept, announced, completed⟩, rfl, ?_⟩
  constructor
  · exact hmonitor
  · exact hreserves
  · exact hstores
  · exact hannounces
  · exact hcompleted
  · intro key hkey
    obtain ⟨record, hrecord, _, href⟩ := hreserves.reserved key hkey
    obtain ⟨existing, hexisting, hhash, hdone, _⟩ := hrecorded key hkey
    rw [hrecords, hrecord] at hexisting
    obtain rfl := Option.some.inj hexisting
    have hpending : PyText.startsWith record.resultRef "pending:" = true := by
      rw [href]
      exact PyText.startsWith_append _ _
    exact ⟨_, (hcompletion _).symm.trans (hdone hpending), hhash, rfl⟩
  · intro other hother
    rw [← hreserves.other other hother, ← hcompletion, ← hrecords]
    cases hkey : call.key with
    | none => rw [hnone hkey, List.nil_append]
    | some key =>
        obtain ⟨_, _, _, _, hframe⟩ := hrecorded key hkey
        apply hframe
        rintro rfl
        exact hother (by rw [hkey]; rfl)

theorem record_eq_ok {stored : CounterpartySnapshot}
    (h : (call.record sha256 uuid5).execute locked rows [] = .ok (stored, own)) :
    (own = [] ∧ call.Replays sha256 rows stored) ∨
      ∃ monitor writes, own = Writes.all writes call monitor stored ∧
        call.Keeps sha256 uuid5 rows monitor stored writes := by
  simp only [record, execute_bind_eq_ok, execute_lift_eq_ok,
    MonitoringRepository.getMonitorForActor, MonitoringRepository.getMonitor,
    execute_select_eq_ok, execute_pure_eq_ok] at h
  obtain ⟨_, _, ⟨_, rfl⟩, found, _, ⟨_, _, ⟨rfl, rfl⟩, hfound, rfl⟩, h⟩ := h
  rw [List.nil_append] at hfound
  cases found with
  | none => simp at h
  | some monitor =>
      have hmonitor : monitorAt rows call.monitorId = some monitor :=
        (Option.filter_eq_some_iff.mp hfound).1
      simp only [execute_bind_eq_ok, execute_lift_eq_ok] at h
      obtain ⟨snapshot, _, ⟨hsnapshot, rfl⟩, replay, own₁, hreplayed, h⟩ := h
      obtain rfl := snapshotFromObservation_eq_ok hsnapshot
      rcases replayed_eq_ok hreplayed with ⟨answer, rfl, rfl, hreplays⟩ |
        ⟨rfl, reserved, rfl, hreserves⟩
      · obtain ⟨rfl, rfl⟩ := execute_pure_eq_ok.mp h
        exact Or.inl ⟨rfl, hreplays⟩
      · rw [List.append_nil] at h
        obtain ⟨writes, hown, hkeeps⟩ := keep_eq_ok hmonitor hreserves h
        exact Or.inr ⟨monitor, writes, hown, hkeeps⟩

theorem record_atomically {rows' : MonitoringRows} {stored : CounterpartySnapshot}
    (h : (call.record sha256 uuid5).atomically locked rows = .ok (stored, rows')) :
    (rows' = rows ∧ call.Replays sha256 rows stored) ∨
      ∃ monitor writes, rows' = Writes.all writes call monitor stored ++ rows ∧
        call.Keeps sha256 uuid5 rows monitor stored writes := by
  obtain ⟨own, hrecord, rfl⟩ := atomically_eq_ok.mp h
  rcases record_eq_ok hrecord with ⟨rfl, hreplays⟩ | ⟨monitor, writes, rfl, hkeeps⟩
  · exact Or.inl ⟨rfl, hreplays⟩
  · exact Or.inr ⟨monitor, writes, rfl, hkeeps⟩

end ObservationCall

end ShemaPlatform
