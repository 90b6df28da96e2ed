/-
The statements of the daily monitoring batches: a batch collects the monitors
that are due page by page, and its items are claimed, completed and failed
under leases.
-/
import ShemaPlatform.MonitoringTables

namespace ShemaPlatform

open Calendar ReadCommitted ReadCommitted.Prog

/-- The states `pending`, `running` and `retryable`. -/
def CounterpartyMonitoringBatchItem.isOpen
    (item : CounterpartyMonitoringBatchItem) : Bool :=
  item.state == .pending || item.state == .running || item.state == .retryable

/-- Waiting for a worker, or left by one whose lease has run out. -/
def CounterpartyMonitoringBatchItem.claimable (now : Instant)
    (item : CounterpartyMonitoringBatchItem) : Bool :=
  item.state == .pending || item.state == .retryable ||
    (item.state == .running && item.lease.any fun lease => lease.leaseUntil < now)

/-- Running on an unexpired lease of the worker. -/
def CounterpartyMonitoringBatchItem.heldBy (workerId : String) (now : Instant)
    (item : CounterpartyMonitoringBatchItem) : Bool :=
  item.state == .running && item.lease.any fun lease =>
    lease.workerId == workerId && decide (now ≤ lease.leaseUntil)

namespace MonitoringBatchRepository

variable (uuid5 : String → String)

def batchIdOf (batchKey : String) : String :=
  uuid5 s!"counterparty-monitor-batch:{batchKey}"

/-- `start_or_resume_daily_batch` -/
def startOrResumeDailyBatch (batchKey : String) (scheduledAt : Instant) :
    MonitoringTx CounterpartyMonitoringBatch := do
  let batchId := batchIdOf uuid5 batchKey
  let inserted ← insertNew (MonitoringKey.batchKey batchKey) batchId
  if inserted then
    insert (MonitoringKey.batch batchId)
      (⟨batchId, batchKey, scheduledAt, .collecting, none, false, none⟩ :
        CounterpartyMonitoringBatch)
      (.uniqueViolation "counterparty_monitoring_batch_pkey")
  let disappeared : Failure :=
    .integrityViolation "counterparty monitoring batch disappeared"
  match ← select (MonitoringKey.batchKey batchKey) with
  | none => raise disappeared
  | some (batchId : String) =>
      match ← select (MonitoringKey.batch batchId) with
      | none => raise disappeared
      | some batch => return batch

/-- `_get_for_update` -/
def getForUpdate (batchId : String) : MonitoringTx CounterpartyMonitoringBatch := do
  match ← selectForUpdate (MonitoringKey.batch batchId) with
  | none => raise (.integrityViolation "counterparty monitoring batch not found")
  | some batch => return batch

/-- Every monitor with its row. -/
def monitors (rows : MonitoringRows) : List (String × CounterpartyMonitor) :=
  rows.live.filterMap fun
    | ⟨.monitor monitorId, row⟩ => some (monitorId, row)
    | _ => none

/-- Active, due, and beyond the cursor. -/
def due (scheduledAt : Instant) (cursor : Option String) (monitorId : String)
    (monitor : CounterpartyMonitor) : Bool :=
  monitor.status == .active && decide (monitor.nextCheckAt ≤ scheduledAt) &&
    cursor.all (· < monitorId)

/-- `order by monitor_id limit …` -/
def dueMonitors (scheduledAt : Instant) (cursor : Option String) (limit : ℕ)
    (rows : MonitoringRows) : List String :=
  let found := (monitors rows).filter fun entry =>
    due scheduledAt cursor entry.1 entry.2
  ((found.map Prod.fst).insertionSort (· ≤ ·)).take limit

/-- The items of a batch. -/
def itemsOf (rows : MonitoringRows) (batchId : String) :
    List (String × CounterpartyMonitoringBatchItem) :=
  rows.live.filterMap fun
    | ⟨.batchItem other monitorId, row⟩ =>
        if other = batchId then some (monitorId, row) else none
    | _ => none

/-- The insertion of every item that is not there yet. -/
def insertItems (batchId : String) (scheduledAt : Instant) :
    List String → MonitoringTx Unit
  | [] => return ()
  | monitorId :: rest => do
      let _ ← insertNew (MonitoringKey.batchItem batchId monitorId)
        (⟨batchId, monitorId, .pending, 0, scheduledAt, none, none, none, none⟩ :
          CounterpartyMonitoringBatchItem)
      insertItems batchId scheduledAt rest

/-- Whether the batch has items, which is only asked when a page has none. -/
def hasItems (batchId : String) (page : List String) : MonitoringTx Bool :=
  if page.isEmpty then scan fun rows => !(itemsOf rows batchId).isEmpty
  else return true

/-- `materialize_due_items` -/
def materializeDueItems (batchId : String) (scheduledAt : Instant) (limit : ℕ) :
    MonitoringTx CounterpartyMonitoringBatch := do
  let batch ← getForUpdate batchId
  if batch.collectionComplete then
    return batch
  else do
    -- an empty cursor reads as none
    let cursor := batch.nextCursor.filter (· ≠ "")
    let page ← scan (dueMonitors scheduledAt cursor limit)
    insertItems batchId scheduledAt page
    let begun ← hasItems batchId page
    match ← updateWhere (MonitoringKey.batch batchId)
        fun (row : CounterpartyMonitoringBatch) => some { row with
          nextCursor := page.getLast?.or cursor
          collectionComplete := decide (page.length < limit)
          status := if begun then .running else .collecting } with
    | none =>
        raise (.integrityViolation "counterparty monitoring batch update rejected")
    | some updated => return updated

/-- `order by monitor_id for update skip locked limit …` -/
def claimableItems (batchId : String) (now : Instant) (limit : ℕ)
    (locked : LockedItems) (rows : MonitoringRows) : List String :=
  let found := (itemsOf rows batchId).filter fun entry =>
    decide (entry.2.availableAt ≤ now) && entry.2.claimable now &&
      !locked (MonitoringKey.batchItem batchId entry.1)
  ((found.map Prod.fst).insertionSort (· ≤ ·)).take limit

/-- An item on the lease of the worker that has claimed it. -/
def claimed (workerId : String) (leaseUntil : Instant)
    (item : CounterpartyMonitoringBatchItem) : CounterpartyMonitoringBatchItem :=
  { item with
    state := .running
    attempt := item.attempt + 1
    lease := some ⟨workerId, leaseUntil⟩
    lastErrorCode := none
    lastErrorAt := none }

/-- The update of every candidate, with the items that were claimed. -/
def claimEach (batchId workerId : String) (now leaseUntil : Instant) :
    List String → MonitoringTx (List CounterpartyMonitoringBatchItem)
  | [] => return []
  | monitorId :: rest => do
      let item ← updateWhere (MonitoringKey.batchItem batchId monitorId)
        fun (row : CounterpartyMonitoringBatchItem) =>
          if row.claimable now then some (claimed workerId leaseUntil row) else none
      let items ← claimEach batchId workerId now leaseUntil rest
      return item.toList ++ items

def claimItems (batchId workerId : String) (leaseSeconds : ℤ) (now : Instant)
    (limit : ℕ) : MonitoringTx (List CounterpartyMonitoringBatchItem) := do
  let monitorIds ← query fun locked rows =>
    .pure (claimableItems batchId now limit locked rows)
  claimEach batchId workerId now (now + seconds leaseSeconds) monitorIds

/-- A completed item. -/
def completed (now : Instant) (item : CounterpartyMonitoringBatchItem) :
    CounterpartyMonitoringBatchItem :=
  { item with state := .completed, lease := none, completedAt := some now }

def completeItem (batchId monitorId workerId : String) (now : Instant) :
    MonitoringTx CounterpartyMonitoringBatchItem := do
  match ← updateWhere (MonitoringKey.batchItem batchId monitorId)
      fun (row : CounterpartyMonitoringBatchItem) =>
        if row.heldBy workerId now then some (completed now row) else none with
  | none =>
      raise (.integrityViolation
        "stale or unauthorized counterparty monitoring completion")
  | some item => return item

/-- A failed item, for good or until it is available again. -/
def failed (retryable : Bool) (errorCode : String) (availableAt now : Instant)
    (item : CounterpartyMonitoringBatchItem) : CounterpartyMonitoringBatchItem :=
  { item with
    state := if retryable then .retryable else .failed
    availableAt := availableAt
    lease := none
    lastErrorCode := some errorCode
    lastErrorAt := some now
    completedAt := if retryable then item.completedAt else some now }

def failItem (batchId monitorId workerId : String) (retryable : Bool)
    (errorCode : String) (availableAt now : Instant) :
    MonitoringTx CounterpartyMonitoringBatchItem := do
  match ← updateWhere (MonitoringKey.batchItem batchId monitorId)
      fun (row : CounterpartyMonitoringBatchItem) =>
        if row.heldBy workerId now then
          some (failed retryable errorCode availableAt now row)
        else none with
  | none =>
      raise (.integrityViolation
        "stale or unauthorized counterparty monitoring failure transition")
  | some item => return item

/-- How many items of a batch are still open. -/
def openItems (batchId : String) (rows : MonitoringRows) : ℕ :=
  (itemsOf rows batchId).countP fun entry => entry.2.isOpen

/-- The rest of `finalize_batch`, once the open items are counted. -/
def finalizeCounted (batchId : String) (now : Instant) (pending : ℕ) :
    MonitoringTx CounterpartyMonitoringBatch := do
  let batch ← getForUpdate batchId
  let status : BatchStatus :=
    if batch.collectionComplete && pending == 0 then .completed else .running
  match ← updateWhere (MonitoringKey.batch batchId)
      fun (row : CounterpartyMonitoringBatch) => some { row with
        status := status
        completedAt :=
          if status = .completed then row.completedAt.or (some now) else none } with
  | none =>
      raise (.integrityViolation "counterparty monitoring batch finalize rejected")
  | some updated => return updated

/-- `finalize_batch` -/
def finalizeBatch (batchId : String) (now : Instant) :
    MonitoringTx CounterpartyMonitoringBatch := do
  let pending ← scan (openItems batchId)
  finalizeCounted batchId now pending

end MonitoringBatchRepository

end ShemaPlatform
