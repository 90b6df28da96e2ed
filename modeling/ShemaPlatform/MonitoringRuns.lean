/-
Any number of monitoring workers over the batches.  An item that a worker has
claimed is observed, recorded, and completed or failed; the worker may crash
anywhere, leases run out, and clocks are arbitrary.
-/
import ShemaPlatform.BatchRules

namespace ShemaPlatform

open Calendar ReadCommitted ReadCommitted.Prog MonitoringBatchRepository

/-- An item of this batch for this monitor. -/
def CounterpartyMonitoringBatchItem.isOf (item : CounterpartyMonitoringBatchItem)
    (batchId monitorId : String) : Bool :=
  item.batchId == batchId && item.monitorId == monitorId

namespace MonitoringRuns

/-- How far `_process_item` is: `failing` has a failure to report, and the report of
a `lost` one was refused. -/
inductive Stage where
  | claimed | called | recorded | failing | completed | failed | lost
deriving DecidableEq

/-- A claimed item that a worker processes since `now`; `monitor` is the one that the
provider was asked to observe. -/
structure Attempt where
  worker : CounterpartyMonitoringWorker
  item : CounterpartyMonitoringBatchItem
  now : Instant
  monitor : Option CounterpartyMonitor
  stage : Stage

/-- The database, and the attempts in the order of their claims. -/
structure World where
  rows : MonitoringRows
  attempts : List Attempt

/-- What `_process_item` does next. -/
inductive Deed where
  | call
  | record (observation : CounterpartyObservation) (changeId auditId : String)
  | complete
  | fail (retryable : Bool) (errorCode : String)

inductive Action where
  | claim (worker : CounterpartyMonitoringWorker) (locked : LockedItems) (batchKey : String)
      (scheduledAt claimedAt : Instant) (clock : String → Instant)
  | act (index : ℕ) (deed : Deed)
  | finalize (batchId : String) (now : Instant)
  | edit (monitorId : String) (monitor : CounterpartyMonitor)

section Runs

variable (sha256 uuid5 : String → String)

def Attempt.reach (attempt : Attempt) (stage : Stage) : Attempt := { attempt with stage }

/-- One deed of an attempt, where it is due. -/
def Attempt.act (attempt : Attempt) (deed : Deed) (rows : MonitoringRows) :
    Attempt × MonitoringRows :=
  match deed, attempt.stage with
  | .call, .claimed =>
      match rows.get (MonitoringKey.monitor attempt.item.monitorId) with
      | none => (attempt, rows)
      | some monitor =>
          if (attempt.worker.refusal attempt.item (some monitor)).isNone then
            ({ attempt with monitor := some monitor, stage := .called }, rows)
          else (attempt, rows)
  | .record observation changeId auditId, .called =>
      match attempt.monitor with
      | none => (attempt, rows)
      | some monitor =>
          match ((attempt.worker.observationCall attempt.item monitor observation attempt.now
              changeId auditId).record sha256 uuid5).atomically (fun _ => false) rows with
          | .ok (_, rows') => (attempt.reach .recorded, rows')
          | .error _ => (attempt.reach .failing, rows)
  | .complete, .recorded =>
      match (attempt.worker.complete attempt.item attempt.now).atomically (fun _ => false)
          rows with
      | .ok (_, rows') => (attempt.reach .completed, rows')
      | .error _ => (attempt.reach .failing, rows)
  | .fail retryable errorCode, stage =>
      if stage ∈ [.claimed, .called, .recorded, .failing] then
        match (attempt.worker.fail uuid5 attempt.item retryable errorCode
            attempt.now).atomically (fun _ => false) rows with
        | .ok (_, rows') => (attempt.reach .failed, rows')
        -- the refusal of an item is reported inside of the `try`, and so once more
        | .error _ => (attempt.reach (if stage = .claimed then .failing else .lost), rows)
      else (attempt, rows)
  | _, _ => (attempt, rows)

namespace World

def start (rows : MonitoringRows) : World := ⟨rows, []⟩

def step (world : World) : Action → World
  | .claim worker locked batchKey scheduledAt claimedAt clock =>
      match (worker.openBatch uuid5 batchKey scheduledAt claimedAt).atomically locked
          world.rows with
      | .ok ((_, items), rows) =>
          ⟨rows, world.attempts ++ items.map fun item =>
            ⟨worker, item, clock item.monitorId, none, .claimed⟩⟩
      | .error _ => world
  | .act index deed =>
      match world.attempts[index]? with
      | none => world
      | some attempt =>
          let after := attempt.act sha256 uuid5 deed world.rows
          ⟨after.2, world.attempts.set index after.1⟩
  | .finalize batchId now =>
      match (finalizeBatch batchId now).atomically (fun _ => false) world.rows with
      | .ok (_, rows) => ⟨rows, world.attempts⟩
      | .error _ => world
  | .edit monitorId monitor =>
      ⟨⟨MonitoringKey.monitor monitorId, some monitor⟩ :: world.rows, world.attempts⟩

/-- How often the provider was called for an item. -/
def calls (world : World) (batchId monitorId : String) : ℕ :=
  world.attempts.countP fun attempt =>
    attempt.monitor.isSome && attempt.item.isOf batchId monitorId

end World

end Runs

/-- What a deed can do: nothing, a step of the attempt alone, or a change of its own
item while that is on a lease of the worker. -/
inductive Acts (attempt : Attempt) (deed : Deed) (rows : MonitoringRows) :
    Attempt → MonitoringRows → Prop where
  | idle : Acts attempt deed rows attempt rows
  | called (monitor : CounterpartyMonitor) (hstage : attempt.stage = .claimed)
      (hwithin : attempt.item.attempt ≤ attempt.worker.maxAttempts) :
      Acts attempt deed rows { attempt with monitor := some monitor, stage := .called } rows
  | recorded (rows' : MonitoringRows) (hstage : attempt.stage = .called)
      (hitems : ∀ batchId monitorId, itemAt rows' batchId monitorId =
        itemAt rows batchId monitorId) :
      Acts attempt deed rows (attempt.reach .recorded) rows'
  | failing (stage : Stage)
      (hstage : attempt.stage ∈ [.claimed, .called, .recorded, .failing])
      (hnext : stage = .failing ∨ stage = .lost) :
      Acts attempt deed rows (attempt.reach stage) rows
  | completed (row : CounterpartyMonitoringBatchItem) (rows' : MonitoringRows)
      (hdeed : deed = .complete) (hstage : attempt.stage = .recorded)
      (hrow : itemAt rows attempt.item.batchId attempt.item.monitorId = some row)
      (hheld : row.heldBy attempt.worker.workerId attempt.now = true)
      (hitems : ∀ batchId monitorId, itemAt rows' batchId monitorId =
        if attempt.item.isOf batchId monitorId then some (completed attempt.now row)
        else itemAt rows batchId monitorId) :
      Acts attempt deed rows (attempt.reach .completed) rows'
  | failed (retryable : Bool) (errorCode : String) (availableAt : Instant)
      (row : CounterpartyMonitoringBatchItem) (rows' : MonitoringRows)
      (hdeed : deed = .fail retryable errorCode)
      (hstage : attempt.stage ∈ [.claimed, .called, .recorded, .failing])
      (hrow : itemAt rows attempt.item.batchId attempt.item.monitorId = some row)
      (hheld : row.heldBy attempt.worker.workerId attempt.now = true)
      (hitems : ∀ batchId monitorId, itemAt rows' batchId monitorId =
        if attempt.item.isOf batchId monitorId then
          some (failed (attempt.worker.shouldRetry attempt.item retryable) errorCode
            availableAt attempt.now row)
        else itemAt rows batchId monitorId) :
      Acts attempt deed rows (attempt.reach .failed) rows'

section Effects

variable {sha256 uuid5 : String → String} {rows rows' : MonitoringRows}

theorem attempt_le_of_refusal {worker : CounterpartyMonitoringWorker}
    {item : CounterpartyMonitoringBatchItem} {monitor : CounterpartyMonitor}
    (h : (worker.refusal item (some monitor)).isNone = true) :
    item.attempt ≤ worker.maxAttempts := by
  by_contra hover
  rw [CounterpartyMonitoringWorker.refusal, if_pos (not_le.mp hover)] at h
  cases h

/-- A recorded observation leaves the items. -/
theorem record_itemAt {call : ObservationCall} {locked : LockedItems}
    {stored : CounterpartySnapshot}
    (h : (call.record sha256 uuid5).atomically locked rows = .ok (stored, rows'))
    (batchId monitorId : String) :
    itemAt rows' batchId monitorId = itemAt rows batchId monitorId := by
  rcases ObservationCall.record_atomically h with ⟨rfl, _⟩ | ⟨monitor, writes, rfl, hkeeps⟩
  · rfl
  · exact hkeeps.get_eq (.batchItem batchId monitorId)

theorem isOf_iff {item : CounterpartyMonitoringBatchItem} {batchId monitorId : String} :
    item.isOf batchId monitorId = true ↔
      item.batchId = batchId ∧ item.monitorId = monitorId := by
  simp [CounterpartyMonitoringBatchItem.isOf]

theorem itemAt_own (item : CounterpartyMonitoringBatchItem)
    (row : Option CounterpartyMonitoringBatchItem) (batchId monitorId : String) :
    itemAt (⟨MonitoringKey.batchItem item.batchId item.monitorId, row⟩ :: rows) batchId
      monitorId = if item.isOf batchId monitorId then row
        else itemAt rows batchId monitorId := by
  rw [itemAt_item]
  simp only [isOf_iff]

variable (sha256 uuid5) in
theorem acts (attempt : Attempt) (deed : Deed) (rows : MonitoringRows) :
    Acts attempt deed rows (attempt.act sha256 uuid5 deed rows).1
      (attempt.act sha256 uuid5 deed rows).2 := by
  unfold Attempt.act
  split
  · rename_i hstage
    split
    · exact .idle
    · split_ifs with hnone
      · exact .called _ hstage (attempt_le_of_refusal hnone)
      · exact .idle
  · rename_i hstage
    split
    · exact .idle
    · split
      · rename_i hrecord
        exact .recorded _ hstage (record_itemAt hrecord)
      · exact .failing _ (by simp [hstage]) (Or.inl rfl)
  · rename_i hstage
    split
    · rename_i hcomplete
      obtain ⟨own, hexecute, rfl⟩ := atomically_eq_ok.mp hcomplete
      obtain ⟨row, hrow, hheld, rfl, rfl⟩ := completeItem_eq_ok.mp hexecute
      exact .completed row _ rfl hstage hrow hheld (itemAt_own _ _)
    · exact .failing _ (by simp [hstage]) (Or.inl rfl)
  · rename_i _ retryable errorCode
    split
    · rename_i hstage
      split
      · rename_i hfail
        obtain ⟨own, hexecute, rfl⟩ := atomically_eq_ok.mp hfail
        obtain ⟨row, monitor, record, hrow, hheld, _, rfl, rfl⟩ :=
          CounterpartyMonitoringWorker.fail_eq_ok hexecute
        apply Acts.failed retryable errorCode
          (attempt.worker.availableAt attempt.item retryable attempt.now) row _ rfl hstage hrow hheld
        intro batchId monitorId
        rw [← itemAt_own]
        simp [itemAt]
      · apply Acts.failing _ hstage
        split
        · exact Or.inl rfl
        · exact Or.inr rfl
    · exact .idle
  · exact .idle

end Effects

section Opening

variable {uuid5 : String → String} {worker : CounterpartyMonitoringWorker}
  {locked : LockedItems} {rows rows' : MonitoringRows} {batchKey batchId monitorId : String}
  {scheduledAt now : Instant} {updated : CounterpartyMonitoringBatch}
  {items : List CounterpartyMonitoringBatchItem}

/-- What the opening of a batch does to an item: nothing, or the item is added, or it
is claimed and was there or has been added just before. -/
inductive Opens (worker : CounterpartyMonitoringWorker) (scheduledAt now : Instant)
    (batchId monitorId : String) (rows rows' : MonitoringRows)
    (items : List CounterpartyMonitoringBatchItem) : Prop where
  | kept (hitem : itemAt rows' batchId monitorId = itemAt rows batchId monitorId)
      (hnone : ∀ item ∈ items, item.isOf batchId monitorId = false)
  | added (hfree : itemAt rows batchId monitorId = none)
      (hitem : itemAt rows' batchId monitorId =
        some (pendingItem batchId monitorId scheduledAt))
      (hnone : ∀ item ∈ items, item.isOf batchId monitorId = false)
  | claimed (before : CounterpartyMonitoringBatchItem)
      (hbefore : itemAt rows batchId monitorId = some before ∨
        (itemAt rows batchId monitorId = none ∧
          before = pendingItem batchId monitorId scheduledAt))
      (hclaimable : before.claimable now = true)
      (hitem : itemAt rows' batchId monitorId = some
        (claimed worker.workerId (now + seconds worker.leaseSeconds) before))
      (hitems : ∀ item ∈ items, item.isOf batchId monitorId = true →
        item = claimed worker.workerId (now + seconds worker.leaseSeconds) before)

theorem opens (hkeyed : ∀ batchId, Keyed batchId rows)
    (h : (worker.openBatch uuid5 batchKey scheduledAt now).atomically locked rows =
      .ok ((updated, items), rows')) :
    (∀ batchId monitorId, Opens worker scheduledAt now batchId monitorId rows rows' items) ∧
      (items.map (·.monitorId)).Nodup := by
  obtain ⟨own, hexecute, rfl⟩ := atomically_eq_ok.mp h
  obtain ⟨batch, started, collected, claims, hstart, hcollect, rfl, hclaims⟩ :=
    CounterpartyMonitoringWorker.openBatch_eq_ok hexecute
  have hcollected : ∀ batchId monitorId, itemAt (collected ++ rows) batchId monitorId =
      itemAt rows batchId monitorId ∨ (itemAt rows batchId monitorId = none ∧
        itemAt (collected ++ rows) batchId monitorId =
          some (pendingItem batchId monitorId scheduledAt)) := by
    intro batchId monitorId
    rw [← CounterpartyMonitoringWorker.startOrResume_itemAt hstart batchId monitorId]
    exact CounterpartyMonitoringWorker.materialize_item hcollect batchId monitorId
  have hkeyed' : ∀ batchId, Keyed batchId (collected ++ rows) := by
    intro batchId monitorId item hitem
    rcases hcollected batchId monitorId with hsame | ⟨_, hadded⟩
    · exact hkeyed batchId monitorId item (hsame.symm.trans hitem)
    · obtain rfl := Option.some.inj (hadded.symm.trans hitem)
      exact ⟨rfl, rfl⟩
  have hmine : ∀ item ∈ items, ∀ batchId monitorId, item.isOf batchId monitorId = true →
      batchId = updated.batchId ∧ ∃ before,
        itemAt (collected ++ rows) batchId monitorId = some before ∧
        before.claimable now = true ∧
        item = claimed worker.workerId (now + seconds worker.leaseSeconds) before ∧
        itemAt (claims ++ (collected ++ rows)) batchId monitorId = some item := by
    intro item hmem batchId monitorId hof
    obtain ⟨found, before, hbefore, hclaimable, rfl, hafter⟩ :=
      hclaims.claimed_of_mem item hmem
    obtain ⟨hbatch, hmonitor⟩ := hkeyed' _ found before hbefore
    obtain ⟨rfl, rfl⟩ := isOf_iff.mp hof
    have hbatch' : (claimed worker.workerId (now + seconds worker.leaseSeconds)
      before).batchId = updated.batchId := hbatch
    have hmonitor' : (claimed worker.workerId (now + seconds worker.leaseSeconds)
      before).monitorId = found := hmonitor
    rw [hbatch', hmonitor']
    exact ⟨rfl, before, hbefore, hclaimable, rfl, hafter⟩
  constructor
  · intro batchId monitorId
    rw [List.append_assoc]
    by_cases hany : ∃ item ∈ items, item.isOf batchId monitorId = true
    · obtain ⟨item, hmem, hof⟩ := hany
      obtain ⟨_, before, hbefore, hclaimable, rfl, hafter⟩ := hmine item hmem _ _ hof
      apply Opens.claimed before _ hclaimable hafter
      · intro other hother hof'
        obtain ⟨_, before', hbefore', _, rfl, _⟩ := hmine other hother _ _ hof'
        obtain rfl := Option.some.inj (hbefore.symm.trans hbefore')
        rfl
      · rcases hcollected batchId monitorId with hsame | ⟨hfree, hadded⟩
        · exact Or.inl (hsame.symm.trans hbefore)
        · exact Or.inr ⟨hfree, Option.some.inj (hbefore.symm.trans hadded)⟩
    · have hnone : ∀ item ∈ items, item.isOf batchId monitorId = false := by
        intro item hmem
        by_contra hof
        exact hany ⟨item, hmem, by simpa using hof⟩
      have hleft : itemAt (claims ++ (collected ++ rows)) batchId monitorId =
          itemAt (collected ++ rows) batchId monitorId := by
        by_cases hbatch : batchId = updated.batchId
        · subst hbatch
          rcases hclaims.itemAt_eq monitorId with hsame | ⟨before, hbefore, _, _, hmem⟩
          · exact hsame
          · obtain ⟨hbatch, hmonitor⟩ := hkeyed' _ monitorId before hbefore
            have hof := isOf_iff.mpr ⟨hbatch, hmonitor⟩
            exact absurd ((hnone _ hmem).symm.trans hof) (by simp)
        · apply Rows.Only.get_append hclaims.within
          rintro ⟨_, hkey⟩
          exact hbatch (MonitoringKey.batchItem.inj hkey).1
      rcases hcollected batchId monitorId with hsame | ⟨hfree, hadded⟩
      · exact .kept (hleft.trans hsame) hnone
      · exact .added hfree (hleft.trans hadded) hnone
  · exact hclaims.distinct (hkeyed' _)

end Opening

end MonitoringRuns

end ShemaPlatform
