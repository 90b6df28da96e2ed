/-
The monitoring workers statement by statement: any number of them open batches, work on the
items and finalize, while others do too, and each transaction sees what is committed when
its statements run.
-/
import ShemaPlatform.BatchRules
import ShemaPlatform.RowChanges

namespace ShemaPlatform

open Calendar ReadCommitted ReadCommitted.Prog MonitoringBatchRepository

/-- A transaction that works on a claimed item, or edits a monitor. -/
inductive ItemCall where
  | record (call : ObservationCall)
  | complete (worker : CounterpartyMonitoringWorker) (item : CounterpartyMonitoringBatchItem)
      (now : Instant)
  | fail (worker : CounterpartyMonitoringWorker) (item : CounterpartyMonitoringBatchItem)
      (retryable : Bool) (errorCode : String) (now : Instant)
  | edit (monitorId : String) (monitor : CounterpartyMonitor)

/-- How far a thread of a worker is: `run_once` opens a batch and finalizes it once its items
are done, the threads of its pool make calls. -/
inductive BatchThread where
  | idle
  | opening (worker : CounterpartyMonitoringWorker) (batchKey : String)
      (scheduledAt now : Instant)
  | opened (batch : CounterpartyMonitoringBatch)
      (items : List CounterpartyMonitoringBatchItem)
  | finalizing (batch : CounterpartyMonitoringBatch) (now : Instant)
  | finalized (batch final : CounterpartyMonitoringBatch)
  | calling (call : ItemCall)

/-- What a thread turns to. -/
inductive BatchChoice where
  | runOnce (worker : CounterpartyMonitoringWorker) (batchKey : String)
      (scheduledAt now : Instant)
  | finalize (now : Instant)
  | call (call : ItemCall)
  | rest

namespace BatchRuns

/-- From one stage to the next without a transaction. -/
inductive Turns : BatchThread → BatchChoice → BatchThread → Prop where
  | runOnce (worker : CounterpartyMonitoringWorker) (batchKey : String)
      (scheduledAt now : Instant) :
      Turns .idle (.runOnce worker batchKey scheduledAt now)
        (.opening worker batchKey scheduledAt now)
  | call (call : ItemCall) : Turns .idle (.call call) (.calling call)
  | finalize (batch : CounterpartyMonitoringBatch)
      (items : List CounterpartyMonitoringBatchItem) (now : Instant) :
      Turns (.opened batch items) (.finalize now) (.finalizing batch now)
  | rest (batch final : CounterpartyMonitoringBatch) : Turns (.finalized batch final) .rest .idle

section Programs

variable (sha256 uuid5 : String → String)

/-- The transaction of a call. -/
def ItemCall.body : ItemCall → MonitoringTx Unit
  | .record call => do let _ ← call.record sha256 uuid5
  | .complete worker item now => do let _ ← worker.complete item now
  | .fail worker item retryable errorCode now => do
      let _ ← worker.fail uuid5 item retryable errorCode now
  | .edit monitorId monitor =>
      store (MonitoringKey.monitor monitorId) fun _ => some monitor

/-- The transaction of a thread. -/
def body : BatchThread → Option (MonitoringTx BatchThread)
  | .opening worker batchKey scheduledAt now => some do
      let (batch, items) ← worker.openBatch uuid5 batchKey scheduledAt now
      return .opened batch items
  | .finalizing batch now => some do
      let final ← finalizeBatch batch.batchId now
      return .finalized batch final
  | .calling call => some do
      ItemCall.body sha256 uuid5 call
      return .idle
  | _ => none

/-- Which items are locked, for `skip locked`, may change at any time. -/
def flow : Workflow LockedItems MonitoringRow Failure BatchThread BatchChoice where
  code := body sha256 uuid5
  recover _ _ := .idle
  outside thread env choice after env' := Turns thread choice after ∧ env' = env
  aborts _ := True
  drift _ _ := True

end Programs

/-- The whole page of due monitors has been collected, to the end. -/
def Collected (rows : MonitoringRows) (batchId : String) : Prop :=
  ∃ batch, batchAt rows batchId = some batch ∧ batch.collectionComplete = true

/-- A completed batch is collected, and rows are under their ids. -/
def Honest (rows : MonitoringRows) : Prop :=
  ∀ batchId batch, batchAt rows batchId = some batch →
    batch.batchId = batchId ∧ (batch.status = .completed → batch.collectionComplete = true)

/-- Nothing is left to do in a batch. -/
def Settled (rows : MonitoringRows) (batchId : String) : Prop :=
  Collected rows batchId ∧
    ∀ monitorId item, itemAt rows batchId monitorId = some item → item.isOpen = false

/-- An item stays, and as it is once it is completed or failed. -/
def ItemKept (before after : Option CounterpartyMonitoringBatchItem) : Prop :=
  ∀ item, before = some item →
    ∃ item', after = some item' ∧ (item.isOpen = false → item' = item)

theorem ItemKept.refl (row : Option CounterpartyMonitoringBatchItem) : ItemKept row row :=
  fun item hitem => ⟨item, hitem, fun _ => rfl⟩

theorem ItemKept.trans {a b c : Option CounterpartyMonitoringBatchItem}
    (hab : ItemKept a b) (hbc : ItemKept b c) : ItemKept a c := by
  intro item hitem
  obtain ⟨item', hitem', hsame⟩ := hab item hitem
  obtain ⟨item'', hitem'', hsame'⟩ := hbc item' hitem'
  refine ⟨item'', hitem'', fun hclosed => ?_⟩
  obtain rfl := hsame hclosed
  exact hsame' hclosed

/-- Only an open item changes. -/
theorem ItemKept.of_open {item : CounterpartyMonitoringBatchItem} (hopen : item.isOpen = true)
    (item' : CounterpartyMonitoringBatchItem) : ItemKept (some item) (some item') := by
  intro found hfound
  obtain rfl := Option.some.inj hfound
  exact ⟨item', rfl, fun hclosed => by rw [hopen] at hclosed; cases hclosed⟩

/-- What any of the transactions does to the batches. -/
structure Kept (before after : MonitoringRows) : Prop where
  honest : Honest before → Honest after
  collected : ∀ batchId, Collected before batchId → Collected after batchId
  item : ∀ batchId monitorId,
    ItemKept (itemAt before batchId monitorId) (itemAt after batchId monitorId)
  noItem : ∀ batchId monitorId, Collected before batchId →
    itemAt before batchId monitorId = none → itemAt after batchId monitorId = none

namespace Kept

variable {before between after : MonitoringRows}

theorem refl (rows : MonitoringRows) : Kept rows rows :=
  ⟨id, fun _ => id, fun _ _ => ItemKept.refl _, fun _ _ _ => id⟩

theorem trans (h : Kept before between) (h' : Kept between after) : Kept before after := by
  constructor
  · exact h'.honest ∘ h.honest
  · exact fun batchId => h'.collected batchId ∘ h.collected batchId
  · exact fun batchId monitorId => (h.item batchId monitorId).trans (h'.item batchId monitorId)
  · intro batchId monitorId hcollected hnone
    exact h'.noItem batchId monitorId (h.collected batchId hcollected)
      (h.noItem batchId monitorId hcollected hnone)

theorem settled (h : Kept before after) {batchId : String} (hsettled : Settled before batchId) :
    Settled after batchId := by
  constructor
  · exact h.collected batchId hsettled.1
  · intro monitorId item hitem
    cases hbefore : itemAt before batchId monitorId with
    | none =>
        rw [h.noItem batchId monitorId hsettled.1 hbefore] at hitem
        cases hitem
    | some found =>
        obtain ⟨item', hitem', hsame⟩ := h.item batchId monitorId found hbefore
        have hclosed := hsettled.2 monitorId found hbefore
        obtain rfl := Option.some.inj (hitem.symm.trans hitem')
        rw [hsame hclosed]
        exact hclosed

/-- The batches are as they were. -/
theorem of_same (hbatch : ∀ batchId, batchAt after batchId = batchAt before batchId)
    (hitem : ∀ batchId monitorId,
      ItemKept (itemAt before batchId monitorId) (itemAt after batchId monitorId))
    (hnone : ∀ batchId monitorId, Collected before batchId →
      itemAt before batchId monitorId = none → itemAt after batchId monitorId = none) :
    Kept before after := by
  constructor
  · intro hhonest batchId batch hfound
    rw [hbatch] at hfound
    exact hhonest batchId batch hfound
  · rintro batchId ⟨batch, hfound, hcomplete⟩
    exact ⟨batch, (hbatch batchId).trans hfound, hcomplete⟩
  · exact hitem
  · exact hnone

variable {rows : MonitoringRows} {batchId monitorId : String}

/-- An open item is written. -/
theorem cons_open {item : CounterpartyMonitoringBatchItem}
    (hitem : itemAt rows batchId monitorId = some item) (hopen : item.isOpen = true)
    (item' : CounterpartyMonitoringBatchItem) :
    Kept rows (⟨MonitoringKey.batchItem batchId monitorId, some item'⟩ :: rows) := by
  apply of_same
  · simp
  · intro other otherMonitor
    rw [itemAt_item]
    split_ifs with hsame
    · obtain ⟨rfl, rfl⟩ := hsame
      rw [hitem]
      exact ItemKept.of_open hopen item'
    · exact ItemKept.refl _
  · intro other otherMonitor _ hnone
    rw [itemAt_item, if_neg]
    · exact hnone
    · rintro ⟨rfl, rfl⟩
      rw [hitem] at hnone
      cases hnone

/-- A monitor is collected. -/
theorem cons_collected (hcollected : ¬ Collected rows batchId)
    (hitem : itemAt rows batchId monitorId = none) (item : CounterpartyMonitoringBatchItem) :
    Kept rows (⟨MonitoringKey.batchItem batchId monitorId, some item⟩ :: rows) := by
  apply of_same
  · simp
  · intro other otherMonitor
    rw [itemAt_item]
    split_ifs with hsame
    · obtain ⟨rfl, rfl⟩ := hsame
      rw [hitem]
      intro found hfound
      cases hfound
    · exact ItemKept.refl _
  · intro other otherMonitor hother hnone
    rw [itemAt_item, if_neg]
    · exact hnone
    · rintro ⟨rfl, rfl⟩
      exact hcollected hother

/-- A batch is begun, or written. -/
theorem cons_batch {batch : CounterpartyMonitoringBatch}
    (hcollected : Collected rows batchId → batch.collectionComplete = true)
    (hhonest : Honest rows → batch.batchId = batchId ∧
      (batch.status = .completed → batch.collectionComplete = true)) :
    Kept rows (⟨MonitoringKey.batch batchId, some batch⟩ :: rows) := by
  constructor
  · intro hrows other found hfound
    rw [batchAt_batch] at hfound
    split_ifs at hfound with hsame
    · obtain rfl := Option.some.inj hfound
      subst hsame
      exact hhonest hrows
    · exact hrows other found hfound
  · intro other hother
    rw [Collected, batchAt_batch]
    split_ifs with hsame
    · subst hsame
      exact ⟨batch, rfl, hcollected hother⟩
    · exact hother
  · intro other monitorId
    rw [itemAt_batch]
    exact ItemKept.refl _
  · intro other monitorId _ hnone
    rw [itemAt_batch]
    exact hnone

end Kept

/-- What the work on the items may make of one row. -/
def RowKept : (key : MonitoringKey) → Option (MonitoringRow key) →
    Option (MonitoringRow key) → Prop
  | .batch _, before, after => after = before
  | .batchItem _ _, before, after => ItemKept before after ∧ (before = none → after = none)
  | _, _, _ => True

theorem RowKept.refl (key : MonitoringKey) (row : Option (MonitoringRow key)) :
    RowKept key row row := by
  cases key with
  | batch batchId => rfl
  | batchItem batchId monitorId => exact ⟨ItemKept.refl _, id⟩
  | _ => trivial

theorem RowKept.trans (key : MonitoringKey) (a b c : Option (MonitoringRow key))
    (hab : RowKept key a b) (hbc : RowKept key b c) : RowKept key a c := by
  cases key with
  | batch batchId => exact Eq.trans hbc hab
  | batchItem batchId monitorId => exact ⟨hab.1.trans hbc.1, hbc.2 ∘ hab.2⟩
  | _ => trivial

/-- Rows other than the batches and their items may change at will. -/
theorem RowKept.of_table (key : MonitoringKey) (hkey : key.table ≠ .batches)
    (before after : Option (MonitoringRow key)) : RowKept key before after := by
  cases key with
  | batch batchId => exact absurd rfl hkey
  | batchItem batchId monitorId => exact absurd rfl hkey
  | _ => trivial

theorem Kept.of_rows {before after : MonitoringRows}
    (h : ∀ key, RowKept key (before.get key) (after.get key)) : Kept before after := by
  apply Kept.of_same
  · exact fun batchId => h (.batch batchId)
  · exact fun batchId monitorId => (h (.batchItem batchId monitorId)).1
  · exact fun batchId monitorId _ => (h (.batchItem batchId monitorId)).2

section Items

variable {sha256 uuid5 : String → String}

/-- A transaction that leaves the batches and their items alone. -/
abbrev Elsewhere {ρ : Type} (p : MonitoringTx ρ) : Prop :=
  p.WritesOnly fun key => key.table ≠ .batches

theorem reserve_elsewhere (key requestHash resultRef : String) :
    Elsewhere (MonitoringIdempotency.reserve key requestHash resultRef) := by
  apply WritesOnly.bind (WritesOnly.insertNew (by simp) _)
  intro inserted
  cases inserted with
  | true => exact WritesOnly.pure _
  | false =>
      apply WritesOnly.bind (WritesOnly.select _)
      rintro (_ | existing)
      · exact WritesOnly.raise _
      · exact WritesOnly.bind (WritesOnly.lift _) fun _ => WritesOnly.pure _

theorem completion_elsewhere (key requestHash resultRef : String) :
    Elsewhere (MonitoringIdempotency.complete key requestHash resultRef) := by
  apply WritesOnly.bind (WritesOnly.lift _)
  intro _
  apply WritesOnly.bind (WritesOnly.selectForUpdate (by simp))
  rintro (_ | existing)
  · exact WritesOnly.raise _
  · apply WritesOnly.bind (WritesOnly.lift _)
    intro _
    split
    · exact WritesOnly.pure _
    · apply WritesOnly.bind (WritesOnly.updateWhere (by simp) _)
      rintro (_ | updated)
      · exact WritesOnly.raise _
      · exact WritesOnly.pure _

theorem audit_elsewhere (record : AuditRecord) : Elsewhere (MonitoringAudits.append record) :=
  WritesOnly.bind (WritesOnly.lift _) fun _ => WritesOnly.insert (by simp) _ _

theorem outbox_elsewhere (event : OutboxEvent) : Elsewhere (MonitoringOutbox.append event) := by
  apply WritesOnly.bind (WritesOnly.insertNew (by simp) _)
  intro inserted
  cases inserted with
  | true => exact WritesOnly.pure _
  | false =>
      apply WritesOnly.bind (WritesOnly.select _)
      rintro (_ | existing)
      · exact WritesOnly.raise _
      · exact WritesOnly.bind (WritesOnly.lift _) fun _ => WritesOnly.pure _

theorem addSnapshot_elsewhere (snapshot : CounterpartySnapshot) :
    Elsewhere (MonitoringRepository.addSnapshot snapshot) := by
  apply WritesOnly.bind (WritesOnly.insertNew (by simp) _)
  rintro (_ | _)
  on_goal 2 => refine WritesOnly.bind (WritesOnly.insert (by simp) _ _) fun _ => ?_
  -- inserted or not, the row is read back
  all_goals
    apply WritesOnly.bind (WritesOnly.select _)
    rintro (_ | snapshotId)
    · exact WritesOnly.raise _
    · apply WritesOnly.bind (WritesOnly.select _)
      rintro (_ | stored)
      · exact WritesOnly.raise _
      · exact WritesOnly.pure _

theorem setLastSnapshot_elsewhere (monitorId snapshotId : String)
    (checkedAt nextCheckAt : Instant) : Elsewhere
      (MonitoringRepository.setLastSnapshot monitorId snapshotId checkedAt nextCheckAt) := by
  apply WritesOnly.bind (WritesOnly.updateWhere (by simp) _)
  rintro (_ | monitor)
  · exact WritesOnly.raise _
  · exact WritesOnly.pure _

theorem setMonitorError_elsewhere (monitorId errorCode : String) (now nextCheckAt : Instant) :
    Elsewhere (MonitoringRepository.setMonitorError monitorId errorCode now nextCheckAt) := by
  apply WritesOnly.bind (WritesOnly.updateWhere (by simp) _)
  rintro (_ | monitor)
  · exact WritesOnly.raise _
  · exact WritesOnly.pure _

theorem addChangeEvent_elsewhere (event : CounterpartyChangeEvent) :
    Elsewhere (MonitoringRepository.addChangeEvent event) := by
  apply WritesOnly.bind (WritesOnly.insertNew (by simp) _)
  intro inserted
  cases inserted with
  | true =>
      exact WritesOnly.bind (WritesOnly.insert (by simp) _ _) fun _ =>
        WritesOnly.insert (by simp) _ _
  | false => exact WritesOnly.pure _

theorem record_elsewhere (call : ObservationCall) : Elsewhere (call.record sha256 uuid5) := by
  apply WritesOnly.bind (WritesOnly.lift _)
  intro _
  apply WritesOnly.bind (WritesOnly.bind (WritesOnly.select _) fun _ => WritesOnly.pure _)
  rintro (_ | monitor)
  · exact WritesOnly.raise _
  · apply WritesOnly.bind (WritesOnly.lift _)
    intro snapshot
    apply WritesOnly.bind
    · unfold ObservationCall.replayed
      split
      · exact WritesOnly.pure _
      · apply WritesOnly.bind (reserve_elsewhere _ _ _)
        intro reservation
        split_ifs
        · exact WritesOnly.pure _
        · apply WritesOnly.bind (WritesOnly.lift _)
          intro _
          apply WritesOnly.bind (WritesOnly.select _)
          rintro (_ | stored)
          · exact WritesOnly.raise _
          · exact WritesOnly.pure _
    · rintro (_ | stored)
      · apply WritesOnly.bind (WritesOnly.scan _)
        intro previous
        apply WritesOnly.bind (addSnapshot_elsewhere _)
        intro stored
        apply WritesOnly.bind (setLastSnapshot_elsewhere _ _ _ _)
        intro _
        apply WritesOnly.bind
        · cases previous with
          | none => exact WritesOnly.pure _
          | some previous =>
              apply WritesOnly.bind (WritesOnly.lift _)
              rintro ⟨changed, severity⟩
              dsimp only
              split_ifs
              · exact WritesOnly.pure _
              · apply WritesOnly.bind (addChangeEvent_elsewhere _)
                intro _
                exact WritesOnly.bind (outbox_elsewhere _) fun _ => audit_elsewhere _
        · intro _
          apply WritesOnly.bind
          · unfold ObservationCall.complete
            split
            · exact WritesOnly.pure _
            · exact WritesOnly.bind (completion_elsewhere _ _ _) fun _ => WritesOnly.pure _
          · exact fun _ => WritesOnly.pure _
      · exact WritesOnly.pure _

/-- The update of an item that its worker still holds. -/
theorem heldItem_changes (batchId monitorId workerId : String) (now : Instant)
    (alter : CounterpartyMonitoringBatchItem → CounterpartyMonitoringBatchItem) :
    (updateWhere (MonitoringKey.batchItem batchId monitorId)
      (fun row : CounterpartyMonitoringBatchItem =>
        if row.heldBy workerId now then some (alter row) else none) :
      MonitoringTx _).Changes RowKept := by
  apply Changes.updateWhere
  intro row row' hrow
  split_ifs at hrow with hheld
  obtain rfl := Option.some.inj hrow
  have hopen := CounterpartyMonitoringBatchItem.isOpen_of_heldBy hheld
  exact ⟨ItemKept.of_open hopen _, fun hnone => by cases hnone⟩

theorem Elsewhere.changes {ρ : Type} {p : MonitoringTx ρ} (hp : Elsewhere p) :
    p.Changes RowKept :=
  Changes.of_writesOnly hp RowKept.of_table

theorem completeItem_changes (batchId monitorId workerId : String) (now : Instant) :
    (completeItem batchId monitorId workerId now).Changes RowKept := by
  apply Changes.bind (heldItem_changes _ _ _ _ _)
  rintro (_ | item)
  · exact Changes.raise _
  · exact Changes.pure _

theorem failItem_changes (batchId monitorId workerId : String) (retryable : Bool)
    (errorCode : String) (availableAt now : Instant) :
    (failItem batchId monitorId workerId retryable errorCode availableAt now).Changes
      RowKept := by
  apply Changes.bind (heldItem_changes _ _ _ _ _)
  rintro (_ | item)
  · exact Changes.raise _
  · exact Changes.pure _

theorem body_changes (call : ItemCall) :
    (ItemCall.body sha256 uuid5 call).Changes RowKept := by
  cases call with
  | record call =>
      exact Changes.bind (record_elsewhere call).changes fun _ => Changes.pure _
  | complete worker item now =>
      exact Changes.bind (completeItem_changes _ _ _ _) fun _ => Changes.pure _
  | fail worker item retryable errorCode now =>
      apply Changes.bind
      · apply Changes.bind (failItem_changes _ _ _ _ _ _ _)
        intro result
        apply Changes.bind (setMonitorError_elsewhere _ _ _ _).changes
        intro _
        exact Changes.bind (audit_elsewhere _).changes fun _ => Changes.pure _
      · exact fun _ => Changes.pure _
  | edit monitorId monitor =>
      have helsewhere : Elsewhere
          (store (MonitoringKey.monitor monitorId) fun _ => some monitor) :=
        WritesOnly.store (by simp) _
      exact helsewhere.changes

end Items

end BatchRuns

end ShemaPlatform
