/-
When the statements of the monitoring batches are accepted, and what they
write.
-/
import ShemaPlatform.MonitoringRules
import ShemaPlatform.MonitoringWorker

namespace ShemaPlatform

open Calendar ReadCommitted ReadCommitted.Prog

section Reading

variable (rows : MonitoringRows)

/-- The id of the batch with this key. -/
def batchKeyAt (batchKey : String) : Option String :=
  rows.get (MonitoringKey.batchKey batchKey)

def batchAt (batchId : String) : Option CounterpartyMonitoringBatch :=
  rows.get (MonitoringKey.batch batchId)

def itemAt (batchId monitorId : String) : Option CounterpartyMonitoringBatchItem :=
  rows.get (MonitoringKey.batchItem batchId monitorId)

end Reading

@[simp] theorem batchAt_batch (rows : MonitoringRows) (batchId other : String)
    (row : Option CounterpartyMonitoringBatch) :
    batchAt (⟨MonitoringKey.batch batchId, row⟩ :: rows) other =
      if batchId = other then row else batchAt rows other := by
  by_cases hsame : batchId = other
  · subst hsame
    simp [batchAt]
  · simp [batchAt, hsame]

@[simp] theorem batchAt_item (rows : MonitoringRows) (batchId monitorId other : String)
    (row : Option CounterpartyMonitoringBatchItem) :
    batchAt (⟨MonitoringKey.batchItem batchId monitorId, row⟩ :: rows) other =
      batchAt rows other := by
  simp [batchAt]

@[simp] theorem itemAt_batch (rows : MonitoringRows) (batchId other monitorId : String)
    (row : Option CounterpartyMonitoringBatch) :
    itemAt (⟨MonitoringKey.batch batchId, row⟩ :: rows) other monitorId =
      itemAt rows other monitorId := by
  simp [itemAt]

@[simp] theorem itemAt_item (rows : MonitoringRows)
    (batchId monitorId batchId' monitorId' : String)
    (row : Option CounterpartyMonitoringBatchItem) :
    itemAt (⟨MonitoringKey.batchItem batchId monitorId, row⟩ :: rows) batchId'
      monitorId' = if batchId = batchId' ∧ monitorId = monitorId' then row
        else itemAt rows batchId' monitorId' := by
  split_ifs with hsame
  · obtain ⟨rfl, rfl⟩ := hsame
    simp [itemAt]
  · exact Rows.get_cons_ne (by simpa using hsame) _ _

namespace CounterpartyMonitoringBatchItem

variable {item : CounterpartyMonitoringBatchItem} {workerId : String} {now : Instant}

theorem isOpen_of_claimable (h : item.claimable now = true) : item.isOpen = true := by
  unfold claimable at h
  unfold isOpen
  cases hstate : item.state <;> simp_all

theorem isOpen_of_heldBy (h : item.heldBy workerId now = true) : item.isOpen = true := by
  unfold heldBy at h
  unfold isOpen
  cases hstate : item.state <;> simp_all

theorem state_of_heldBy (h : item.heldBy workerId now = true) :
    item.state = .running := by
  simp only [heldBy, Bool.and_eq_true, beq_iff_eq] at h
  exact h.1

end CounterpartyMonitoringBatchItem

namespace MonitoringBatchRepository

theorem mem_monitors {rows : MonitoringRows} {monitorId : String}
    {monitor : CounterpartyMonitor} :
    (monitorId, monitor) ∈ monitors rows ↔ monitorAt rows monitorId = some monitor := by
  rw [monitorAt, ← Rows.mem_live, monitors, List.mem_filterMap]
  constructor
  · rintro ⟨⟨key, found⟩, hmem, heq⟩
    cases key with
    | monitor other =>
        obtain ⟨rfl, rfl⟩ := Prod.mk.inj (Option.some.inj heq)
        exact hmem
    | _ => simp at heq
  · intro hmem
    exact ⟨_, hmem, rfl⟩

theorem mem_itemsOf {rows : MonitoringRows} {batchId monitorId : String}
    {item : CounterpartyMonitoringBatchItem} :
    (monitorId, item) ∈ itemsOf rows batchId ↔
      itemAt rows batchId monitorId = some item := by
  rw [itemAt, ← Rows.mem_live, itemsOf, List.mem_filterMap]
  constructor
  · rintro ⟨⟨key, found⟩, hmem, heq⟩
    cases key with
    | batchItem other otherMonitor =>
        simp only at heq
        split_ifs at heq with hsame
        subst hsame
        obtain ⟨rfl, rfl⟩ := Prod.mk.inj (Option.some.inj heq)
        exact hmem
    | _ => simp at heq
  · intro hmem
    exact ⟨_, hmem, if_pos rfl⟩

/-- No item is open exactly when none is counted. -/
theorem openItems_eq_zero {rows : MonitoringRows} {batchId : String} :
    openItems batchId rows = 0 ↔ ∀ monitorId item,
      itemAt rows batchId monitorId = some item → item.isOpen = false := by
  simp only [openItems, List.countP_eq_zero, Prod.forall, mem_itemsOf,
    Bool.not_eq_true]

section Statements

variable {uuid5 : String → String} {locked : LockedItems}
  {rows own own' : MonitoringRows}

theorem startOrResumeDailyBatch_eq_ok {batchKey : String} {scheduledAt : Instant}
    {batch : CounterpartyMonitoringBatch}
    (h : (startOrResumeDailyBatch uuid5 batchKey scheduledAt).execute locked rows own =
      .ok (batch, own')) :
    (batchKeyAt (own ++ rows) batchKey = none ∧
        batchAt (own ++ rows) (batchIdOf uuid5 batchKey) = none ∧
        batch = ⟨batchIdOf uuid5 batchKey, batchKey, scheduledAt, .collecting, none,
          false, none⟩ ∧
        own' = ⟨MonitoringKey.batch (batchIdOf uuid5 batchKey), some batch⟩ ::
          ⟨MonitoringKey.batchKey batchKey, some (batchIdOf uuid5 batchKey)⟩ :: own) ∨
      (∃ batchId, batchKeyAt (own ++ rows) batchKey = some batchId ∧
        batchAt (own ++ rows) batchId = some batch ∧ own' = own) := by
  simp only [startOrResumeDailyBatch, execute_bind_eq_ok, execute_insertNew_eq_ok,
    batchKeyAt, batchAt] at h ⊢
  obtain ⟨_, _, ⟨hnone, rfl, rfl⟩ | ⟨⟨batchId, hfound⟩, rfl, rfl⟩, h⟩ := h
  · simp only [↓reduceIte, execute_bind_eq_ok, execute_insert_eq_ok] at h
    obtain ⟨_, _, ⟨hid, rfl⟩, h⟩ := h
    simp [execute_bind_eq_ok] at h
    obtain ⟨rfl, rfl⟩ := h
    simp at hid
    exact Or.inl ⟨hnone, hid, rfl, rfl⟩
  · simp only [Bool.false_eq_true, ↓reduceIte, execute_bind_eq_ok,
      execute_select_eq_ok] at h
    obtain ⟨_, _, ⟨rfl, rfl⟩, h⟩ := h
    simp only [hfound, execute_bind_eq_ok, execute_select_eq_ok] at h
    obtain ⟨seen, _, ⟨hseen, rfl⟩, h⟩ := h
    cases seen with
    | none => simp at h
    | some row =>
        obtain ⟨rfl, rfl⟩ := execute_pure_eq_ok.mp h
        exact Or.inr ⟨batchId, hfound, hseen.symm, rfl⟩

theorem getForUpdate_eq_ok {batchId : String} {batch : CounterpartyMonitoringBatch} :
    (getForUpdate batchId).execute locked rows own = .ok (batch, own') ↔
      batchAt (own ++ rows) batchId = some batch ∧
        own' = ⟨MonitoringKey.batch batchId, some batch⟩ :: own := by
  simp only [getForUpdate, execute_bind_eq_ok, execute_selectForUpdate_eq_ok, batchAt]
  constructor
  · rintro ⟨seen, _, ⟨hseen, rfl⟩, h⟩
    cases seen with
    | none => simp at h
    | some row =>
        obtain ⟨rfl, rfl⟩ := execute_pure_eq_ok.mp h
        exact ⟨hseen.symm, rfl⟩
  · rintro ⟨hseen, rfl⟩
    exact ⟨some batch, _, ⟨hseen.symm, rfl⟩, rfl⟩

/-- The row a monitor gets as an item of a batch. -/
def pendingItem (batchId monitorId : String) (scheduledAt : Instant) :
    CounterpartyMonitoringBatchItem :=
  ⟨batchId, monitorId, .pending, 0, scheduledAt, none, none, none, none⟩

/-- New items for the monitors of a page that have none. -/
structure Inserts (batchId : String) (scheduledAt : Instant) (page : List String)
    (rows written : MonitoringRows) : Prop where
  items : written.Only fun key => ∃ monitorId, key = .batchItem batchId monitorId
  itemAt_eq : ∀ monitorId, itemAt (written ++ rows) batchId monitorId =
    (itemAt rows batchId monitorId).or
      (if monitorId ∈ page then some (pendingItem batchId monitorId scheduledAt)
        else none)

theorem insertItems_eq_ok {batchId : String} {scheduledAt : Instant}
    {page : List String} {result : Unit}
    (h : (insertItems batchId scheduledAt page).execute locked rows own =
      .ok (result, own')) :
    ∃ written, own' = written ++ own ∧
      Inserts batchId scheduledAt page (own ++ rows) written := by
  induction page generalizing own with
  | nil =>
      obtain ⟨_, rfl⟩ := execute_pure_eq_ok.mp h
      exact ⟨[], rfl, Rows.only_nil, by simp⟩
  | cons first rest ih =>
      simp only [insertItems, execute_bind_eq_ok, execute_insertNew_eq_ok] at h
      obtain ⟨_, between, hinsert, h⟩ := h
      obtain ⟨written, rfl, hwritten⟩ := ih h
      rcases hinsert with ⟨hnone, _, rfl⟩ | ⟨⟨existing, hexisting⟩, _, rfl⟩
      · refine ⟨written ++ [⟨MonitoringKey.batchItem batchId first,
          some (pendingItem batchId first scheduledAt)⟩], by simp [pendingItem], ?_, ?_⟩
        · exact Rows.only_append.mpr ⟨hwritten.items, by simp⟩
        · intro monitorId
          rw [List.append_assoc]
          refine (hwritten.itemAt_eq monitorId).trans ?_
          rw [List.cons_append, itemAt_item]
          by_cases hfirst : first = monitorId
          · subst hfirst
            have hrow : itemAt (own ++ rows) batchId first = none := hnone
            simp [hrow, pendingItem]
          · have hother : monitorId ≠ first := Ne.symm hfirst
            simp [hfirst, hother]
      · refine ⟨written, rfl, hwritten.items, ?_⟩
        intro monitorId
        refine (hwritten.itemAt_eq monitorId).trans ?_
        by_cases hfirst : first = monitorId
        · subst hfirst
          have hrow : itemAt (between ++ rows) batchId first = some existing := hexisting
          simp [hrow]
        · have hother : monitorId ≠ first := Ne.symm hfirst
          simp [hother]

/-- What a page adds to a batch that is still collecting. -/
structure Collects (batchId : String) (scheduledAt : Instant) (limit : ℕ)
    (rows : MonitoringRows) (batch updated : CounterpartyMonitoringBatch)
    (page : List String) (inserted : MonitoringRows) : Prop where
  page_eq : page =
    dueMonitors scheduledAt (batch.nextCursor.filter (· ≠ "")) limit rows
  inserts : Inserts batchId scheduledAt page rows inserted
  cursor : updated.nextCursor = page.getLast?.or (batch.nextCursor.filter (· ≠ ""))
  complete : updated.collectionComplete = decide (page.length < limit)
  status : updated.status ≠ .completed
  same : updated.batchId = batch.batchId

theorem hasItems_eq_ok {batchId : String} {page : List String} {begun : Bool}
    (h : (hasItems batchId page).execute locked rows own = .ok (begun, own')) :
    own' = own := by
  unfold hasItems at h
  split_ifs at h
  · exact (Prod.mk.inj (Except.ok.inj h)).2.symm
  · exact (execute_pure_eq_ok.mp h).2.symm

theorem Inserts.batchAt_eq {batchId : String} {scheduledAt : Instant}
    {page : List String} {written : MonitoringRows}
    (h : Inserts batchId scheduledAt page rows written) (other : String) :
    batchAt (written ++ rows) other = batchAt rows other := by
  apply Rows.Only.get_append h.items
  rintro ⟨monitorId, hkey⟩
  cases hkey

theorem materializeDueItems_eq_ok {batchId : String} {scheduledAt : Instant}
    {limit : ℕ} {updated : CounterpartyMonitoringBatch}
    (h : (materializeDueItems batchId scheduledAt limit).execute locked rows own =
      .ok (updated, own')) :
    ∃ batch, batchAt (own ++ rows) batchId = some batch ∧
      ((batch.collectionComplete = true ∧ updated = batch ∧
          own' = ⟨MonitoringKey.batch batchId, some batch⟩ :: own) ∨
        (batch.collectionComplete = false ∧ ∃ page inserted,
          own' = ⟨MonitoringKey.batch batchId, some updated⟩ :: (inserted ++
            ⟨MonitoringKey.batch batchId, some batch⟩ :: own) ∧
          Collects batchId scheduledAt limit
            (⟨MonitoringKey.batch batchId, some batch⟩ :: (own ++ rows)) batch updated
            page inserted)) := by
  simp only [materializeDueItems, execute_bind_eq_ok, getForUpdate_eq_ok] at h
  obtain ⟨batch, _, ⟨hbatch, rfl⟩, h⟩ := h
  refine ⟨batch, hbatch, ?_⟩
  split_ifs at h with hcomplete
  · obtain ⟨rfl, rfl⟩ := execute_pure_eq_ok.mp h
    exact Or.inl ⟨hcomplete, rfl, rfl⟩
  · rw [Bool.not_eq_true] at hcomplete
    simp only [execute_bind_eq_ok, scan, execute, Except.ok.injEq, Prod.mk.injEq] at h
    obtain ⟨page, _, ⟨hpage, rfl⟩, _, _, hinsert, begun, _, hbegun, seen, _, hupdate,
      h⟩ := h
    obtain ⟨inserted, rfl, hinserts⟩ := insertItems_eq_ok hinsert
    obtain rfl := hasItems_eq_ok hbegun
    have hlocked : batchAt (⟨MonitoringKey.batch batchId, some batch⟩ :: (own ++ rows))
        batchId = some batch := by simp
    have hseen : Rows.get ((inserted ++ ⟨MonitoringKey.batch batchId, some batch⟩ ::
        own) ++ rows) (MonitoringKey.batch batchId) = some batch := by
      rw [List.append_assoc]
      exact (hinserts.batchAt_eq batchId).trans hlocked
    rw [execute_updateWhere_eq_ok, hseen, Option.bind_some] at hupdate
    rcases hupdate with ⟨hnone, _⟩ | ⟨row, hrow, rfl, rfl⟩
    · cases hnone
    · obtain ⟨rfl, rfl⟩ := execute_pure_eq_ok.mp h
      obtain rfl := Option.some.inj hrow
      refine Or.inr ⟨hcomplete, page, inserted, rfl, ?_⟩
      constructor
      · exact hpage.symm
      · exact hinserts
      · rfl
      · rfl
      · cases begun <;> simp
      · rfl

/-- Items keep the monitor they are for. -/
def Keyed (batchId : String) (rows : MonitoringRows) : Prop :=
  ∀ monitorId item, itemAt rows batchId monitorId = some item →
    item.batchId = batchId ∧ item.monitorId = monitorId

/-- A claim of every candidate that can still be claimed. -/
structure Claims (batchId workerId : String) (now leaseUntil : Instant)
    (rows : MonitoringRows) (items : List CounterpartyMonitoringBatchItem)
    (written : MonitoringRows) : Prop where
  within : written.Only fun key => ∃ monitorId, key = .batchItem batchId monitorId
  itemAt_eq : ∀ monitorId,
    itemAt (written ++ rows) batchId monitorId = itemAt rows batchId monitorId ∨
      ∃ item, itemAt rows batchId monitorId = some item ∧ item.claimable now = true ∧
        itemAt (written ++ rows) batchId monitorId =
          some (claimed workerId leaseUntil item) ∧
        claimed workerId leaseUntil item ∈ items
  claimed_of_mem : ∀ item ∈ items, ∃ monitorId before,
    itemAt rows batchId monitorId = some before ∧ before.claimable now = true ∧
      item = claimed workerId leaseUntil before ∧
      itemAt (written ++ rows) batchId monitorId = some item
  distinct : Keyed batchId rows → (items.map (·.monitorId)).Nodup

theorem not_claimable_claimed {workerId : String} {now leaseUntil : Instant}
    (hlease : now ≤ leaseUntil) (item : CounterpartyMonitoringBatchItem) :
    (claimed workerId leaseUntil item).claimable now = false := by
  simp [CounterpartyMonitoringBatchItem.claimable, claimed, hlease]

theorem Claims.none (batchId workerId : String) (now leaseUntil : Instant)
    (rows : MonitoringRows) : Claims batchId workerId now leaseUntil rows [] [] := by
  constructor
  · exact Rows.only_nil
  · exact fun _ => Or.inl rfl
  · simp
  · simp

theorem Claims.cons {batchId workerId monitorId : String} {now leaseUntil : Instant}
    {item : CounterpartyMonitoringBatchItem}
    {items : List CounterpartyMonitoringBatchItem} {written : MonitoringRows}
    (hlease : now ≤ leaseUntil) (hitem : itemAt rows batchId monitorId = some item)
    (hclaimable : item.claimable now = true)
    (h : Claims batchId workerId now leaseUntil
      (⟨MonitoringKey.batchItem batchId monitorId,
        some (claimed workerId leaseUntil item)⟩ :: rows) items written) :
    Claims batchId workerId now leaseUntil rows
      (claimed workerId leaseUntil item :: items)
      (written ++ [⟨MonitoringKey.batchItem batchId monitorId,
        some (claimed workerId leaseUntil item)⟩]) := by
  have hself : itemAt (⟨MonitoringKey.batchItem batchId monitorId,
      some (claimed workerId leaseUntil item)⟩ :: rows) batchId monitorId =
        some (claimed workerId leaseUntil item) := by simp
  have hkept : itemAt (written ++ ⟨MonitoringKey.batchItem batchId monitorId,
      some (claimed workerId leaseUntil item)⟩ :: rows) batchId monitorId =
        some (claimed workerId leaseUntil item) := by
    rcases h.itemAt_eq monitorId with hsame | ⟨again, hagain, hreclaimable, _⟩
    · exact hsame.trans hself
    · obtain rfl := Option.some.inj (hself.symm.trans hagain)
      rw [not_claimable_claimed hlease] at hreclaimable
      cases hreclaimable
  have hother : ∀ other, monitorId ≠ other →
      itemAt (⟨MonitoringKey.batchItem batchId monitorId,
        some (claimed workerId leaseUntil item)⟩ :: rows) batchId other =
          itemAt rows batchId other := by
    intro other hne
    simp [hne]
  have hrest : ∀ found ∈ items, ∃ other before, monitorId ≠ other ∧
      itemAt rows batchId other = some before ∧ before.claimable now = true ∧
      found = claimed workerId leaseUntil before ∧
      itemAt (written ++ ⟨MonitoringKey.batchItem batchId monitorId,
        some (claimed workerId leaseUntil item)⟩ :: rows) batchId other =
          some found := by
    intro found hfound
    obtain ⟨other, before, hbefore, hbeforeClaimable, hclaimed, hafter⟩ :=
      h.claimed_of_mem found hfound
    have hne : monitorId ≠ other := by
      rintro rfl
      obtain rfl := Option.some.inj (hself.symm.trans hbefore)
      rw [not_claimable_claimed hlease] at hbeforeClaimable
      cases hbeforeClaimable
    rw [hother other hne] at hbefore
    exact ⟨other, before, hne, hbefore, hbeforeClaimable, hclaimed, hafter⟩
  have hsplit : (written ++ [⟨MonitoringKey.batchItem batchId monitorId,
      some (claimed workerId leaseUntil item)⟩]) ++ rows = written ++
        ⟨MonitoringKey.batchItem batchId monitorId,
          some (claimed workerId leaseUntil item)⟩ :: rows := by simp
  constructor
  · exact Rows.only_append.mpr ⟨h.within, by simp⟩
  · intro other
    rw [hsplit]
    by_cases hne : monitorId = other
    · subst hne
      exact Or.inr ⟨item, hitem, hclaimable, hkept, List.mem_cons_self⟩
    · rw [← hother other hne]
      rcases h.itemAt_eq other with hsame | ⟨before, hbefore, hbeforeClaimable, hafter,
        hmem⟩
      · exact Or.inl hsame
      · exact Or.inr ⟨before, hbefore, hbeforeClaimable, hafter,
          List.mem_cons_of_mem _ hmem⟩
  · intro found hfound
    rw [hsplit]
    rcases List.mem_cons.mp hfound with rfl | hfound
    · exact ⟨monitorId, item, hitem, hclaimable, rfl, hkept⟩
    · obtain ⟨other, before, _, hbefore, hrest⟩ := hrest found hfound
      exact ⟨other, before, hbefore, hrest⟩
  · intro hkeyed
    rw [List.map_cons, List.nodup_cons]
    constructor
    · intro hmem
      obtain ⟨found, hfound, hid⟩ := List.mem_map.mp hmem
      obtain ⟨other, before, hne, hbefore, _, rfl, _⟩ := hrest found hfound
      have hfirst := (hkeyed monitorId item hitem).2
      have hsecond := (hkeyed other before hbefore).2
      exact hne (hfirst.symm.trans (hid.symm.trans hsecond))
    · apply h.distinct
      intro other found hfound
      by_cases hne : monitorId = other
      · subst hne
        obtain rfl := Option.some.inj (hself.symm.trans hfound)
        exact hkeyed monitorId item hitem
      · rw [hother other hne] at hfound
        exact hkeyed other found hfound

theorem claimEach_eq_ok {batchId workerId : String} {now leaseUntil : Instant}
    {monitorIds : List String} {items : List CounterpartyMonitoringBatchItem}
    (hlease : now ≤ leaseUntil)
    (h : (claimEach batchId workerId now leaseUntil monitorIds).execute locked rows
      own = .ok (items, own')) :
    ∃ written, own' = written ++ own ∧
      Claims batchId workerId now leaseUntil (own ++ rows) items written := by
  induction monitorIds generalizing own items with
  | nil =>
      obtain ⟨rfl, rfl⟩ := execute_pure_eq_ok.mp h
      exact ⟨[], rfl, Claims.none _ _ _ _ _⟩
  | cons monitorId rest ih =>
      simp only [claimEach, execute_bind_eq_ok, execute_updateWhere_eq_ok] at h
      obtain ⟨_, _, hupdate, later, _, hrest, h⟩ := h
      obtain ⟨rfl, rfl⟩ := execute_pure_eq_ok.mp h
      obtain ⟨written, rfl, hclaims⟩ := ih hrest
      rcases hupdate with ⟨_, rfl, rfl⟩ | ⟨row, hrow, rfl, rfl⟩
      · exact ⟨written, rfl, hclaims⟩
      · obtain ⟨item, hitem, hclaimed⟩ := Option.bind_eq_some_iff.mp hrow
        split_ifs at hclaimed with hclaimable
        obtain rfl := Option.some.inj hclaimed
        exact ⟨written ++ [_], by simp, Claims.cons hlease hitem hclaimable hclaims⟩

theorem claimItems_eq_ok {batchId workerId : String} {leaseSeconds : ℤ} {now : Instant}
    {limit : ℕ} {items : List CounterpartyMonitoringBatchItem}
    (hlease : 0 ≤ leaseSeconds)
    (h : (claimItems batchId workerId leaseSeconds now limit).execute locked rows own =
      .ok (items, own')) :
    ∃ written, own' = written ++ own ∧ Claims batchId workerId now
      (now + seconds leaseSeconds) (own ++ rows) items written := by
  have hlater : now ≤ now + seconds leaseSeconds := by
    have := Int.mul_nonneg hlease (by decide : (0 : ℤ) ≤ 1000000)
    exact Int.le_add_of_nonneg_right this
  exact claimEach_eq_ok hlater h

theorem completeItem_eq_ok {batchId monitorId workerId : String} {now : Instant}
    {result : CounterpartyMonitoringBatchItem} :
    (completeItem batchId monitorId workerId now).execute locked rows own =
        .ok (result, own') ↔
      ∃ item, itemAt (own ++ rows) batchId monitorId = some item ∧
        item.heldBy workerId now = true ∧ result = completed now item ∧
        own' = ⟨MonitoringKey.batchItem batchId monitorId, some result⟩ :: own := by
  unfold completeItem
  exact execute_guarded_eq_ok rfl fun _ => rfl

theorem failItem_eq_ok {batchId monitorId workerId errorCode : String}
    {retryable : Bool} {availableAt now : Instant}
    {result : CounterpartyMonitoringBatchItem} :
    (failItem batchId monitorId workerId retryable errorCode availableAt now).execute
        locked rows own = .ok (result, own') ↔
      ∃ item, itemAt (own ++ rows) batchId monitorId = some item ∧
        item.heldBy workerId now = true ∧
        result = failed retryable errorCode availableAt now item ∧
        own' = ⟨MonitoringKey.batchItem batchId monitorId, some result⟩ :: own := by
  unfold failItem
  exact execute_guarded_eq_ok rfl fun _ => rfl

/-- A batch as it is finalized when so many items were counted. -/
def finalized (now : Instant) (pending : ℕ) (batch : CounterpartyMonitoringBatch) :
    CounterpartyMonitoringBatch :=
  let status : BatchStatus :=
    if batch.collectionComplete && pending == 0 then .completed else .running
  { batch with
    status := status
    completedAt := if status = .completed then batch.completedAt.or (some now) else none }

theorem finalizeCounted_eq_ok {batchId : String} {now : Instant} {pending : ℕ}
    {result : CounterpartyMonitoringBatch} :
    (finalizeCounted batchId now pending).execute locked rows own =
        .ok (result, own') ↔
      ∃ batch, batchAt (own ++ rows) batchId = some batch ∧
        result = finalized now pending batch ∧
        own' = ⟨MonitoringKey.batch batchId, some result⟩ ::
          ⟨MonitoringKey.batch batchId, some batch⟩ :: own := by
  rw [finalizeCounted, execute_bind_eq_ok]
  simp only [getForUpdate_eq_ok]
  have hupdate : ∀ batch : CounterpartyMonitoringBatch,
      (updateWhere (MonitoringKey.batch batchId)
        (fun row : CounterpartyMonitoringBatch => some { row with
          status := (finalized now pending batch).status
          completedAt := if (finalized now pending batch).status = .completed then
            row.completedAt.or (some now) else none }) : MonitoringTx _).execute locked
        rows (⟨MonitoringKey.batch batchId, some batch⟩ :: own) =
      .ok (some (finalized now pending batch), ⟨MonitoringKey.batch batchId,
        some (finalized now pending batch)⟩ ::
          ⟨MonitoringKey.batch batchId, some batch⟩ :: own) := by
    intro batch
    rw [execute_updateWhere, List.cons_append, Rows.get_cons_self]
    rfl
  constructor
  · rintro ⟨batch, _, ⟨hbatch, rfl⟩, h⟩
    obtain ⟨_, _, hupdated, hrest⟩ := execute_bind_eq_ok.mp h
    obtain ⟨rfl, rfl⟩ := Prod.mk.inj (Except.ok.inj ((hupdate batch).symm.trans hupdated))
    obtain ⟨rfl, rfl⟩ := execute_pure_eq_ok.mp hrest
    exact ⟨batch, hbatch, rfl, rfl⟩
  · rintro ⟨batch, hbatch, rfl, rfl⟩
    exact ⟨batch, _, ⟨hbatch, rfl⟩, execute_bind_eq_ok.mpr ⟨_, _, hupdate batch, rfl⟩⟩

theorem finalizeBatch_eq_ok {batchId : String} {now : Instant}
    {result : CounterpartyMonitoringBatch} :
    (finalizeBatch batchId now).execute locked rows own = .ok (result, own') ↔
      ∃ batch, batchAt (own ++ rows) batchId = some batch ∧
        result = finalized now (openItems batchId (own ++ rows)) batch ∧
        own' = ⟨MonitoringKey.batch batchId, some result⟩ ::
          ⟨MonitoringKey.batch batchId, some batch⟩ :: own := by
  rw [finalizeBatch, execute_bind_eq_ok]
  constructor
  · rintro ⟨_, _, hcount, h⟩
    obtain ⟨rfl, rfl⟩ := Prod.mk.inj (Except.ok.inj hcount)
    exact finalizeCounted_eq_ok.mp h
  · intro h
    exact ⟨_, own, rfl, finalizeCounted_eq_ok.mpr h⟩

end Statements

end MonitoringBatchRepository

namespace CounterpartyMonitoringWorker

open MonitoringBatchRepository

variable {uuid5 : String → String} {worker : CounterpartyMonitoringWorker}
  {locked : LockedItems} {rows own : MonitoringRows}

/-- What the failure of an item writes. -/
theorem fail_eq_ok {item result : CounterpartyMonitoringBatchItem} {retryable : Bool}
    {errorCode : String} {now : Instant}
    (h : (worker.fail uuid5 item retryable errorCode now).execute locked rows [] =
      .ok (result, own)) :
    ∃ row monitor record, itemAt rows item.batchId item.monitorId = some row ∧
      row.heldBy worker.workerId now = true ∧
      monitorAt rows item.monitorId = some monitor ∧
      result = failed (worker.shouldRetry item retryable) errorCode
        (worker.availableAt item retryable now) now row ∧
      own = [⟨MonitoringKey.auditLog (AuditRecord.auditId record), some record⟩,
        ⟨MonitoringKey.monitor item.monitorId, some { monitor with
          lastErrorCode := some errorCode
          lastErrorAt := some now
          nextCheckAt := worker.availableAt item retryable now }⟩,
        ⟨MonitoringKey.batchItem item.batchId item.monitorId, some result⟩] := by
  simp only [fail, execute_bind_eq_ok, failItem_eq_ok, List.nil_append] at h
  obtain ⟨_, _, ⟨row, hrow, hheld, rfl, rfl⟩, _, _, herror, _, _, haudit, h⟩ := h
  obtain ⟨rfl, rfl⟩ := execute_pure_eq_ok.mp h
  obtain ⟨monitor, hmonitor, rfl⟩ :=
    MonitoringRepository.setMonitorError_eq_ok.mp herror
  obtain rfl := MonitoringAudits.append_eq_ok haudit
  refine ⟨row, monitor, _, hrow, hheld, ?_, rfl, rfl⟩
  exact (Rows.get_cons_ne (by simp) _ _).symm.trans hmonitor

/-- The rows after the failure of an item: its monitor has the error, and the
item is not completed. -/
theorem fail_reads {item result : CounterpartyMonitoringBatchItem} {retryable : Bool}
    {errorCode : String} {now : Instant}
    (h : (worker.fail uuid5 item retryable errorCode now).execute locked rows [] =
      .ok (result, own)) :
    (∃ monitor, monitorAt rows item.monitorId = some monitor ∧
      monitorAt (own ++ rows) item.monitorId = some { monitor with
        lastErrorCode := some errorCode
        lastErrorAt := some now
        nextCheckAt := worker.availableAt item retryable now }) ∧
    (∀ key, recordAt (own ++ rows) key = recordAt rows key) ∧
    (∀ snapshotId, snapshotAt (own ++ rows) snapshotId = snapshotAt rows snapshotId) ∧
    itemAt (own ++ rows) item.batchId item.monitorId = some result ∧
    result.state ≠ .completed := by
  obtain ⟨row, monitor, record, _, _, hmonitor, hresult, rfl⟩ := fail_eq_ok h
  refine ⟨⟨monitor, hmonitor, ?_⟩, ?_, ?_, ?_, ?_⟩
  · simp [monitorAt]
  · simp [recordAt]
  · simp [snapshotAt]
  · simp [itemAt]
  · rw [hresult, failed]
    cases worker.shouldRetry item retryable <;> simp

/-- What the first transaction of a cycle writes. -/
theorem openBatch_eq_ok {batchKey : String} {scheduledAt now : Instant}
    {updated : CounterpartyMonitoringBatch}
    {items : List CounterpartyMonitoringBatchItem}
    (h : (worker.openBatch uuid5 batchKey scheduledAt now).execute locked rows [] =
      .ok ((updated, items), own)) :
    ∃ batch started collected claims,
      (startOrResumeDailyBatch uuid5 batchKey scheduledAt).execute locked rows [] =
        .ok (batch, started) ∧
      (materializeDueItems batch.batchId scheduledAt
        worker.materializationLimit).execute locked rows started =
          .ok (updated, collected) ∧
      own = claims ++ collected ∧
      Claims updated.batchId worker.workerId now (now + seconds worker.leaseSeconds)
        (collected ++ rows) items claims := by
  simp only [openBatch, execute_bind_eq_ok] at h
  obtain ⟨batch, started, hstart, _, collected, hcollect, _, _, hclaim, h⟩ := h
  obtain ⟨hsame, rfl⟩ := execute_pure_eq_ok.mp h
  obtain ⟨rfl, rfl⟩ := Prod.mk.inj hsame
  obtain ⟨claims, rfl, hclaims⟩ :=
    claimItems_eq_ok (le_of_lt worker.valid.2.2.1) hclaim
  exact ⟨batch, started, collected, claims, hstart, hcollect, rfl, hclaims⟩

/-- A cycle that begins touches the batches only. -/
theorem openBatch_within {batchKey : String} {scheduledAt now : Instant}
    {updated : CounterpartyMonitoringBatch}
    {items : List CounterpartyMonitoringBatchItem}
    (h : (worker.openBatch uuid5 batchKey scheduledAt now).execute locked rows [] =
      .ok ((updated, items), own)) : WithinTable .batches own := by
  obtain ⟨batch, started, collected, claims, hstart, hcollect, rfl, hclaims⟩ :=
    openBatch_eq_ok h
  have hitems : ∀ {batchId : String} {key : MonitoringKey},
      (∃ monitorId, key = .batchItem batchId monitorId) → key.table = .batches := by
    rintro _ _ ⟨_, rfl⟩
    rfl
  have hstarted : WithinTable .batches started := by
    rcases startOrResumeDailyBatch_eq_ok hstart with ⟨_, _, _, rfl⟩ | ⟨_, _, _, rfl⟩ <;>
      simp
  have hcollected : WithinTable .batches collected := by
    obtain ⟨_, _, ⟨_, _, rfl⟩ | ⟨_, page, inserted, rfl, hcollects⟩⟩ :=
      materializeDueItems_eq_ok hcollect
    · rw [WithinTable, Rows.only_cons]
      exact ⟨rfl, hstarted⟩
    · have hinserted : WithinTable .batches inserted :=
        hcollects.inserts.items.mono fun _ => hitems
      rw [WithinTable, Rows.only_cons, Rows.only_append, Rows.only_cons]
      exact ⟨rfl, hinserted, rfl, hstarted⟩
  rw [WithinTable, Rows.only_append]
  exact ⟨hclaims.within.mono fun _ => hitems, hcollected⟩

theorem startOrResume_itemAt {batchKey : String} {scheduledAt : Instant}
    {batch : CounterpartyMonitoringBatch}
    (h : (startOrResumeDailyBatch uuid5 batchKey scheduledAt).execute locked rows [] =
      .ok (batch, own)) (batchId monitorId : String) :
    itemAt (own ++ rows) batchId monitorId = itemAt rows batchId monitorId := by
  rcases startOrResumeDailyBatch_eq_ok h with ⟨_, _, _, rfl⟩ | ⟨_, _, _, rfl⟩
  · simp [itemAt]
  · rfl

/-- Collecting adds items, and leaves those that are there. -/
theorem materialize_item {opened : String} {scheduledAt : Instant} {limit : ℕ}
    {started : MonitoringRows} {updated : CounterpartyMonitoringBatch}
    (h : (materializeDueItems opened scheduledAt limit).execute locked rows started =
      .ok (updated, own)) (batchId monitorId : String) :
    itemAt (own ++ rows) batchId monitorId = itemAt (started ++ rows) batchId monitorId ∨
      (itemAt (started ++ rows) batchId monitorId = none ∧
        itemAt (own ++ rows) batchId monitorId =
          some (pendingItem batchId monitorId scheduledAt)) := by
  obtain ⟨_, _, ⟨_, _, rfl⟩ | ⟨_, page, inserted, rfl, hcollects⟩⟩ :=
    materializeDueItems_eq_ok h
  · simp
  · rw [List.cons_append, List.append_assoc, List.cons_append, itemAt_batch]
    by_cases hbatch : batchId = opened
    · subst hbatch
      rw [hcollects.inserts.itemAt_eq, itemAt_batch]
      cases itemAt (started ++ rows) batchId monitorId with
      | some item => exact Or.inl rfl
      | none =>
          by_cases hpage : monitorId ∈ page
          · exact Or.inr ⟨rfl, if_pos hpage⟩
          · exact Or.inl (if_neg hpage)
    · left
      refine (Rows.Only.get_append hcollects.inserts.items ?_ _).trans
        (itemAt_batch _ _ _ _ _)
      rintro ⟨_, hkey⟩
      exact hbatch (MonitoringKey.batchItem.inj hkey).1

theorem materialize_itemAt {opened batchId monitorId : String} {scheduledAt : Instant}
    {limit : ℕ} {started : MonitoringRows} {updated : CounterpartyMonitoringBatch}
    {item : CounterpartyMonitoringBatchItem}
    (h : (materializeDueItems opened scheduledAt limit).execute locked rows started =
      .ok (updated, own))
    (hitem : itemAt (started ++ rows) batchId monitorId = some item) :
    itemAt (own ++ rows) batchId monitorId = some item := by
  rcases materialize_item h batchId monitorId with hsame | ⟨hnone, _⟩
  · exact hsame.trans hitem
  · rw [hnone] at hitem
    cases hitem

/-- An item that is there stays, or is claimed. -/
theorem openBatch_item {batchKey batchId monitorId : String} {scheduledAt now : Instant}
    {updated : CounterpartyMonitoringBatch}
    {items : List CounterpartyMonitoringBatchItem}
    {item : CounterpartyMonitoringBatchItem}
    (h : (worker.openBatch uuid5 batchKey scheduledAt now).execute locked rows [] =
      .ok ((updated, items), own))
    (hitem : itemAt rows batchId monitorId = some item) :
    itemAt (own ++ rows) batchId monitorId = some item ∨
      (item.claimable now = true ∧ itemAt (own ++ rows) batchId monitorId =
        some (claimed worker.workerId (now + seconds worker.leaseSeconds) item)) := by
  obtain ⟨batch, started, collected, claims, hstart, hcollect, rfl, hclaims⟩ :=
    openBatch_eq_ok h
  rw [← startOrResume_itemAt hstart] at hitem
  have hcollected := materialize_itemAt hcollect hitem
  rw [List.append_assoc]
  by_cases hbatch : batchId = updated.batchId
  · subst hbatch
    rcases hclaims.itemAt_eq monitorId with hsame | ⟨found, hfound, hclaimable, hafter, _⟩
    · exact Or.inl (hsame.trans hcollected)
    · obtain rfl := Option.some.inj (hcollected.symm.trans hfound)
      exact Or.inr ⟨hclaimable, hafter⟩
  · refine Or.inl ((Rows.Only.get_append hclaims.within ?_ _).trans hcollected)
    rintro ⟨_, hkey⟩
    exact hbatch (MonitoringKey.batchItem.inj hkey).1

end CounterpartyMonitoringWorker

end ShemaPlatform
