/-
One item of a batch over all attempts to process it.  What the monitor says
when the item is completed is what the observation has left, exactly while no
failure of the item is recorded after the observation.
-/
import ShemaPlatform.BatchRules
import ShemaPlatform.ChangeLog

namespace ShemaPlatform

open Calendar ReadCommitted ReadCommitted.Prog StateRun

namespace ItemAgreement

/-- A claimed item that is being processed, since `now`. -/
structure Attempt where
  item : CounterpartyMonitoringBatchItem
  now : Instant
  recorded : Bool

structure State where
  rows : MonitoringRows
  attempts : List Attempt

/-- What the worker does about the item; an attempt is named by its place. -/
inductive Action where
  | claim (batchKey : String) (scheduledAt claimedAt now : Instant)
  | observe (attempt : ℕ) (observation : CounterpartyObservation)
      (changeId auditId : String)
  | complete (attempt : ℕ)
  | fail (attempt : ℕ) (retryable : Bool) (errorCode : String)

section Runs

variable (sha256 uuid5 : String → String) (worker : CounterpartyMonitoringWorker)
  (batchId monitorId : String)

/-- A transaction with nothing else in between; a refused one leaves no trace. -/
def attempted {ρ : Type} (transaction : MonitoringTx ρ) (rows : MonitoringRows) :
    Option (ρ × MonitoringRows) :=
  (transaction.atomically (fun _ => false) rows).toOption

/-- `claim` opens an attempt when the item is among the claimed ones. -/
def claimStep (state : State) (batchKey : String) (scheduledAt claimedAt now : Instant) :
    State :=
  match attempted (worker.openBatch uuid5 batchKey scheduledAt claimedAt) state.rows with
  | none => state
  | some ((_, items), rows) =>
      let own := items.filter fun item =>
        item.batchId == batchId && item.monitorId == monitorId
      ⟨rows, state.attempts ++ own.map fun item => ⟨item, now, false⟩⟩

/-- The observation of an attempt is recorded, or stays to be recorded. -/
def observeStep (state : State) (place : ℕ) (attempt : Attempt)
    (observation : CounterpartyObservation) (changeId auditId : String) : State :=
  match monitorAt state.rows attempt.item.monitorId with
  | none => state
  | some monitor =>
      if (worker.refusal attempt.item (some monitor)).isSome then state
      else
        let call := worker.observationCall attempt.item monitor observation
          attempt.now changeId auditId
        match attempted (call.record sha256 uuid5) state.rows with
        | none => state
        | some (_, rows) =>
            ⟨rows, state.attempts.set place { attempt with recorded := true }⟩

/-- A completion that is refused or lost leaves its attempt to fail. -/
def completeStep (state : State) (place : ℕ) (attempt : Attempt) : State :=
  match attempted (worker.complete attempt.item attempt.now) state.rows with
  | none => state
  | some (_, rows) => ⟨rows, state.attempts.eraseIdx place⟩

def failStep (state : State) (place : ℕ) (attempt : Attempt) (retryable : Bool)
    (errorCode : String) : State :=
  match attempted (worker.fail uuid5 attempt.item retryable errorCode attempt.now)
      state.rows with
  | none => ⟨state.rows, state.attempts.eraseIdx place⟩
  | some (_, rows) => ⟨rows, state.attempts.eraseIdx place⟩

/-- An attempt is completed after its observation, and may fail before and
after it. -/
def step (state : State) : Action → State
  | .claim batchKey scheduledAt claimedAt now =>
      claimStep uuid5 worker batchId monitorId state batchKey scheduledAt claimedAt now
  | .observe place observation changeId auditId =>
      match state.attempts[place]? with
      | some attempt =>
          if attempt.recorded then state
          else observeStep sha256 uuid5 worker state place attempt observation changeId
            auditId
      | none => state
  | .complete place =>
      match state.attempts[place]? with
      | some attempt =>
          if attempt.recorded then completeStep worker state place attempt else state
      | none => state
  | .fail place retryable errorCode =>
      match state.attempts[place]? with
      | some attempt => failStep uuid5 worker state place attempt retryable errorCode
      | none => state

/-- The key under which the observation of the item is recorded. -/
def itemKey : String :=
  s!"counterparty.observation:{monitorId}:" ++ s!"{batchId}:{monitorId}"

/-- The item is there, and nothing is recorded for it. -/
structure Materialized (rows : MonitoringRows) : Prop where
  item : ∃ item, itemAt rows batchId monitorId = some item ∧ item.state ≠ .completed
  monitor : ∃ monitor, monitorAt rows monitorId = some monitor ∧
    monitor.monitorId = monitorId
  unused : recordAt rows (itemKey batchId monitorId) = none
  named : ∀ {snapshotId snapshot}, snapshotAt rows snapshotId = some snapshot →
    PyText.startsWith snapshot.snapshotId "pending:" = false

def Completed (rows : MonitoringRows) : Prop :=
  ∃ item, itemAt rows batchId monitorId = some item ∧ item.state = .completed

/-- The monitor names the snapshot recorded for the item, has no error, and is
due again one period after the check. -/
def Agrees (rows : MonitoringRows) : Prop :=
  ∃ monitor record checkedAt, monitorAt rows monitorId = some monitor ∧
    recordAt rows (itemKey batchId monitorId) = some record ∧
    monitor.lastErrorCode = none ∧ monitor.lastSnapshotId = some record.resultRef ∧
    monitor.lastCheckedAt = some checkedAt ∧
    monitor.nextCheckAt = checkedAt + seconds monitor.frequencySeconds

/-- A failure of the item is recorded only before its observation. -/
def FailsBefore (state : State) : Action → Prop
  | .fail place retryable errorCode => ∀ attempt ∈ state.attempts[place]?,
      (worker.fail uuid5 attempt.item retryable errorCode attempt.now).accepts
        (fun _ => false) state.rows = true →
      recordAt state.rows (itemKey batchId monitorId) = none
  | _ => True

/-- What holds of the item and its attempts between transactions. -/
structure Consistent (state : State) : Prop where
  monitor : ∃ monitor, monitorAt state.rows monitorId = some monitor ∧
    monitor.monitorId = monitorId
  named : ∀ {snapshotId snapshot}, snapshotAt state.rows snapshotId = some snapshot →
    PyText.startsWith snapshot.snapshotId "pending:" = false
  answered : ∀ {record}, recordAt state.rows (itemKey batchId monitorId) = some record →
    PyText.startsWith record.resultRef "pending:" = false
  attempts : ∀ attempt ∈ state.attempts, attempt.item.batchId = batchId ∧
    attempt.item.monitorId = monitorId ∧ (attempt.recorded = true →
      recordAt state.rows (itemKey batchId monitorId) ≠ none)
  item : ∃ item, itemAt state.rows batchId monitorId = some item ∧
    (item.state = .completed → recordAt state.rows (itemKey batchId monitorId) ≠ none)

/-- Whatever is recorded for the item, the monitor agrees with. -/
def Settled (state : State) : Prop :=
  recordAt state.rows (itemKey batchId monitorId) ≠ none →
    Agrees batchId monitorId state.rows

/-- A failure stands after the observation. -/
def Spoiled (state : State) : Prop :=
  recordAt state.rows (itemKey batchId monitorId) ≠ none ∧
    ∃ monitor, monitorAt state.rows monitorId = some monitor ∧
      monitor.lastErrorCode ≠ none

/-- What one transaction does to the rows the item depends on. -/
inductive Change (rows rows' : MonitoringRows) : Prop where
  | moved (hmonitor : monitorAt rows' monitorId = monitorAt rows monitorId)
      (hrecord : recordAt rows' (itemKey batchId monitorId) =
        recordAt rows (itemKey batchId monitorId))
      (hsnapshots : ∀ snapshotId, snapshotAt rows' snapshotId =
        snapshotAt rows snapshotId)
      (hitem : ∃ item, itemAt rows' batchId monitorId = some item ∧
        (item.state = .completed → recordAt rows (itemKey batchId monitorId) ≠ none))
  | observed (hunused : recordAt rows (itemKey batchId monitorId) = none)
      (hagrees : Agrees batchId monitorId rows')
      (hanswered : ∀ record, recordAt rows' (itemKey batchId monitorId) =
        some record → PyText.startsWith record.resultRef "pending:" = false)
      (hmonitor : ∃ monitor, monitorAt rows' monitorId = some monitor ∧
        monitor.monitorId = monitorId)
      (hitem : itemAt rows' batchId monitorId = itemAt rows batchId monitorId)
      (hnamed : ∀ {snapshotId snapshot}, snapshotAt rows' snapshotId = some snapshot →
        PyText.startsWith snapshot.snapshotId "pending:" = false)

/-- What the failure of the item does to them. -/
structure Failure (rows rows' : MonitoringRows) : Prop where
  monitor : ∃ before after, monitorAt rows monitorId = some before ∧
    monitorAt rows' monitorId = some after ∧ after.monitorId = before.monitorId ∧
    after.lastErrorCode ≠ none
  record : recordAt rows' (itemKey batchId monitorId) =
    recordAt rows (itemKey batchId monitorId)
  snapshots : ∀ snapshotId, snapshotAt rows' snapshotId = snapshotAt rows snapshotId
  item : ∃ item, itemAt rows' batchId monitorId = some item ∧ item.state ≠ .completed

end Runs

variable {sha256 uuid5 : String → String} {worker : CounterpartyMonitoringWorker}
  {batchId monitorId : String} {rows rows' : MonitoringRows} {state : State}

theorem attempted_eq_some {ρ : Type} {transaction : MonitoringTx ρ} {result : ρ} :
    attempted transaction rows = some (result, rows') ↔
      transaction.atomically (fun _ => false) rows = .ok (result, rows') := by
  unfold attempted
  cases transaction.atomically (fun _ => false) rows with
  | error error => simp [Except.toOption]
  | ok outcome => simp [Except.toOption]

theorem Materialized.consistent (h : Materialized batchId monitorId rows) :
    Consistent batchId monitorId ⟨rows, []⟩ := by
  constructor
  · exact h.monitor
  · exact h.named
  · intro record hrecord
    rw [h.unused] at hrecord
    cases hrecord
  · simp
  · obtain ⟨item, hitem, hopen⟩ := h.item
    exact ⟨item, hitem, fun hcompleted => absurd hcompleted hopen⟩

theorem Materialized.settled (h : Materialized batchId monitorId rows) :
    Settled batchId monitorId ⟨rows, []⟩ :=
  fun hused => absurd h.unused hused

theorem Consistent.same (h : Consistent batchId monitorId state) :
    Change batchId monitorId state.rows state.rows :=
  .moved rfl rfl (fun _ => rfl) h.item

/-- Rows of the batches leave monitors, records and snapshots. -/
theorem Change.of_batches {own : MonitoringRows} (hown : WithinTable .batches own)
    (hitem : ∃ item, itemAt (own ++ rows) batchId monitorId = some item ∧
      (item.state = .completed → recordAt rows (itemKey batchId monitorId) ≠ none)) :
    Change batchId monitorId rows (own ++ rows) :=
  .moved (hown.get_append rows (by simp)) (hown.get_append rows (by simp))
    (fun _ => hown.get_append rows (by simp)) hitem

theorem change_of_claim (h : Consistent batchId monitorId state) {batchKey : String}
    {scheduledAt claimedAt : Instant} {updated : CounterpartyMonitoringBatch}
    {items : List CounterpartyMonitoringBatchItem}
    (hopen : attempted (worker.openBatch uuid5 batchKey scheduledAt claimedAt)
      state.rows = some ((updated, items), rows')) :
    Change batchId monitorId state.rows rows' := by
  obtain ⟨own, hexecute, rfl⟩ := atomically_eq_ok.mp (attempted_eq_some.mp hopen)
  apply Change.of_batches (CounterpartyMonitoringWorker.openBatch_within hexecute)
  obtain ⟨item, hitem, hcompleted⟩ := h.item
  rcases CounterpartyMonitoringWorker.openBatch_item hexecute hitem with hsame |
    ⟨_, hclaimed⟩
  · exact ⟨item, hsame, hcompleted⟩
  · exact ⟨_, hclaimed, fun hstate => by cases hstate⟩

theorem change_of_complete {attempt : Attempt}
    {result : CounterpartyMonitoringBatchItem}
    (hitem : attempt.item.batchId = batchId ∧ attempt.item.monitorId = monitorId)
    (hused : recordAt rows (itemKey batchId monitorId) ≠ none)
    (hcomplete : attempted (worker.complete attempt.item attempt.now) rows =
      some (result, rows')) : Change batchId monitorId rows rows' := by
  obtain ⟨own, hexecute, rfl⟩ := atomically_eq_ok.mp (attempted_eq_some.mp hcomplete)
  obtain ⟨row, _, _, rfl, rfl⟩ :=
    MonitoringBatchRepository.completeItem_eq_ok.mp hexecute
  obtain ⟨rfl, rfl⟩ := hitem
  apply Change.of_batches (by simp)
  exact ⟨_, (itemAt_item _ _ _ _ _ _).trans (if_pos ⟨rfl, rfl⟩), fun _ => hused⟩

theorem failure_of_fail {attempt : Attempt} {retryable : Bool} {errorCode : String}
    {result : CounterpartyMonitoringBatchItem}
    (hitem : attempt.item.batchId = batchId ∧ attempt.item.monitorId = monitorId)
    (hfail : attempted (worker.fail uuid5 attempt.item retryable errorCode attempt.now)
      rows = some (result, rows')) : Failure batchId monitorId rows rows' := by
  obtain ⟨own, hexecute, rfl⟩ := atomically_eq_ok.mp (attempted_eq_some.mp hfail)
  obtain ⟨rfl, rfl⟩ := hitem
  obtain ⟨⟨monitor, hmonitor, herror⟩, hrecords, hsnapshots, hresult, hopen⟩ :=
    CounterpartyMonitoringWorker.fail_reads hexecute
  constructor
  · exact ⟨monitor, _, hmonitor, herror, rfl, by simp⟩
  · exact hrecords _
  · exact hsnapshots
  · exact ⟨result, hresult, hopen⟩

theorem observationCall_key (worker : CounterpartyMonitoringWorker) (item : CounterpartyMonitoringBatchItem)
    (monitor : CounterpartyMonitor) (observation : CounterpartyObservation)
    (now : Instant) (changeId auditId : String) :
    (worker.observationCall item monitor observation now changeId auditId).key =
      some s!"{item.batchId}:{item.monitorId}" := by
  have hnonempty : s!"{item.batchId}:{item.monitorId}" ≠ "" := by
    intro hempty
    simp only [String.append_eq_empty_iff] at hempty
    exact absurd hempty.1.2 (by decide)
  simp [ObservationCall.key, CounterpartyMonitoringWorker.observationCall, hnonempty]

theorem change_of_record {call : ObservationCall} {stored : CounterpartySnapshot}
    (h : Consistent batchId call.monitorId state)
    (hkey : call.key = some s!"{batchId}:{call.monitorId}")
    (hrecord : attempted (call.record sha256 uuid5) state.rows = some (stored, rows')) :
    Change batchId call.monitorId state.rows rows' ∧
      recordAt rows' (itemKey batchId call.monitorId) ≠ none := by
  obtain ⟨monitor, hmonitor, hkeyed⟩ := h.monitor
  rcases ObservationCall.record_atomically (attempted_eq_some.mp hrecord) with
    ⟨hsame, hreplays⟩ | ⟨found, writes, hwrites, hkeeps⟩
  · obtain ⟨key, record, hused, hfound, _⟩ := hreplays.answered
    have hitemKey : recordAt state.rows (itemKey batchId call.monitorId) =
        some record := by
      rw [hkey, Option.some.injEq] at hused
      rw [← hused] at hfound
      exact hfound
    rw [hsame, hitemKey]
    exact ⟨h.same, by simp⟩
  · obtain rfl := Option.some.inj (hmonitor.symm.trans hkeeps.found)
    have hunused : recordAt state.rows (itemKey batchId call.monitorId) = none := by
      rcases hkeeps.reserves.fresh _ hkey with hnone | ⟨record, hpending, href⟩
      · exact hnone
      · have hanswered := h.answered hpending
        rw [href, PyText.startsWith_append] at hanswered
        cases hanswered
    obtain ⟨record, hrecorded, _, href⟩ := hkeeps.recorded _ hkey
    have hafter : recordAt rows' (itemKey batchId call.monitorId) = some record := by
      rw [hwrites]
      exact (hkeeps.get_eq _).trans hrecorded
    have hchecked : monitorAt rows' call.monitorId = some (call.checked stored monitor) := by
      rw [hwrites]
      exact (hkeeps.get_eq _).trans (Rows.get_cons_self _ _ _)
    have hstored : PyText.startsWith stored.snapshotId "pending:" = false := by
      rcases hkeeps.stores.added_or_found with ⟨_, _, rfl, _⟩ | ⟨_, _, hold, _⟩
      · exact not_pending_of_cps (PyText.startsWith_append _ _)
      · exact h.named hold
    refine ⟨.observed hunused ⟨_, record, call.now, hchecked, hafter, rfl, ?_, rfl, rfl⟩
      ?_ ⟨_, hchecked, hkeyed⟩ ?_ ?_, by simp [hafter]⟩
    · rw [href]
      rfl
    · intro found hfound
      obtain rfl := Option.some.inj (hafter.symm.trans hfound)
      rw [href]
      exact hstored
    · rw [hwrites]
      exact hkeeps.get_eq _
    · intro snapshotId snapshot hsnapshot
      rw [hwrites] at hsnapshot
      rcases hkeeps.snapshotAt_cases hsnapshot with hold | ⟨rfl, _⟩
      · exact h.named hold
      · exact not_pending_of_cps (PyText.startsWith_append _ _)

theorem attempt_item (h : Consistent batchId monitorId state) {place : ℕ}
    {attempt : Attempt} (hattempt : state.attempts[place]? = some attempt) :
    attempt.item.batchId = batchId ∧ attempt.item.monitorId = monitorId := by
  obtain ⟨hbatch, hmonitor, _⟩ := h.attempts attempt (List.mem_of_getElem? hattempt)
  exact ⟨hbatch, hmonitor⟩

/-- An observation of an attempt is one of the item's own monitor. -/
theorem change_of_observe (h : Consistent batchId monitorId state) {attempt : Attempt}
    {monitor : CounterpartyMonitor} {observation : CounterpartyObservation}
    {changeId auditId : String} {stored : CounterpartySnapshot}
    (hitem : attempt.item.batchId = batchId ∧ attempt.item.monitorId = monitorId)
    (hmonitor : monitorAt state.rows attempt.item.monitorId = some monitor)
    (hrecord : attempted ((worker.observationCall attempt.item monitor observation
      attempt.now changeId auditId).record sha256 uuid5) state.rows =
        some (stored, rows')) :
    Change batchId monitorId state.rows rows' ∧
      recordAt rows' (itemKey batchId monitorId) ≠ none := by
  obtain ⟨found, hfound, hkeyed⟩ := h.monitor
  rw [hitem.2] at hmonitor
  obtain rfl := Option.some.inj (hmonitor.symm.trans hfound)
  have hkey := observationCall_key worker attempt.item monitor observation
    attempt.now changeId auditId
  subst hkeyed
  rw [hitem.1, hitem.2] at hkey
  exact change_of_record h hkey hrecord

/-- A record for the item is never lost. -/
theorem Change.used (h : Change batchId monitorId rows rows')
    (hused : recordAt rows (itemKey batchId monitorId) ≠ none) :
    recordAt rows' (itemKey batchId monitorId) ≠ none := by
  cases h with
  | moved _ hrecord _ _ => rwa [hrecord]
  | observed hunused _ _ _ _ _ => exact absurd hunused hused

/-- Attempts that are left over, or new and in order. -/
def Follow (batchId monitorId : String) (state : State) (rows' : MonitoringRows)
    (attempts : List Attempt) : Prop :=
  ∀ attempt ∈ attempts, attempt ∈ state.attempts ∨
    (attempt.item.batchId = batchId ∧ attempt.item.monitorId = monitorId ∧
      (attempt.recorded = true → recordAt rows' (itemKey batchId monitorId) ≠ none))

theorem Follow.ordered {attempts : List Attempt}
    (h : Follow batchId monitorId state rows' attempts)
    (hconsistent : Consistent batchId monitorId state)
    (hused : recordAt state.rows (itemKey batchId monitorId) ≠ none →
      recordAt rows' (itemKey batchId monitorId) ≠ none) :
    ∀ attempt ∈ attempts, attempt.item.batchId = batchId ∧
      attempt.item.monitorId = monitorId ∧ (attempt.recorded = true →
        recordAt rows' (itemKey batchId monitorId) ≠ none) := by
  intro attempt hmem
  rcases h attempt hmem with hold | hnew
  · obtain ⟨hbatch, hmonitor, hrecorded⟩ := hconsistent.attempts attempt hold
    exact ⟨hbatch, hmonitor, fun h => hused (hrecorded h)⟩
  · exact hnew

theorem Consistent.change (h : Consistent batchId monitorId state)
    {attempts : List Attempt} (hchange : Change batchId monitorId state.rows rows')
    (hfollow : Follow batchId monitorId state rows' attempts) :
    Consistent batchId monitorId ⟨rows', attempts⟩ := by
  have hattempts := hfollow.ordered h hchange.used
  cases hchange with
  | moved hmonitor hrecord hsnapshots hitem =>
      constructor
      · rw [hmonitor]
        exact h.monitor
      · intro snapshotId snapshot hsnapshot
        rw [hsnapshots] at hsnapshot
        exact h.named hsnapshot
      · intro record hfound
        rw [hrecord] at hfound
        exact h.answered hfound
      · exact hattempts
      · rw [hrecord]
        exact hitem
  | observed hunused hagrees hanswered hmonitor hitem hnamed =>
      obtain ⟨item, hfound, hcompleted⟩ := h.item
      constructor
      · exact hmonitor
      · exact hnamed
      · exact hanswered _
      · exact hattempts
      · exact ⟨item, hitem.trans hfound, fun hstate =>
          absurd hunused (hcompleted hstate)⟩

theorem Consistent.failure (h : Consistent batchId monitorId state)
    {attempts : List Attempt} (hfailure : Failure batchId monitorId state.rows rows')
    (hfollow : Follow batchId monitorId state rows' attempts) :
    Consistent batchId monitorId ⟨rows', attempts⟩ := by
  have hattempts := hfollow.ordered h fun hused => by rwa [hfailure.record]
  obtain ⟨monitor, hmonitor, hkeyed⟩ := h.monitor
  obtain ⟨before, after, hbefore, hafter, hsame, _⟩ := hfailure.monitor
  obtain rfl := Option.some.inj (hmonitor.symm.trans hbefore)
  obtain ⟨item, hitem, hopen⟩ := hfailure.item
  constructor
  · exact ⟨after, hafter, hsame.trans hkeyed⟩
  · intro snapshotId snapshot hsnapshot
    rw [hfailure.snapshots] at hsnapshot
    exact h.named hsnapshot
  · intro record hfound
    rw [hfailure.record] at hfound
    exact h.answered hfound
  · exact hattempts
  · exact ⟨item, hitem, fun hstate => absurd hstate hopen⟩

theorem Follow.refl (batchId monitorId : String) (state : State) :
    Follow batchId monitorId state state.rows state.attempts :=
  fun _ hmem => Or.inl hmem

/-- An attempt that is over leaves the others. -/
theorem Follow.erased (batchId monitorId : String) (state : State)
    (rows' : MonitoringRows) (place : ℕ) :
    Follow batchId monitorId state rows' (state.attempts.eraseIdx place) :=
  fun _ hmem => Or.inl (List.mem_of_mem_eraseIdx hmem)

variable (uuid5 worker) in
theorem claim_cases (h : Consistent batchId monitorId state) (batchKey : String)
    (scheduledAt claimedAt now : Instant) :
    Follow batchId monitorId state
        (claimStep uuid5 worker batchId monitorId state batchKey scheduledAt
          claimedAt now).rows
        (claimStep uuid5 worker batchId monitorId state batchKey scheduledAt
          claimedAt now).attempts ∧
      Change batchId monitorId state.rows
        (claimStep uuid5 worker batchId monitorId state batchKey scheduledAt
          claimedAt now).rows := by
  unfold claimStep
  split
  · exact ⟨Follow.refl batchId monitorId state, h.same⟩
  · rename_i updated items rows' hopen
    constructor
    · intro attempt hmem
      rcases List.mem_append.mp hmem with hold | hnew
      · exact Or.inl hold
      · obtain ⟨item, hitem, rfl⟩ := List.mem_map.mp hnew
        have hown := (List.mem_filter.mp hitem).2
        rw [Bool.and_eq_true, beq_iff_eq, beq_iff_eq] at hown
        exact Or.inr ⟨hown.1, hown.2, fun hrecorded => by cases hrecorded⟩
    · exact change_of_claim h hopen

variable (sha256 uuid5 worker) in
theorem observe_cases (h : Consistent batchId monitorId state) {place : ℕ}
    {attempt : Attempt} (hattempt : state.attempts[place]? = some attempt)
    (observation : CounterpartyObservation) (changeId auditId : String) :
    Follow batchId monitorId state
        (observeStep sha256 uuid5 worker state place attempt observation changeId
          auditId).rows
        (observeStep sha256 uuid5 worker state place attempt observation changeId
          auditId).attempts ∧
      Change batchId monitorId state.rows
        (observeStep sha256 uuid5 worker state place attempt observation changeId
          auditId).rows := by
  have hitem := attempt_item h hattempt
  unfold observeStep
  split
  · exact ⟨Follow.refl batchId monitorId state, h.same⟩
  · rename_i monitor hmonitor
    split
    · exact ⟨Follow.refl batchId monitorId state, h.same⟩
    · dsimp only
      split
      · exact ⟨Follow.refl batchId monitorId state, h.same⟩
      · rename_i stored rows' hrecord
        obtain ⟨hchange, hused⟩ := change_of_observe h hitem hmonitor hrecord
        constructor
        · intro other hmem
          rcases List.mem_or_eq_of_mem_set hmem with hold | rfl
          · exact Or.inl hold
          · exact Or.inr ⟨hitem.1, hitem.2, fun _ => hused⟩
        · exact hchange

variable (worker) in
theorem complete_cases (h : Consistent batchId monitorId state) {place : ℕ}
    {attempt : Attempt} (hattempt : state.attempts[place]? = some attempt)
    (hrecorded : attempt.recorded = true) :
    Follow batchId monitorId state (completeStep worker state place attempt).rows
        (completeStep worker state place attempt).attempts ∧
      Change batchId monitorId state.rows
        (completeStep worker state place attempt).rows := by
  obtain ⟨_, _, hused⟩ := h.attempts attempt (List.mem_of_getElem? hattempt)
  unfold completeStep
  split
  · exact ⟨Follow.refl batchId monitorId state, h.same⟩
  · rename_i completed rows' hcomplete
    constructor
    · exact Follow.erased batchId monitorId state rows' place
    · exact change_of_complete (attempt_item h hattempt) (hused hrecorded) hcomplete

theorem attempted_accepts {ρ : Type} {transaction : MonitoringTx ρ} :
    transaction.accepts (fun _ => false) rows = true ↔
      ∃ outcome, attempted transaction rows = some outcome := by
  rw [accepts_eq_true]
  constructor
  · rintro ⟨result, rows', hatomically⟩
    exact ⟨(result, rows'), attempted_eq_some.mpr hatomically⟩
  · rintro ⟨⟨result, rows'⟩, hattempted⟩
    exact ⟨result, rows', attempted_eq_some.mp hattempted⟩

variable (uuid5 worker) in
theorem fail_cases (h : Consistent batchId monitorId state) {place : ℕ}
    {attempt : Attempt} (hattempt : state.attempts[place]? = some attempt)
    (retryable : Bool) (errorCode : String) :
    (failStep uuid5 worker state place attempt retryable errorCode).attempts =
        state.attempts.eraseIdx place ∧
      (if (worker.fail uuid5 attempt.item retryable errorCode attempt.now).accepts
          (fun _ => false) state.rows = true then
        Failure batchId monitorId state.rows
          (failStep uuid5 worker state place attempt retryable errorCode).rows
      else
        (failStep uuid5 worker state place attempt retryable errorCode).rows =
          state.rows) := by
  unfold failStep
  split
  · rename_i hrefused
    rw [if_neg]
    · exact ⟨rfl, rfl⟩
    · intro haccepts
      obtain ⟨outcome, houtcome⟩ := attempted_accepts.mp haccepts
      rw [hrefused] at houtcome
      cases houtcome
  · rename_i failed rows' hfail
    rw [if_pos (attempted_accepts.mpr ⟨_, hfail⟩)]
    exact ⟨rfl, failure_of_fail (attempt_item h hattempt) hfail⟩

variable (sha256 uuid5 worker) in
/-- What a step can do, and that it is against the order of the failures only
when it fails an item whose observation is recorded. -/
theorem step_cases (h : Consistent batchId monitorId state) (action : Action) :
    Follow batchId monitorId state
        (step sha256 uuid5 worker batchId monitorId state action).rows
        (step sha256 uuid5 worker batchId monitorId state action).attempts ∧
      ((Change batchId monitorId state.rows
          (step sha256 uuid5 worker batchId monitorId state action).rows ∧
        FailsBefore uuid5 worker batchId monitorId state action) ∨
      (Failure batchId monitorId state.rows
          (step sha256 uuid5 worker batchId monitorId state action).rows ∧
        (FailsBefore uuid5 worker batchId monitorId state action ↔
          recordAt state.rows (itemKey batchId monitorId) = none))) := by
  cases action with
  | claim batchKey scheduledAt claimedAt now =>
      obtain ⟨hfollow, hchange⟩ := claim_cases uuid5 worker h
        batchKey scheduledAt claimedAt now
      exact ⟨hfollow, Or.inl ⟨hchange, trivial⟩⟩
  | observe place observation changeId auditId =>
      simp only [step]
      split
      · rename_i attempt hattempt
        split
        · exact ⟨Follow.refl batchId monitorId state, Or.inl ⟨h.same, trivial⟩⟩
        · obtain ⟨hfollow, hchange⟩ := observe_cases sha256 uuid5 worker h
            hattempt observation changeId auditId
          exact ⟨hfollow, Or.inl ⟨hchange, trivial⟩⟩
      · exact ⟨Follow.refl batchId monitorId state, Or.inl ⟨h.same, trivial⟩⟩
  | complete place =>
      simp only [step]
      split
      · rename_i attempt hattempt
        split
        · rename_i hrecorded
          obtain ⟨hfollow, hchange⟩ := complete_cases worker h hattempt hrecorded
          exact ⟨hfollow, Or.inl ⟨hchange, trivial⟩⟩
        · exact ⟨Follow.refl batchId monitorId state, Or.inl ⟨h.same, trivial⟩⟩
      · exact ⟨Follow.refl batchId monitorId state, Or.inl ⟨h.same, trivial⟩⟩
  | fail place retryable errorCode =>
      simp only [step, FailsBefore]
      split
      · rename_i attempt hattempt
        obtain ⟨hattempts, hrows⟩ := fail_cases uuid5 worker h hattempt
          retryable errorCode
        rw [hattempts, hattempt]
        constructor
        · exact Follow.erased batchId monitorId state _ place
        · split at hrows
          · rename_i haccepts
            exact Or.inr ⟨hrows, by simp [haccepts]⟩
          · rename_i hrefused
            rw [hrows]
            exact Or.inl ⟨h.same, by simp [hrefused]⟩
      · rename_i hnone
        rw [hnone]
        exact ⟨Follow.refl batchId monitorId state, Or.inl ⟨h.same, by simp⟩⟩

theorem Consistent.step (h : Consistent batchId monitorId state) (action : Action) :
    Consistent batchId monitorId
      (step sha256 uuid5 worker batchId monitorId state action) := by
  obtain ⟨hfollow, hcases⟩ := step_cases sha256 uuid5 worker h action
  rcases hcases with ⟨hchange, _⟩ | ⟨hfailure, _⟩
  · exact h.change hchange hfollow
  · exact h.failure hfailure hfollow

theorem Settled.step (hsettled : Settled batchId monitorId state)
    (h : Consistent batchId monitorId state) {action : Action}
    (hbefore : FailsBefore uuid5 worker batchId monitorId state action) :
    Settled batchId monitorId
      (step sha256 uuid5 worker batchId monitorId state action) := by
  obtain ⟨_, hcases⟩ := step_cases sha256 uuid5 worker h action
  rcases hcases with ⟨hchange, _⟩ | ⟨hfailure, hunused⟩
  · cases hchange with
    | moved hmonitor hrecord _ _ =>
        intro hused
        rw [hrecord] at hused
        obtain ⟨monitor, record, checkedAt, hfound, hrecorded, hchecked⟩ := hsettled hused
        exact ⟨monitor, record, checkedAt, hmonitor.trans hfound,
          hrecord.trans hrecorded, hchecked⟩
    | observed _ hagrees _ _ _ _ => exact fun _ => hagrees
  · intro hused
    rw [hfailure.record] at hused
    exact absurd (hunused.mp hbefore) hused

theorem spoiled_of_late (h : Consistent batchId monitorId state) {action : Action}
    (hlate : ¬ FailsBefore uuid5 worker batchId monitorId state action) :
    Spoiled batchId monitorId
      (step sha256 uuid5 worker batchId monitorId state action) := by
  obtain ⟨_, hcases⟩ := step_cases sha256 uuid5 worker h action
  rcases hcases with ⟨_, hbefore⟩ | ⟨hfailure, hunused⟩
  · exact absurd hbefore hlate
  · obtain ⟨_, after, _, hafter, _, herror⟩ := hfailure.monitor
    constructor
    · rw [hfailure.record]
      exact fun hnone => hlate (hunused.mpr hnone)
    · exact ⟨after, hafter, herror⟩

theorem Spoiled.step (hspoiled : Spoiled batchId monitorId state)
    (h : Consistent batchId monitorId state) (action : Action) :
    Spoiled batchId monitorId
      (step sha256 uuid5 worker batchId monitorId state action) := by
  obtain ⟨hused, monitor, hmonitor, herror⟩ := hspoiled
  obtain ⟨_, hcases⟩ := step_cases sha256 uuid5 worker h action
  rcases hcases with ⟨hchange, _⟩ | ⟨hfailure, _⟩
  · constructor
    · exact hchange.used hused
    · cases hchange with
      | moved hsame _ _ _ => exact ⟨monitor, hsame.trans hmonitor, herror⟩
      | observed hunused _ _ _ _ _ => exact absurd hunused hused
  · obtain ⟨_, after, _, hafter, _, herror⟩ := hfailure.monitor
    constructor
    · rw [hfailure.record]
      exact hused
    · exact ⟨after, hafter, herror⟩

theorem Spoiled.disagrees (hspoiled : Spoiled batchId monitorId state) :
    ¬ Agrees batchId monitorId state.rows := by
  obtain ⟨_, monitor, hmonitor, herror⟩ := hspoiled
  rintro ⟨found, _, _, hfound, _, hnone, _⟩
  rw [hmonitor] at hfound
  obtain rfl := Option.some.inj hfound
  exact herror hnone

/-- After any run that completes the item, the monitor agrees with the item's
observation exactly when no failure was recorded after it. -/
theorem agrees_iff_fails_before (hstart : Materialized batchId monitorId rows)
    (actions : List Action)
    (hcompleted : Completed batchId monitorId
      (actions.foldl (step sha256 uuid5 worker batchId monitorId) ⟨rows, []⟩).rows) :
    Agrees batchId monitorId
        (actions.foldl (step sha256 uuid5 worker batchId monitorId) ⟨rows, []⟩).rows ↔
      Along (step sha256 uuid5 worker batchId monitorId)
        (FailsBefore uuid5 worker batchId monitorId) ⟨rows, []⟩ actions := by
  constructor
  · intro hagrees
    have hcases : Along (step sha256 uuid5 worker batchId monitorId)
          (FailsBefore uuid5 worker batchId monitorId) ⟨rows, []⟩ actions ∨
        Spoiled batchId monitorId
          (actions.foldl (step sha256 uuid5 worker batchId monitorId) ⟨rows, []⟩) := by
      apply along_or_broken _ _ _ hstart.consistent actions
      · exact fun h => h.step _
      · exact fun h hlate => spoiled_of_late h hlate
      · exact fun h hspoiled => hspoiled.step h _
    rcases hcases with halong | hspoiled
    · exact halong
    · exact absurd hagrees hspoiled.disagrees
  · intro halong
    have hthroughout : Throughout (step sha256 uuid5 worker batchId monitorId)
        (fun state => Consistent batchId monitorId state ∧
          Settled batchId monitorId state) ⟨rows, []⟩ actions := by
      apply throughout_of_step _ ⟨hstart.consistent, hstart.settled⟩ halong
      intro state action h hbefore
      exact ⟨h.1.step _, h.2.step h.1 hbefore⟩
    have hlast := hthroughout.last
    obtain ⟨item, hitem, hused⟩ := hlast.1.item
    obtain ⟨found, hfound, hstate⟩ := hcompleted
    obtain rfl := Option.some.inj (hitem.symm.trans hfound)
    exact hlast.2 (hused hstate)

section Sample

open CounterpartyChangeLog

def sampleWorker : CounterpartyMonitoringWorker where
  workerId := "worker-1"
  permissions := [.counterpartyMonitorManage]
  maxParallelism := 1
  leaseSeconds := 60
  maxAttempts := 3
  backoff := seconds 1
  maxBackoff := seconds 8
  materializationLimit := 10
  valid := by decide

/-- The monitor is the only item of a batch that is collected. -/
def batchRows : MonitoringRows :=
  [⟨.monitor "monitor-1", some sampleMonitor⟩, ⟨.batchKey "daily", some "batch-1"⟩,
    ⟨.batch "batch-1", some ⟨"batch-1", "daily", 0, .running, none, true, none⟩⟩,
    ⟨.batchItem "batch-1" "monitor-1",
      some ⟨"batch-1", "monitor-1", .pending, 0, 0, none, none, none, none⟩⟩]

theorem materialized_sample : Materialized "batch-1" "monitor-1" batchRows := by
  constructor
  · exact ⟨_, rfl, by decide⟩
  · exact ⟨sampleMonitor, rfl, rfl⟩
  · rfl
  · intro snapshotId snapshot hsnapshot
    simp [snapshotAt, batchRows] at hsnapshot

/-- A claimed item whose observation is recorded. -/
def processed (now : Instant) : List Action :=
  [.claim "daily" 0 now now, .observe 0 (sampleObservation "active" 10) "1" "audit:1"]

/-- A failure between the observation and the completion, and a retry. -/
def retried : List Action :=
  processed 100 ++ [.fail 0 true "UNEXPECTED:OperationalError"] ++
    processed (seconds 10) ++ [.complete 0]

/-- The rows that the worker leaves. -/
def sampleEnd (actions : List Action) : MonitoringRows :=
  (actions.foldl (step id id sampleWorker "batch-1" "monitor-1") ⟨batchRows, []⟩).rows

theorem completed_of_state
    (h : (itemAt rows batchId monitorId).map (·.state) = some .completed) :
    Completed batchId monitorId rows :=
  Option.map_eq_some_iff.mp h

theorem retried_end :
    (itemAt (sampleEnd retried) "batch-1" "monitor-1").map (·.state) =
        some .completed ∧
      (monitorAt (sampleEnd retried) "monitor-1").map (·.lastErrorCode) =
        some (some "UNEXPECTED:OperationalError") := by
  decide +kernel

/-- The retry replays the observation, and the error of the failure stays. -/
theorem retried_item_disagrees :
    Materialized "batch-1" "monitor-1" batchRows ∧
      Completed "batch-1" "monitor-1" (sampleEnd retried) ∧
      ¬ Agrees "batch-1" "monitor-1" (sampleEnd retried) := by
  obtain ⟨hcompleted, herror⟩ := retried_end
  refine ⟨materialized_sample, completed_of_state hcompleted, ?_⟩
  rintro ⟨monitor, _, _, hmonitor, _, hnone, _⟩
  rw [hmonitor, Option.map_some, hnone] at herror
  cases herror

theorem agrees_iff_fails_before_processed :
    Agrees "batch-1" "monitor-1" (sampleEnd (processed 100 ++ [.complete 0])) ↔
      Along (step id id sampleWorker "batch-1" "monitor-1")
        (FailsBefore id sampleWorker "batch-1" "monitor-1") ⟨batchRows, []⟩
        (processed 100 ++ [.complete 0]) :=
  agrees_iff_fails_before materialized_sample _
    (completed_of_state (by decide +kernel))

end Sample

end ItemAgreement

end ShemaPlatform
