/-
How often the provider is asked about one item of a batch, and what becomes of the
item whose last attempt has failed.
-/
import Mathlib.Order.Interval.Finset.Nat
import ShemaPlatform.ItemAgreement
import ShemaPlatform.MonitoringRuns
import ShemaPlatform.StateRun

namespace ShemaPlatform

open Calendar ReadCommitted MonitoringBatchRepository StateRun

namespace MonitoringRuns

section Statement

variable (maxAttempts : ℕ) (batchId monitorId : String)

/-- The workers that claim allow so many attempts. -/
def Action.Follows : Action → Prop
  | .claim worker _ _ _ _ _ => worker.maxAttempts = maxAttempts
  | _ => True

/-- The item is not there yet, or has not been claimed. -/
def Fresh (rows : MonitoringRows) : Prop :=
  ∀ item, itemAt rows batchId monitorId = some item → item.state = .pending ∧ item.attempt = 0

/-- An attempt whose item is held under the id of its worker for a later attempt, the last
one or one after it. -/
def Overtaken (world : World) (attempt : Attempt) : Prop :=
  attempt.item.isOf batchId monitorId = true ∧
    ∃ item, itemAt world.rows batchId monitorId = some item ∧
      item.heldBy attempt.worker.workerId attempt.now = true ∧
      attempt.item.attempt < item.attempt ∧ maxAttempts ≤ item.attempt

/-- No overtaken attempt is completed, or fails to be tried again. -/
def Fenced (world : World) : Action → Prop
  | .act index .complete => ∀ attempt, world.attempts[index]? = some attempt →
      ¬ Overtaken maxAttempts batchId monitorId world attempt
  | .act index (.fail retryable _) => ∀ attempt, world.attempts[index]? = some attempt →
      attempt.worker.shouldRetry attempt.item retryable = true →
        ¬ Overtaken maxAttempts batchId monitorId world attempt
  | _ => True

/-- An item whose last attempt has failed is failed, or still running where the failure
could not be reported; it is not to be tried again. -/
structure Ends (world : World) : Prop where
  final : ∀ item, itemAt world.rows batchId monitorId = some item →
    maxAttempts ≤ item.attempt → item.state ≠ .retryable
  failed : ∀ attempt ∈ world.attempts, attempt.item.isOf batchId monitorId = true →
    attempt.item.attempt = maxAttempts → attempt.stage = .failed →
    ∃ item, itemAt world.rows batchId monitorId = some item ∧ item.state = .failed
  lost : ∀ attempt ∈ world.attempts, attempt.item.isOf batchId monitorId = true →
    attempt.item.attempt = maxAttempts → attempt.stage ∈ [.failing, .lost] →
    ∃ item, itemAt world.rows batchId monitorId = some item ∧
      item.state ∈ [.running, .failed]

/-- The attempts at an item have numbers of their own, up to that of the item, and call
the provider within the bound. -/
structure Numbered (world : World) : Prop where
  keyed : ∀ batchId, Keyed batchId world.rows
  workers : ∀ attempt ∈ world.attempts, attempt.worker.maxAttempts = maxAttempts
  pending : ∀ item, itemAt world.rows batchId monitorId = some item →
    item.state = .pending → item.attempt = 0
  behind : ∀ attempt ∈ world.attempts, attempt.item.isOf batchId monitorId = true →
    1 ≤ attempt.item.attempt ∧ ∃ item, itemAt world.rows batchId monitorId = some item ∧
      attempt.item.attempt ≤ item.attempt
  ordered : (world.attempts.map (·.item)).Pairwise fun before after =>
    before.isOf batchId monitorId = true → after.isOf batchId monitorId = true →
      before.attempt < after.attempt
  called : ∀ attempt ∈ world.attempts, attempt.item.isOf batchId monitorId = true →
    attempt.monitor.isSome = true → attempt.item.attempt ≤ maxAttempts
  asked : ∀ attempt ∈ world.attempts, attempt.stage ∈ [.called, .recorded, .completed] →
    attempt.monitor.isSome = true

/-- What a run against stale reports keeps. -/
structure Settled (world : World) : Prop where
  final : ∀ item, itemAt world.rows batchId monitorId = some item →
    maxAttempts ≤ item.attempt → item.state ≠ .retryable
  done : ∀ item, itemAt world.rows batchId monitorId = some item →
    maxAttempts ≤ item.attempt → item.state = .completed →
    ∀ attempt ∈ world.attempts, attempt.item.isOf batchId monitorId = true →
      attempt.item.attempt = maxAttempts → attempt.stage = .completed
  failing : ∀ attempt ∈ world.attempts, attempt.item.isOf batchId monitorId = true →
    maxAttempts ≤ attempt.item.attempt → attempt.stage = .failed →
    ∃ item, itemAt world.rows batchId monitorId = some item ∧ item.state = .failed

end Statement

variable {maxAttempts : ℕ} {batchId monitorId : String} {world : World}
  {sha256 uuid5 : String → String}

/-- As many numbers as calls, each within the bound. -/
theorem Numbered.calls_le (h : Numbered maxAttempts batchId monitorId world) :
    world.calls batchId monitorId ≤ maxAttempts := by
  have hordered : ((world.attempts.filter fun attempt =>
      attempt.monitor.isSome && attempt.item.isOf batchId monitorId).map
        (·.item.attempt)).Pairwise (· < ·) := by
    have hpairs := List.pairwise_map.mp h.ordered
    rw [List.pairwise_map]
    apply (hpairs.filter _).imp_of_mem
    intro before after hbefore hafter hlt
    simp only [List.mem_filter, Bool.and_eq_true] at hbefore hafter
    exact hlt hbefore.2.2 hafter.2.2
  have hwithin : ∀ number ∈ (world.attempts.filter fun attempt =>
      attempt.monitor.isSome && attempt.item.isOf batchId monitorId).map (·.item.attempt),
      number ∈ Finset.Icc 1 maxAttempts := by
    intro number hnumber
    obtain ⟨attempt, hattempt, rfl⟩ := List.mem_map.mp hnumber
    simp only [List.mem_filter, Bool.and_eq_true] at hattempt
    obtain ⟨hmem, hcalled, hof⟩ := hattempt
    exact Finset.mem_Icc.mpr ⟨(h.behind attempt hmem hof).1, h.called attempt hmem hof hcalled⟩
  have hnodup := hordered.imp fun hlt => ne_of_lt hlt
  have hcard := Finset.card_le_card (fun number hnumber =>
    hwithin number (List.mem_toFinset.mp hnumber))
  rw [List.toFinset_card_of_nodup hnodup, Nat.card_Icc, List.length_map] at hcard
  rw [World.calls, List.countP_eq_length_filter]
  simpa using hcard

/-- Two attempts at an item with one number are one attempt. -/
theorem Numbered.index_inj (h : Numbered maxAttempts batchId monitorId world)
    {index index' : ℕ} {attempt attempt' : Attempt}
    (hattempt : world.attempts[index]? = some attempt)
    (hattempt' : world.attempts[index']? = some attempt')
    (hof : attempt.item.isOf batchId monitorId = true)
    (hof' : attempt'.item.isOf batchId monitorId = true)
    (hsame : attempt.item.attempt = attempt'.item.attempt) : index = index' := by
  have hpairs := List.pairwise_iff_getElem.mp (List.pairwise_map.mp h.ordered)
  obtain ⟨hlt, rfl⟩ := List.getElem?_eq_some_iff.mp hattempt
  obtain ⟨hlt', rfl⟩ := List.getElem?_eq_some_iff.mp hattempt'
  rcases Nat.lt_trichotomy index index' with hless | heq | hless
  · exact absurd hsame (hpairs index index' hlt hlt' hless hof hof').ne
  · exact heq
  · exact absurd hsame.symm (hpairs index' index hlt' hlt hless hof' hof).ne

theorem forall_mem_set {attempts : List Attempt} {index : ℕ} {attempt after : Attempt}
    (hattempt : attempts[index]? = some attempt) {p : Attempt → Prop}
    (hold : p attempt → p after) (h : ∀ attempt ∈ attempts, p attempt) :
    ∀ attempt ∈ attempts.set index after, p attempt := by
  intro found hfound
  rcases List.mem_or_eq_of_mem_set hfound with hmem | rfl
  · exact h found hmem
  · exact hold (h attempt (List.mem_of_getElem? hattempt))

/-- What becomes of an item: it is kept, and its number does not go back. -/
structure Advances (batchId monitorId : String) (rows rows' : MonitoringRows) : Prop where
  keyed : ∀ batchId, Keyed batchId rows'
  item : ∀ item, itemAt rows batchId monitorId = some item →
    ∃ item', itemAt rows' batchId monitorId = some item' ∧ item.attempt ≤ item'.attempt
  pending : ∀ item, itemAt rows' batchId monitorId = some item →
    item.state = .pending → item.attempt = 0

theorem Numbered.set (h : Numbered maxAttempts batchId monitorId world)
    {rows' : MonitoringRows} {index : ℕ} {attempt after : Attempt}
    (hattempt : world.attempts[index]? = some attempt)
    (hadvances : Advances batchId monitorId world.rows rows')
    (hworker : after.worker = attempt.worker) (hitem : after.item = attempt.item)
    (hcalled : after.monitor.isSome = true → attempt.monitor.isSome = true ∨
      attempt.item.attempt ≤ attempt.worker.maxAttempts)
    (hasked : after.stage ∈ [.called, .recorded, .completed] →
      after.monitor.isSome = true) :
    Numbered maxAttempts batchId monitorId ⟨rows', world.attempts.set index after⟩ := by
  constructor
  · exact hadvances.keyed
  · exact forall_mem_set hattempt (fun h => hworker ▸ h) h.workers
  · exact hadvances.pending
  · have hold : ∀ found ∈ world.attempts.set index after,
        found.item.isOf batchId monitorId = true → 1 ≤ found.item.attempt ∧
          ∃ item, itemAt world.rows batchId monitorId = some item ∧
            found.item.attempt ≤ item.attempt := by
      apply forall_mem_set hattempt _ h.behind
      rw [hitem]
      exact id
    intro found hfound hof
    obtain ⟨hpos, item, hbefore, hle⟩ := hold found hfound hof
    obtain ⟨item', hafter, hmore⟩ := hadvances.item item hbefore
    exact ⟨hpos, item', hafter, hle.trans hmore⟩
  · rw [List.map_set, hitem]
    have hsame : (world.attempts.map (·.item)).set index attempt.item =
        world.attempts.map (·.item) := by
      apply List.ext_getElem?
      intro other
      rw [List.getElem?_set]
      split_ifs with hindex hlength
      · rw [← hindex, List.getElem?_map, hattempt]
        rfl
      · rw [List.getElem?_eq_none (by omega)]
      · rfl
    rw [hsame]
    exact h.ordered
  · have hworkers := h.workers attempt (List.mem_of_getElem? hattempt)
    apply forall_mem_set hattempt _ h.called
    rw [hitem]
    intro hwithin hof hsome
    rcases hcalled hsome with hbefore | hmost
    · exact hwithin hof hbefore
    · exact hworkers ▸ hmost
  · exact forall_mem_set hattempt (fun _ => hasked) h.asked

theorem Numbered.advances (h : Numbered maxAttempts batchId monitorId world)
    {rows' : MonitoringRows} (hitems : ∀ batchId monitorId,
      itemAt rows' batchId monitorId = itemAt world.rows batchId monitorId) :
    Advances batchId monitorId world.rows rows' := by
  constructor
  · intro batchId monitorId item hitem
    exact h.keyed batchId monitorId item ((hitems _ _).symm.trans hitem)
  · intro item hitem
    exact ⟨item, (hitems _ _).trans hitem, le_refl _⟩
  · intro item hitem
    exact h.pending item ((hitems _ _).symm.trans hitem)

/-- An item that keeps its names and its number, and is pending no longer. -/
theorem Numbered.advances_own (h : Numbered maxAttempts batchId monitorId world)
    {rows' : MonitoringRows} {attempt : Attempt} {row row' : CounterpartyMonitoringBatchItem}
    (hrow : itemAt world.rows attempt.item.batchId attempt.item.monitorId = some row)
    (hitems : ∀ batchId monitorId, itemAt rows' batchId monitorId =
      if attempt.item.isOf batchId monitorId then some row'
      else itemAt world.rows batchId monitorId)
    (hnames : row'.batchId = row.batchId ∧ row'.monitorId = row.monitorId)
    (hnumber : row'.attempt = row.attempt) (hstate : row'.state ≠ .pending) :
    Advances batchId monitorId world.rows rows' := by
  constructor
  · intro batchId monitorId item hitem
    rw [hitems] at hitem
    split_ifs at hitem with hof
    · obtain rfl := Option.some.inj hitem
      obtain ⟨rfl, rfl⟩ := isOf_iff.mp hof
      obtain ⟨hbatch, hmonitor⟩ := h.keyed _ _ row hrow
      exact ⟨hnames.1.trans hbatch, hnames.2.trans hmonitor⟩
    · exact h.keyed batchId monitorId item hitem
  · intro item hitem
    rw [hitems]
    split_ifs with hof
    · obtain ⟨rfl, rfl⟩ := isOf_iff.mp hof
      obtain rfl := Option.some.inj (hrow.symm.trans hitem)
      exact ⟨row', rfl, hnumber.ge⟩
    · exact ⟨item, hitem, le_refl _⟩
  · intro item hitem hpending
    rw [hitems] at hitem
    split_ifs at hitem
    · obtain rfl := Option.some.inj hitem
      exact absurd hpending hstate
    · exact h.pending item hitem hpending

theorem failed_state {retryable : Bool} {errorCode : String} {availableAt now : Instant}
    {row : CounterpartyMonitoringBatchItem} :
    (failed retryable errorCode availableAt now row).state =
      if retryable then .retryable else .failed := rfl

theorem Numbered.act (h : Numbered maxAttempts batchId monitorId world) {index : ℕ}
    {attempt after : Attempt} {deed : Deed} {rows' : MonitoringRows}
    (hattempt : world.attempts[index]? = some attempt)
    (hacts : Acts attempt deed world.rows after rows') :
    Numbered maxAttempts batchId monitorId ⟨rows', world.attempts.set index after⟩ := by
  have hmem := List.mem_of_getElem? hattempt
  cases hacts with
  | idle =>
      exact h.set hattempt (h.advances fun _ _ => rfl) rfl rfl Or.inl (h.asked attempt hmem)
  | called monitor hstage hwithin =>
      exact h.set hattempt (h.advances fun _ _ => rfl) rfl rfl (fun _ => Or.inr hwithin)
        fun _ => rfl
  | recorded _ hstage hitems =>
      exact h.set hattempt (h.advances hitems) rfl rfl Or.inl
        fun _ => h.asked attempt hmem (by simp [hstage])
  | failing stage hstage hnext =>
      apply h.set hattempt (h.advances fun _ _ => rfl)
      · rfl
      · rfl
      · exact Or.inl
      · intro hasked
        rcases hnext with rfl | rfl <;> simp [Attempt.reach] at hasked
  | completed row _ hdeed hstage hrow hheld hitems =>
      apply h.set hattempt (h.advances_own hrow hitems ⟨rfl, rfl⟩ rfl nofun)
      · rfl
      · rfl
      · exact Or.inl
      · exact fun _ => h.asked attempt hmem (by simp [hstage])
  | failed retryable errorCode availableAt row _ hdeed hstage hrow hheld hitems =>
      have hadvances := h.advances_own hrow hitems ⟨rfl, rfl⟩ rfl (by
        rw [failed_state]
        split_ifs <;> exact nofun)
      apply h.set hattempt hadvances
      · rfl
      · rfl
      · exact Or.inl
      · intro hasked
        simp [Attempt.reach] at hasked

theorem claimed_isOf {item : CounterpartyMonitoringBatchItem} {workerId : String}
    {leaseUntil : Instant} :
    (claimed workerId leaseUntil item).isOf batchId monitorId = item.isOf batchId monitorId :=
  rfl

/-- The attempts that a claim opens. -/
def opened (worker : CounterpartyMonitoringWorker) (clock : String → Instant)
    (items : List CounterpartyMonitoringBatchItem) : List Attempt :=
  items.map fun item => ⟨worker, item, clock item.monitorId, none, .claimed⟩

theorem Opens.advances {worker : CounterpartyMonitoringWorker} {scheduledAt now : Instant}
    {rows' : MonitoringRows} {items : List CounterpartyMonitoringBatchItem}
    (h : Numbered maxAttempts batchId monitorId world)
    (hopens : ∀ batchId monitorId,
      Opens worker scheduledAt now batchId monitorId world.rows rows' items) :
    Advances batchId monitorId world.rows rows' := by
  constructor
  · intro batchId monitorId item hitem
    cases hopens batchId monitorId with
    | kept hsame hnone => exact h.keyed batchId monitorId item (hsame.symm.trans hitem)
    | added hfree hadded hnone =>
        obtain rfl := Option.some.inj (hadded.symm.trans hitem)
        exact ⟨rfl, rfl⟩
    | claimed before hbefore hclaimable hclaimed hitems =>
        obtain rfl := Option.some.inj (hclaimed.symm.trans hitem)
        rcases hbefore with hbefore | ⟨_, rfl⟩
        · exact h.keyed batchId monitorId before hbefore
        · exact ⟨rfl, rfl⟩
  · intro item hitem
    cases hopens batchId monitorId with
    | kept hsame hnone => exact ⟨item, hsame.trans hitem, le_refl _⟩
    | added hfree hadded hnone =>
        rw [hfree] at hitem
        cases hitem
    | claimed before hbefore hclaimable hclaimed hitems =>
        rcases hbefore with hbefore | ⟨hfree, _⟩
        · obtain rfl := Option.some.inj (hbefore.symm.trans hitem)
          exact ⟨_, hclaimed, Nat.le_succ _⟩
        · rw [hfree] at hitem
          cases hitem
  · intro item hitem hpending
    cases hopens batchId monitorId with
    | kept hsame hnone => exact h.pending item (hsame.symm.trans hitem) hpending
    | added hfree hadded hnone =>
        obtain rfl := Option.some.inj (hadded.symm.trans hitem)
        rfl
    | claimed before hbefore hclaimable hclaimed hitems =>
        obtain rfl := Option.some.inj (hclaimed.symm.trans hitem)
        cases hpending

/-- A claimed item is on record under the next number. -/
theorem Opens.number {worker : CounterpartyMonitoringWorker} {scheduledAt now : Instant}
    {rows rows' : MonitoringRows} {items : List CounterpartyMonitoringBatchItem}
    (hopens : Opens worker scheduledAt now batchId monitorId rows rows' items)
    {item : CounterpartyMonitoringBatchItem} (hmem : item ∈ items)
    (hof : item.isOf batchId monitorId = true) :
    itemAt rows' batchId monitorId = some item ∧ item.state = .running ∧ 1 ≤ item.attempt ∧
      ∀ before, itemAt rows batchId monitorId = some before →
        before.attempt < item.attempt := by
  cases hopens with
  | kept hsame hnone => simp [hnone item hmem] at hof
  | added hfree hadded hnone => simp [hnone item hmem] at hof
  | claimed before hbefore hclaimable hclaimed hitems =>
      obtain rfl := hitems item hmem hof
      refine ⟨hclaimed, rfl, Nat.succ_le_succ (Nat.zero_le _), ?_⟩
      intro found hfound
      rcases hbefore with hbefore | ⟨hfree, _⟩
      · obtain rfl := Option.some.inj (hbefore.symm.trans hfound)
        exact Nat.lt_succ_self _
      · rw [hfree] at hfound
        cases hfound

theorem Numbered.claim (h : Numbered maxAttempts batchId monitorId world)
    {worker : CounterpartyMonitoringWorker} {scheduledAt now : Instant}
    {rows' : MonitoringRows} {items : List CounterpartyMonitoringBatchItem}
    (clock : String → Instant) (hworker : worker.maxAttempts = maxAttempts)
    (hopens : ∀ batchId monitorId,
      Opens worker scheduledAt now batchId monitorId world.rows rows' items)
    (hnodup : (items.map (·.monitorId)).Nodup) :
    Numbered maxAttempts batchId monitorId
      ⟨rows', world.attempts ++ opened worker clock items⟩ := by
  have hadvances := Opens.advances h hopens
  constructor
  · exact hadvances.keyed
  · intro attempt hattempt
    rcases List.mem_append.mp hattempt with hold | hnew
    · exact h.workers attempt hold
    · obtain ⟨item, _, rfl⟩ := List.mem_map.mp hnew
      exact hworker
  · exact hadvances.pending
  · intro attempt hattempt hof
    rcases List.mem_append.mp hattempt with hold | hnew
    · obtain ⟨hpos, item, hitem, hle⟩ := h.behind attempt hold hof
      obtain ⟨item', hitem', hmore⟩ := hadvances.item item hitem
      exact ⟨hpos, item', hitem', hle.trans hmore⟩
    · obtain ⟨item, hmem, rfl⟩ := List.mem_map.mp hnew
      obtain ⟨hitem, _, hpos, _⟩ := (hopens batchId monitorId).number hmem hof
      exact ⟨hpos, item, hitem, le_refl _⟩
  · have hitems : (opened worker clock items).map (·.item) = items := by
      simp [opened, Function.comp_def]
    rw [List.map_append, hitems, List.pairwise_append]
    constructor
    · exact h.ordered
    · constructor
      · apply (List.pairwise_map.mp hnodup).imp
        intro before after hne hbefore hafter
        exact absurd ((isOf_iff.mp hbefore).2.trans (isOf_iff.mp hafter).2.symm) hne
      · intro before hbefore after hafter hof hof'
        obtain ⟨attempt, hattempt, rfl⟩ := List.mem_map.mp hbefore
        obtain ⟨_, item, hitem, hle⟩ := h.behind attempt hattempt hof
        obtain ⟨_, _, _, hmore⟩ := (hopens batchId monitorId).number hafter hof'
        exact hle.trans_lt (hmore item hitem)
  · intro attempt hattempt hof hcalled
    rcases List.mem_append.mp hattempt with hold | hnew
    · exact h.called attempt hold hof hcalled
    · obtain ⟨item, _, rfl⟩ := List.mem_map.mp hnew
      cases hcalled
  · intro attempt hattempt hasked
    rcases List.mem_append.mp hattempt with hold | hnew
    · exact h.asked attempt hold hasked
    · obtain ⟨item, _, rfl⟩ := List.mem_map.mp hnew
      simp at hasked

theorem finalize_itemAt {rows rows' : MonitoringRows} {locked : LockedItems} {opened : String}
    {now : Instant} {batch : CounterpartyMonitoringBatch}
    (h : (finalizeBatch opened now).atomically locked rows = .ok (batch, rows'))
    (batchId monitorId : String) :
    itemAt rows' batchId monitorId = itemAt rows batchId monitorId := by
  obtain ⟨own, hexecute, rfl⟩ := Prog.atomically_eq_ok.mp h
  obtain ⟨_, _, _, rfl⟩ := finalizeBatch_eq_ok.mp hexecute
  simp

/-- Rows with the same items. -/
theorem Numbered.same (h : Numbered maxAttempts batchId monitorId world)
    {rows' : MonitoringRows} (hitems : ∀ batchId monitorId,
      itemAt rows' batchId monitorId = itemAt world.rows batchId monitorId) :
    Numbered maxAttempts batchId monitorId ⟨rows', world.attempts⟩ := by
  have hadvances := h.advances hitems
  constructor
  · exact hadvances.keyed
  · exact h.workers
  · exact hadvances.pending
  · simpa only [hitems] using h.behind
  · exact h.ordered
  · exact h.called
  · exact h.asked

variable (sha256 uuid5) in
theorem Numbered.step (h : Numbered maxAttempts batchId monitorId world) {action : Action}
    (hfollows : action.Follows maxAttempts) :
    Numbered maxAttempts batchId monitorId (world.step sha256 uuid5 action) := by
  cases action with
  | claim worker locked batchKey scheduledAt claimedAt clock =>
      simp only [World.step]
      split
      · rename_i items rows' hopen
        obtain ⟨hopens, hnodup⟩ := opens h.keyed hopen
        exact h.claim clock hfollows hopens hnodup
      · exact h
  | act index deed =>
      simp only [World.step]
      split
      · exact h
      · rename_i attempt hattempt
        exact h.act hattempt (acts sha256 uuid5 attempt deed world.rows)
  | finalize batchId now =>
      simp only [World.step]
      split
      · rename_i hfinalize
        exact h.same (finalize_itemAt hfinalize)
      · exact h
  | edit monitorId monitor =>
      apply h.same
      intro batchId other
      simp [itemAt]

theorem mem_set_cases {attempts : List Attempt} {index : ℕ} {after found : Attempt}
    (hfound : found ∈ attempts.set index after) :
    found = after ∨ ∃ other, other ≠ index ∧ attempts[other]? = some found := by
  obtain ⟨other, hother⟩ := List.mem_iff_getElem?.mp hfound
  rw [List.getElem?_set] at hother
  split_ifs at hother with hindex hlength
  · exact Or.inl (Option.some.inj hother).symm
  · exact Or.inr ⟨other, Ne.symm hindex, hother⟩

/-- A step of one attempt that leaves its item alone. -/
theorem Settled.quiet (h : Settled maxAttempts batchId monitorId world)
    {rows' : MonitoringRows} {index : ℕ} {attempt after : Attempt}
    (hattempt : world.attempts[index]? = some attempt)
    (hitem : after.item = attempt.item)
    (hstage : attempt.stage = .completed → after.stage = .completed)
    (hfailed : attempt.item.isOf batchId monitorId = true → after.stage = .failed →
      attempt.stage = .failed)
    (hitems : itemAt rows' batchId monitorId = itemAt world.rows batchId monitorId) :
    Settled maxAttempts batchId monitorId ⟨rows', world.attempts.set index after⟩ := by
  constructor
  · simpa only [hitems] using h.final
  · intro item hrow hle hcompleted
    apply forall_mem_set hattempt _ (h.done item (hitems.symm.trans hrow) hle hcompleted)
    rw [hitem]
    exact fun hold hof hlast => hstage (hold hof hlast)
  · simp only [hitems]
    apply forall_mem_set hattempt _ h.failing
    rw [hitem]
    exact fun hold hof hle hstate => hold hof hle (hfailed hof hstate)

/-- A completion of the item by an attempt that is not overtaken. -/
theorem Settled.complete (h : Settled maxAttempts batchId monitorId world)
    (hnumbered : Numbered maxAttempts batchId monitorId world) {rows' : MonitoringRows}
    {index : ℕ} {attempt : Attempt} {row : CounterpartyMonitoringBatchItem}
    (hattempt : world.attempts[index]? = some attempt)
    (hof : attempt.item.isOf batchId monitorId = true) (hstage : attempt.stage = .recorded)
    (hrow : itemAt world.rows batchId monitorId = some row)
    (hheld : row.heldBy attempt.worker.workerId attempt.now = true)
    (hfenced : ¬ Overtaken maxAttempts batchId monitorId world attempt)
    (hitem : itemAt rows' batchId monitorId = some (completed attempt.now row)) :
    Settled maxAttempts batchId monitorId
      ⟨rows', world.attempts.set index (attempt.reach .completed)⟩ := by
  have hmem := List.mem_of_getElem? hattempt
  constructor
  · intro item hafter _
    obtain rfl := Option.some.inj (hitem.symm.trans hafter)
    exact nofun
  · intro item hafter hle _ found hfound hfoundOf hlast
    obtain rfl := Option.some.inj (hitem.symm.trans hafter)
    rcases mem_set_cases hfound with rfl | ⟨other, hother, hget⟩
    · rfl
    · have hrowLe : maxAttempts ≤ row.attempt := hle
      have hwithin := hnumbered.called attempt hmem hof
        (hnumbered.asked attempt hmem (by simp [hstage]))
      have hnot : ¬ attempt.item.attempt < row.attempt := fun hlt =>
        hfenced ⟨hof, row, hrow, hheld, hlt, hrowLe⟩
      have hsame : found.item.attempt = attempt.item.attempt := by omega
      exact absurd (hnumbered.index_inj hget hattempt hfoundOf hof hsame) hother
  · intro found hfound hfoundOf hle hfailed
    rcases mem_set_cases hfound with rfl | ⟨other, hother, hget⟩
    · cases hfailed
    · obtain ⟨item, hbefore, hstate⟩ := h.failing found (List.mem_of_getElem? hget) hfoundOf
        hle hfailed
      obtain rfl := Option.some.inj (hrow.symm.trans hbefore)
      rw [CounterpartyMonitoringBatchItem.state_of_heldBy hheld] at hstate
      cases hstate

/-- A failure of the item, by an attempt that is not overtaken where the item is to be
tried again. -/
theorem Settled.fail (h : Settled maxAttempts batchId monitorId world)
    (hnumbered : Numbered maxAttempts batchId monitorId world) {rows' : MonitoringRows}
    {index : ℕ} {attempt : Attempt} {row : CounterpartyMonitoringBatchItem}
    {retryable : Bool} {errorCode : String} {availableAt : Instant}
    (hattempt : world.attempts[index]? = some attempt)
    (hof : attempt.item.isOf batchId monitorId = true)
    (hrow : itemAt world.rows batchId monitorId = some row)
    (hheld : row.heldBy attempt.worker.workerId attempt.now = true)
    (hfenced : attempt.worker.shouldRetry attempt.item retryable = true →
      ¬ Overtaken maxAttempts batchId monitorId world attempt)
    (hitem : itemAt rows' batchId monitorId = some
      (failed (attempt.worker.shouldRetry attempt.item retryable) errorCode availableAt
        attempt.now row)) :
    Settled maxAttempts batchId monitorId
      ⟨rows', world.attempts.set index (attempt.reach .failed)⟩ := by
  have hmem := List.mem_of_getElem? hattempt
  have hretry : attempt.worker.shouldRetry attempt.item retryable = true →
      attempt.item.attempt < maxAttempts := by
    intro hshould
    rw [CounterpartyMonitoringWorker.shouldRetry, Bool.and_eq_true, decide_eq_true_eq] at hshould
    exact hnumbered.workers attempt hmem ▸ hshould.2
  constructor
  · intro item hafter hle hstate
    obtain rfl := Option.some.inj (hitem.symm.trans hafter)
    rw [failed_state] at hstate
    split_ifs at hstate with hshould
    have hrowLe : maxAttempts ≤ row.attempt := hle
    exact hfenced hshould ⟨hof, row, hrow, hheld, (hretry hshould).trans_le hrowLe, hrowLe⟩
  · intro item hafter _ hstate
    obtain rfl := Option.some.inj (hitem.symm.trans hafter)
    rw [failed_state] at hstate
    split_ifs at hstate
  · intro found hfound hfoundOf hle hstate
    rcases mem_set_cases hfound with rfl | ⟨other, hother, hget⟩
    · refine ⟨_, hitem, ?_⟩
      have hlast : maxAttempts ≤ attempt.item.attempt := hle
      rw [failed_state, if_neg fun hshould => absurd (hretry hshould) (not_lt.mpr hlast)]
    · obtain ⟨item, hbefore, hfailed⟩ := h.failing found (List.mem_of_getElem? hget) hfoundOf
        hle hstate
      obtain rfl := Option.some.inj (hrow.symm.trans hbefore)
      rw [CounterpartyMonitoringBatchItem.state_of_heldBy hheld] at hfailed
      cases hfailed

theorem Settled.act (h : Settled maxAttempts batchId monitorId world)
    (hnumbered : Numbered maxAttempts batchId monitorId world) {index : ℕ}
    {attempt after : Attempt} {deed : Deed} {rows' : MonitoringRows}
    (hattempt : world.attempts[index]? = some attempt)
    (hfenced : Fenced maxAttempts batchId monitorId world (.act index deed))
    (hacts : Acts attempt deed world.rows after rows') :
    Settled maxAttempts batchId monitorId ⟨rows', world.attempts.set index after⟩ := by
  cases hacts with
  | idle => exact h.quiet hattempt rfl id (fun _ => id) rfl
  | called monitor hstage hwithin =>
      apply h.quiet hattempt
      · rfl
      · intro hcompleted
        rw [hstage] at hcompleted
        cases hcompleted
      · exact fun _ => nofun
      · rfl
  | recorded _ hstage hitems =>
      apply h.quiet hattempt
      · rfl
      · intro hcompleted
        rw [hstage] at hcompleted
        cases hcompleted
      · exact fun _ => nofun
      · exact hitems batchId monitorId
  | failing stage hstage hnext =>
      apply h.quiet hattempt
      · rfl
      · intro hcompleted
        rw [hcompleted] at hstage
        simp at hstage
      · intro _ hfailed
        have hreached : stage = .failed := hfailed
        rcases hnext with rfl | rfl <;> cases hreached
      · rfl
  | completed row _ hdeed hstage hrow hheld hitems =>
      subst hdeed
      have hitem := hitems batchId monitorId
      split_ifs at hitem with hof
      · obtain ⟨rfl, rfl⟩ := isOf_iff.mp hof
        exact h.complete hnumbered hattempt hof hstage hrow hheld (hfenced attempt hattempt) hitem
      · apply h.quiet hattempt
        · rfl
        · exact fun _ => rfl
        · exact fun _ => nofun
        · exact hitem
  | failed retryable errorCode availableAt row _ hdeed hstage hrow hheld hitems =>
      subst hdeed
      have hitem := hitems batchId monitorId
      split_ifs at hitem with hof
      · obtain ⟨rfl, rfl⟩ := isOf_iff.mp hof
        exact h.fail hnumbered hattempt hof hrow hheld (hfenced attempt hattempt) hitem
      · apply h.quiet hattempt
        · rfl
        · intro hcompleted
          rw [hcompleted] at hstage
          simp at hstage
        · exact fun hmine => absurd hmine hof
        · exact hitem

/-- A failed item is not claimed. -/
theorem not_claimable_failed {item : CounterpartyMonitoringBatchItem} {now : Instant}
    (hstate : item.state = .failed) : item.claimable now = false := by
  rw [CounterpartyMonitoringBatchItem.claimable, hstate]
  rfl

theorem Settled.claim (h : Settled maxAttempts batchId monitorId world)
    {worker : CounterpartyMonitoringWorker} {scheduledAt now : Instant}
    {rows' : MonitoringRows} {items : List CounterpartyMonitoringBatchItem}
    (clock : String → Instant)
    (hopens : Opens worker scheduledAt now batchId monitorId world.rows rows' items) :
    Settled maxAttempts batchId monitorId
      ⟨rows', world.attempts ++ opened worker clock items⟩ := by
  constructor
  · intro item hitem hle
    cases hopens with
    | kept hsame hnone => exact h.final item (hsame.symm.trans hitem) hle
    | added hfree hadded hnone =>
        obtain rfl := Option.some.inj (hadded.symm.trans hitem)
        exact nofun
    | claimed before hbefore hclaimable hclaimed hitems =>
        obtain rfl := Option.some.inj (hclaimed.symm.trans hitem)
        exact nofun
  · intro item hitem hle hcompleted attempt hattempt hof hlast
    cases hopens with
    | kept hsame hnone =>
        rcases List.mem_append.mp hattempt with hold | hnew
        · exact h.done item (hsame.symm.trans hitem) hle hcompleted attempt hold hof hlast
        · obtain ⟨found, hfound, rfl⟩ := List.mem_map.mp hnew
          exact absurd ((hnone found hfound).symm.trans hof) (by simp)
    | added hfree hadded hnone =>
        obtain rfl := Option.some.inj (hadded.symm.trans hitem)
        cases hcompleted
    | claimed before hbefore hclaimable hclaimed hitems =>
        obtain rfl := Option.some.inj (hclaimed.symm.trans hitem)
        cases hcompleted
  · intro attempt hattempt hof hle hfailed
    rcases List.mem_append.mp hattempt with hold | hnew
    · obtain ⟨item, hitem, hstate⟩ := h.failing attempt hold hof hle hfailed
      cases hopens with
      | kept hsame hnone => exact ⟨item, hsame.trans hitem, hstate⟩
      | added hfree hadded hnone =>
          rw [hfree] at hitem
          cases hitem
      | claimed before hbefore hclaimable hclaimed hitems =>
          rcases hbefore with hbefore | ⟨hfree, _⟩
          · obtain rfl := Option.some.inj (hbefore.symm.trans hitem)
            rw [not_claimable_failed hstate] at hclaimable
            cases hclaimable
          · rw [hfree] at hitem
            cases hitem
    · obtain ⟨found, _, rfl⟩ := List.mem_map.mp hnew
      cases hfailed

theorem Settled.same (h : Settled maxAttempts batchId monitorId world)
    {rows' : MonitoringRows}
    (hitems : itemAt rows' batchId monitorId = itemAt world.rows batchId monitorId) :
    Settled maxAttempts batchId monitorId ⟨rows', world.attempts⟩ := by
  constructor
  · simpa only [hitems] using h.final
  · simpa only [hitems] using h.done
  · simpa only [hitems] using h.failing

variable (sha256 uuid5) in
theorem Settled.step (h : Settled maxAttempts batchId monitorId world)
    (hnumbered : Numbered maxAttempts batchId monitorId world) {action : Action}
    (hfenced : Fenced maxAttempts batchId monitorId world action) :
    Settled maxAttempts batchId monitorId (world.step sha256 uuid5 action) := by
  cases action with
  | claim worker locked batchKey scheduledAt claimedAt clock =>
      simp only [World.step]
      split
      · rename_i items rows' hopen
        obtain ⟨hopens, _⟩ := opens hnumbered.keyed hopen
        exact h.claim clock (hopens batchId monitorId)
      · exact h
  | act index deed =>
      simp only [World.step]
      split
      · exact h
      · rename_i attempt hattempt
        exact h.act hnumbered hattempt hfenced (acts sha256 uuid5 attempt deed world.rows)
  | finalize batchId now =>
      simp only [World.step]
      split
      · rename_i hfinalize
        exact h.same (finalize_itemAt hfinalize _ _)
      · exact h
  | edit monitorId monitor =>
      apply h.same
      simp [itemAt]

theorem Settled.ends (h : Settled maxAttempts batchId monitorId world)
    (hnumbered : Numbered maxAttempts batchId monitorId world) :
    Ends maxAttempts batchId monitorId world := by
  constructor
  · exact h.final
  · exact fun attempt hmem hof hlast => h.failing attempt hmem hof hlast.ge
  · intro attempt hmem hof hlast hstage
    obtain ⟨hpos, item, hitem, hle⟩ := hnumbered.behind attempt hmem hof
    have hmost : maxAttempts ≤ item.attempt := hlast ▸ hle
    refine ⟨item, hitem, ?_⟩
    cases hstate : item.state with
    | pending =>
        have hnumber := hnumbered.pending item hitem hstate
        omega
    | running => simp
    | retryable => exact absurd hstate (h.final item hitem hmost)
    | completed =>
        rw [h.done item hitem hmost hstate attempt hmem hof hlast] at hstage
        simp at hstage
    | failed => simp

theorem numbered_start {rows : MonitoringRows} (hkeyed : ∀ batchId, Keyed batchId rows)
    (hfresh : Fresh batchId monitorId rows) :
    Numbered maxAttempts batchId monitorId (World.start rows) := by
  constructor
  · exact hkeyed
  · simp [World.start]
  · exact fun item hitem _ => (hfresh item hitem).2
  · simp [World.start]
  · exact List.Pairwise.nil
  · simp [World.start]
  · simp [World.start]

theorem settled_start {rows : MonitoringRows} (hfresh : Fresh batchId monitorId rows) :
    Settled maxAttempts batchId monitorId (World.start rows) := by
  constructor
  · intro item hitem _ hstate
    rw [(hfresh item hitem).1] at hstate
    cases hstate
  · simp [World.start]
  · simp [World.start]

variable (sha256 uuid5) in
/-- In every state of every run the provider was called at most so often for an item, and
the item ends with its last attempt in every state of a run without stale reports of it. -/
theorem called_at_most {rows : MonitoringRows} (hkeyed : ∀ batchId, Keyed batchId rows)
    (hfresh : Fresh batchId monitorId rows) {actions : List Action}
    (hfollows : ∀ action ∈ actions, action.Follows maxAttempts) :
    Throughout (World.step sha256 uuid5)
        (fun world => world.calls batchId monitorId ≤ maxAttempts) (World.start rows) actions ∧
      (Along (World.step sha256 uuid5) (Fenced maxAttempts batchId monitorId)
          (World.start rows) actions →
        Throughout (World.step sha256 uuid5) (Ends maxAttempts batchId monitorId)
          (World.start rows) actions) := by
  have hadmits : Along (World.step sha256 uuid5) (fun _ action => action.Follows maxAttempts)
      (World.start rows) actions := along_of_forall hfollows
  constructor
  · have hnumbered : Throughout (World.step sha256 uuid5)
        (Numbered maxAttempts batchId monitorId) (World.start rows) actions := by
      apply throughout_of_step _ (numbered_start hkeyed hfresh) hadmits
      exact fun hnumbered hfollow => hnumbered.step sha256 uuid5 hfollow
    exact hnumbered.mono fun _ hnumbered => hnumbered.calls_le
  · intro hfenced
    have hboth : Throughout (World.step sha256 uuid5)
        (fun world => Numbered maxAttempts batchId monitorId world ∧
          Settled maxAttempts batchId monitorId world) (World.start rows) actions := by
      apply throughout_of_step _ ⟨numbered_start hkeyed hfresh, settled_start hfresh⟩
        (hadmits.and hfenced)
      rintro state action ⟨hnumbered, hsettled⟩ ⟨hfollow, hstep⟩
      exact ⟨hnumbered.step sha256 uuid5 hfollow, hsettled.step sha256 uuid5 hnumbered hstep⟩
    exact hboth.mono fun _ hstate => hstate.2.ends hstate.1

section Sample

open ItemAgreement

/-- A worker that allows two attempts. -/
def twiceWorker : CounterpartyMonitoringWorker :=
  { sampleWorker with
    maxAttempts := 2
    valid := by decide }

def claimAt (now : Instant) : Action :=
  .claim twiceWorker (fun _ => false) "daily" 0 now fun _ => now

def processedOnce : List Action :=
  [claimAt 0, .act 0 .call, .act 0 (.fail true "TIMEOUTERROR"), claimAt (seconds 61), .act 1 .call,
    .act 1 (.fail true "TIMEOUTERROR")]

/-- The first attempt outlives its lease, and fails once the second has been claimed
under the same worker id. -/
def overtakenOnce : List Action :=
  [claimAt 0, .act 0 .call, claimAt (seconds 61), .act 1 .call, .act 0 (.fail true "TIMEOUTERROR"),
    .act 1 (.fail true "TIMEOUTERROR")]

theorem itemAt_batchRows {batchId monitorId : String}
    {item : CounterpartyMonitoringBatchItem}
    (h : itemAt batchRows batchId monitorId = some item) :
    item = pendingItem batchId monitorId 0 := by
  have hrows : itemAt batchRows batchId monitorId =
      itemAt [⟨.batchItem "batch-1" "monitor-1",
        some (pendingItem "batch-1" "monitor-1" 0)⟩] batchId monitorId := by
    simp [itemAt, batchRows, pendingItem]
  rw [hrows, itemAt_item] at h
  split_ifs at h with hsame
  · obtain ⟨rfl, rfl⟩ := hsame
    exact (Option.some.inj h).symm
  · cases h

theorem keyed_batchRows (batchId : String) : Keyed batchId batchRows := by
  intro monitorId item hitem
  obtain rfl := itemAt_batchRows hitem
  exact ⟨rfl, rfl⟩

theorem fresh_batchRows (batchId monitorId : String) : Fresh batchId monitorId batchRows := by
  intro item hitem
  obtain rfl := itemAt_batchRows hitem
  exact ⟨rfl, rfl⟩

theorem follows_processedOnce : ∀ action ∈ processedOnce, action.Follows 2 := by
  intro action haction
  simp only [processedOnce, claimAt, List.mem_cons, List.not_mem_nil, or_false] at haction
  rcases haction with rfl | rfl | rfl | rfl | rfl | rfl <;> trivial

theorem follows_overtakenOnce : ∀ action ∈ overtakenOnce, action.Follows 2 := by
  intro action haction
  simp only [overtakenOnce, claimAt, List.mem_cons, List.not_mem_nil, or_false] at haction
  rcases haction with rfl | rfl | rfl | rfl | rfl | rfl <;> trivial

theorem not_overtaken_of_number {world : World} {attempt : Attempt} {index number : ℕ}
    (hget : world.attempts[index]? = some attempt)
    (hattempt : (world.attempts[index]?).map (·.item.attempt) = some number)
    (hitem : (itemAt world.rows batchId monitorId).map (·.attempt) = some number) :
    ¬ Overtaken maxAttempts batchId monitorId world attempt := by
  rintro ⟨_, item, hrow, _, hlt, _⟩
  rw [hget, Option.map_some, Option.some.injEq] at hattempt
  rw [hrow, Option.map_some, Option.some.injEq] at hitem
  omega

/-- An item whose two attempts fail in time is failed. -/
theorem called_at_most_twice :
    Throughout (World.step id id) (fun world => world.calls "batch-1" "monitor-1" ≤ 2)
        (World.start batchRows) processedOnce ∧
      Throughout (World.step id id) (Ends 2 "batch-1" "monitor-1") (World.start batchRows)
        processedOnce := by
  have hfenced : Along (World.step id id) (Fenced 2 "batch-1" "monitor-1")
      (World.start batchRows) processedOnce := by
    refine ⟨trivial, trivial, ?_, trivial, trivial, ?_, trivial⟩
    · intro attempt hget _
      exact not_overtaken_of_number hget (by decide +kernel : _ = some 1) (by decide +kernel)
    · intro attempt hget _
      exact not_overtaken_of_number hget (by decide +kernel : _ = some 2) (by decide +kernel)
  obtain ⟨hbounded, hends⟩ := called_at_most id id keyed_batchRows
    (fresh_batchRows "batch-1" "monitor-1") follows_processedOnce
  exact ⟨hbounded, hends hfenced⟩

/-- The failure of the first attempt makes the item retryable whose second and last
attempt fails. -/
theorem overtaken_retryable :
    ¬ ∀ (maxAttempts : ℕ) (batchId monitorId : String) (rows : MonitoringRows),
      (∀ batchId, Keyed batchId rows) → Fresh batchId monitorId rows →
      ∀ actions : List Action, (∀ action ∈ actions, action.Follows maxAttempts) →
        Ends maxAttempts batchId monitorId
          (actions.foldl (World.step id id) (World.start rows)) := by
  intro hends
  have hlast := hends 2 "batch-1" "monitor-1" batchRows keyed_batchRows
    (fresh_batchRows _ _) overtakenOnce follows_overtakenOnce
  have hitem : (itemAt (overtakenOnce.foldl (World.step id id) (World.start batchRows)).rows
      "batch-1" "monitor-1").map (·.state) = some .retryable := by
    decide +kernel
  have hattempt : ((overtakenOnce.foldl (World.step id id)
      (World.start batchRows)).attempts[1]?).map (fun attempt =>
        (attempt.item.isOf "batch-1" "monitor-1", attempt.item.attempt, attempt.stage)) =
      some (true, 2, .lost) := by
    decide +kernel
  obtain ⟨attempt, hget, hsame⟩ := Option.map_eq_some_iff.mp hattempt
  obtain ⟨hof, hnumber, hstage⟩ : _ ∧ _ ∧ _ := by simpa using hsame
  obtain ⟨item, hrow, hstate⟩ := hlast.lost attempt (List.mem_of_getElem? hget) hof hnumber
    (by simp [hstage])
  rw [hrow, Option.map_some, Option.some.injEq] at hitem
  rw [hitem] at hstate
  simp at hstate

end Sample

end MonitoringRuns

end ShemaPlatform
