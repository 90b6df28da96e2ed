/-
When a batch that is reported completed stays so: the open items are counted before the
batch is locked, and another worker may collect more of them in between.
-/
import ShemaPlatform.BatchRuns
import ShemaPlatform.FirstReads
import ShemaPlatform.Materialization

namespace ShemaPlatform

open Calendar ReadCommitted ReadCommitted.Prog MonitoringBatchRepository

namespace BatchRuns

/-- The others keep the batches as the transactions do. -/
def batchEvolution : Evolution LockedItems MonitoringRow where
  rel before after := Kept before.rows after.rows
  refl world := Kept.refl world.rows
  trans hab hbc := hab.trans hbc

/-- The batches as a transaction is about to leave them. -/
abbrev Leaves (own : MonitoringRows) (world : World LockedItems MonitoringRow) : Prop :=
  Kept world.rows (own ++ world.rows)

section Statements

variable {uuid5 : String → String} {own : MonitoringRows}
  {world : World LockedItems MonitoringRow}

theorem Leaves.cons {key : MonitoringKey} {row : Option (MonitoringRow key)}
    (h : Leaves own world) (hrow : Kept (own ++ world.rows) (⟨key, row⟩ :: (own ++ world.rows))) :
    Leaves (⟨key, row⟩ :: own) world :=
  h.trans hrow

theorem atCommit_startOrResume {batchKey : String} {scheduledAt : Instant}
    (h : Leaves own world) :
    (startOrResumeDailyBatch uuid5 batchKey scheduledAt).atCommit batchEvolution
      (fun _ own world => Leaves own world) own world := by
  simp only [startOrResumeDailyBatch, atCommit_bind, atCommit_insertNew]
  refine ⟨fun earlier existing _ _ => WritesOnly.atCommit_reads ?_ fun _ => h, fun hnone => ?_⟩
  on_goal 2 =>
    have hkey : Leaves (⟨MonitoringKey.batchKey batchKey, some (batchIdOf uuid5 batchKey)⟩ :: own)
        world := by
      apply h.cons
      apply Kept.of_rows
      intro key
      by_cases hother : MonitoringKey.batchKey batchKey = key
      · subst hother
        trivial
      · rw [Rows.get_cons_ne hother]
        exact RowKept.refl _ _
    apply (atCommit_bind _ _).mpr
    rw [atCommit_insert]
    intro hbatch
    have hfresh : ¬ Collected ((⟨MonitoringKey.batchKey batchKey,
        some (batchIdOf uuid5 batchKey)⟩ :: own) ++ world.rows) (batchIdOf uuid5 batchKey) := by
      rintro ⟨batch, hfound, _⟩
      cases (Eq.trans hbatch.symm hfound)
    refine WritesOnly.atCommit_reads ?_ fun _ => hkey.cons (Kept.cons_batch
      (fun hcollected => (hfresh hcollected).elim) fun _ => ⟨rfl, fun hstatus => by cases hstatus⟩)
  -- the batch is read back, whether it is new or not
  all_goals
    apply WritesOnly.bind (WritesOnly.select _)
    rintro (_ | batchId)
    · exact WritesOnly.raise _
    · apply WritesOnly.bind (WritesOnly.select _)
      rintro (_ | batch)
      · exact WritesOnly.raise _
      · exact WritesOnly.pure _

theorem atCommit_insertItems {batchId : String} {scheduledAt : Instant}
    {batch : CounterpartyMonitoringBatch} (page : List String) (h : Leaves own world)
    (hbatch : batchAt (own ++ world.rows) batchId = some batch)
    (hopen : batch.collectionComplete = false) :
    (insertItems batchId scheduledAt page).atCommit batchEvolution
      (fun _ own world => Leaves own world ∧
        batchAt (own ++ world.rows) batchId = some batch) own world := by
  induction page generalizing own with
  | nil => exact ⟨h, hbatch⟩
  | cons monitorId rest ih =>
      simp only [insertItems, atCommit_bind, atCommit_insertNew]
      constructor
      · exact fun _ _ _ _ => ih h hbatch
      · intro hnone
        apply ih
        · apply h.cons
          apply Kept.cons_collected _ hnone
          rintro ⟨found, hfound, hcomplete⟩
          obtain rfl := Option.some.inj (hbatch.symm.trans hfound)
          rw [hopen] at hcomplete
          cases hcomplete
        · rw [List.cons_append, batchAt_item]
          exact hbatch

theorem hasItems_reads (batchId : String) (page : List String) :
    (hasItems batchId page).WritesOnly fun _ => False := by
  unfold hasItems
  split_ifs
  · exact WritesOnly.scan _
  · exact WritesOnly.pure _

/-- The batch stays locked from its first read to its update. -/
theorem atCommit_getForUpdate {batchId : String}
    {post : CounterpartyMonitoringBatch → MonitoringRows → World LockedItems MonitoringRow → Prop}
    (h : Leaves own world)
    (hpost : ∀ batch own, Leaves own world → batchAt (own ++ world.rows) batchId = some batch →
      post batch own world) :
    (getForUpdate batchId).atCommit batchEvolution post own world := by
  simp only [getForUpdate, atCommit_bind, atCommit_selectForUpdate]
  constructor
  · exact fun _ _ _ => trivial
  · intro batch hbatch
    apply hpost
    · apply h.cons
      apply Kept.cons_batch
      · rintro ⟨found, hfound, hcomplete⟩
        obtain rfl := Option.some.inj (Eq.trans hbatch.symm hfound)
        exact hcomplete
      · exact fun hhonest => hhonest batchId batch hbatch
    · rw [List.cons_append, batchAt_batch, if_pos rfl]

/-- The update of a batch that is locked. -/
theorem atCommit_updateBatch {batchId message : String} {batch : CounterpartyMonitoringBatch}
    {alter : CounterpartyMonitoringBatch → CounterpartyMonitoringBatch}
    {post : CounterpartyMonitoringBatch → MonitoringRows → World LockedItems MonitoringRow → Prop}
    (h : Leaves own world) (hbatch : batchAt (own ++ world.rows) batchId = some batch)
    (hcomplete : batch.collectionComplete = true → (alter batch).collectionComplete = true)
    (hid : (alter batch).batchId = batch.batchId)
    (hstatus : (alter batch).status = .completed → (alter batch).collectionComplete = true)
    (hpost : ∀ own, Leaves own world →
      batchAt (own ++ world.rows) batchId = some (alter batch) → post (alter batch) own world) :
    atCommit batchEvolution (do
      match ← updateWhere (MonitoringKey.batch batchId)
          fun (row : CounterpartyMonitoringBatch) => some (alter row) with
      | none => raise (.integrityViolation message)
      | some updated => return updated : MonitoringTx CounterpartyMonitoringBatch)
      post own world := by
  simp only [atCommit_bind, atCommit_updateWhere]
  constructor
  · exact fun _ _ _ => trivial
  · intro row row' hrow hrow'
    obtain rfl := Option.some.inj (Eq.trans hbatch.symm hrow)
    obtain rfl := Option.some.inj hrow'
    apply hpost
    · apply h.cons
      apply Kept.cons_batch
      · rintro ⟨found, hfound, hfoundComplete⟩
        obtain rfl := Option.some.inj (hbatch.symm.trans hfound)
        exact hcomplete hfoundComplete
      · intro hhonest
        exact ⟨hid.trans (hhonest batchId batch hbatch).1, hstatus⟩
    · rw [List.cons_append, batchAt_batch, if_pos rfl]

theorem atCommit_materialize {batchId : String} {scheduledAt : Instant} {limit : ℕ}
    (h : Leaves own world) :
    (materializeDueItems batchId scheduledAt limit).atCommit batchEvolution
      (fun updated own world => Leaves own world ∧
        batchAt (own ++ world.rows) batchId = some updated) own world := by
  simp only [materializeDueItems, atCommit_bind]
  apply atCommit_getForUpdate h
  intro batch own h hbatch
  split_ifs with hcomplete
  · exact ⟨h, hbatch⟩
  · rw [Bool.not_eq_true] at hcomplete
    simp only [atCommit_bind, atCommit_scan]
    intro earlier _
    apply atCommit_mono _ (atCommit_insertItems _ h hbatch hcomplete)
    rintro _ own ⟨h, hbatch⟩
    apply (hasItems_reads _ _).atCommit_reads
    intro begun
    apply (atCommit_bind _ _).mp
    apply atCommit_updateBatch h hbatch
    · intro hfalse
      rw [hcomplete] at hfalse
      cases hfalse
    · rfl
    · cases begun with
      | true => exact fun hstatus => by cases hstatus
      | false => exact fun hstatus => by cases hstatus
    · exact fun own h hupdated => ⟨h, hupdated⟩

theorem atCommit_claimEach {batchId workerId other : String} {now leaseUntil : Instant}
    {found : Option CounterpartyMonitoringBatch} (monitorIds : List String)
    (h : Leaves own world) (hfound : batchAt (own ++ world.rows) other = found) :
    (claimEach batchId workerId now leaseUntil monitorIds).atCommit batchEvolution
      (fun _ own world => Leaves own world ∧ batchAt (own ++ world.rows) other = found)
      own world := by
  induction monitorIds generalizing own with
  | nil => exact ⟨h, hfound⟩
  | cons monitorId rest ih =>
      simp only [claimEach, atCommit_bind, atCommit_updateWhere, atCommit_pure]
      constructor
      · exact fun _ _ _ => ih h hfound
      · intro item item' hitem hclaimed
        split_ifs at hclaimed with hclaimable
        have hopen := CounterpartyMonitoringBatchItem.isOpen_of_claimable hclaimable
        apply ih
        · exact h.cons (Kept.cons_open hitem hopen item')
        · rw [List.cons_append, batchAt_item]
          exact hfound

theorem atCommit_openBatch {worker : CounterpartyMonitoringWorker} {batchKey : String}
    {scheduledAt now : Instant} :
    (worker.openBatch uuid5 batchKey scheduledAt now).atCommit batchEvolution
      (fun result own world => Leaves own world ∧
        ∃ batchId, batchAt (own ++ world.rows) batchId = some result.1) [] world := by
  simp only [CounterpartyMonitoringWorker.openBatch, atCommit_bind, atCommit_pure]
  apply atCommit_mono _ (atCommit_startOrResume (Kept.refl world.rows))
  intro batch own h
  apply atCommit_mono _ (atCommit_materialize h)
  rintro updated own ⟨h, hupdated⟩
  simp only [claimItems, atCommit_bind]
  intro earlier _
  apply atCommit_mono _ (atCommit_claimEach _ h hupdated)
  rintro items own ⟨h, hupdated⟩
  exact ⟨h, batch.batchId, hupdated⟩

/-- What is counted before the batch is locked decides. -/
theorem atCommit_finalizeCounted {batchId : String} {now : Instant} {pending : ℕ}
    (h : Leaves own world) :
    (finalizeCounted batchId now pending).atCommit batchEvolution
      (fun final own world => Leaves own world ∧
        (final.status = .completed → pending = 0)) own world := by
  simp only [finalizeCounted, atCommit_bind]
  apply atCommit_getForUpdate h
  intro batch own h hbatch
  apply (atCommit_bind _ _).mp
  have hstatus : (finalized now pending batch).status = .completed →
      batch.collectionComplete = true ∧ pending = 0 := by
    simp only [finalized]
    split_ifs with hdone
    · intro _
      simpa using hdone
    · exact fun hstatus => by cases hstatus
  apply atCommit_updateBatch h hbatch
  · exact id
  · rfl
  · exact fun hcompleted => (hstatus hcompleted).1
  · exact fun own h _ => ⟨h, fun hcompleted => (hstatus hcompleted).2⟩

end Statements

/-- A worker has seen the batch that it opened collected. -/
def Informed (rows : MonitoringRows) : BatchThread → Prop
  | .opened batch _ => batch.collectionComplete = true → Collected rows batch.batchId
  | .finalizing batch _ => batch.collectionComplete = true → Collected rows batch.batchId
  | _ => True

theorem Informed.kept {before after : MonitoringRows} {thread : BatchThread}
    (h : Informed before thread) (hkept : Kept before after) : Informed after thread := by
  cases thread with
  | opened batch items => exact fun hcomplete => hkept.collected _ (h hcomplete)
  | finalizing batch now => exact fun hcomplete => hkept.collected _ (h hcomplete)
  | _ => trivial

section Runs

variable (sha256 uuid5 : String → String)

theorem atCommit_code {thread : BatchThread} {p : MonitoringTx BatchThread}
    {world : World LockedItems MonitoringRow}
    (hcode : (flow sha256 uuid5).code thread = some p) :
    p.atCommit batchEvolution (fun after own world => Leaves own world ∧
      (Honest world.rows → Informed (own ++ world.rows) after)) [] world := by
  cases thread with
  | opening worker batchKey scheduledAt now =>
      obtain rfl := Option.some.inj hcode
      simp only [atCommit_bind]
      apply atCommit_mono _ atCommit_openBatch
      rintro ⟨batch, items⟩ own ⟨h, batchId, hbatch⟩
      refine ⟨h, fun hhonest hcomplete => ?_⟩
      rw [(h.honest hhonest batchId batch hbatch).1]
      exact ⟨batch, hbatch, hcomplete⟩
  | finalizing batch now =>
      obtain rfl := Option.some.inj hcode
      simp only [finalizeBatch, atCommit_bind, atCommit_scan]
      intro earlier _
      apply atCommit_mono _ (atCommit_finalizeCounted (Kept.refl world.rows))
      exact fun final own h => ⟨h.1, fun _ => trivial⟩
  | calling call =>
      obtain rfl := Option.some.inj hcode
      simp only [atCommit_bind]
      have hchanges : (ItemCall.body sha256 uuid5 call).atCommit batchEvolution _ [] world :=
        (body_changes call).atCommit RowKept.trans fun key => RowKept.refl key _
      apply atCommit_mono _ hchanges
      exact fun _ own h => ⟨Kept.of_rows h, fun _ => trivial⟩
  | idle => cases hcode
  | opened batch items => cases hcode
  | finalized batch final => cases hcode

theorem Turns.informed {thread after : BatchThread} {choice : BatchChoice}
    {rows : MonitoringRows} (hturns : Turns thread choice after) (h : Informed rows thread) :
    Informed rows after := by
  cases hturns with
  | finalize batch items now => exact h
  | _ => trivial

def certificate : Certificate (flow sha256 uuid5) batchEvolution where
  knows thread world := Honest world.rows ∧ Informed world.rows thread
  does _ after own world := Leaves own world ∧
    (Honest world.rows → Informed (own ++ world.rows) after)
  stable hkept h := ⟨hkept.honest h.1, h.2.kept hkept⟩
  code_ok hcode _ := atCommit_code sha256 uuid5 hcode
  commit_ok hdoes hknows := ⟨hdoes.1, hdoes.1.honest hknows.1, hdoes.2 hknows.1⟩
  recover_ok _ h := ⟨h.1, trivial⟩
  outside_ok houtside h := ⟨Kept.refl _, h.1, houtside.1.informed h.2⟩
  drift_ok _ := Kept.refl _

/-- A worker that finalizes a batch which it has opened collected counts all its items. -/
def completion : Lesson (certificate sha256 uuid5) where
  learned before after world := ∀ opened now named final,
    before = .finalizing opened now → after = .finalized named final →
    opened.collectionComplete = true → final.status = .completed →
    Settled world.rows opened.batchId
  stable hkept hlearned opened now named final hbefore hafter hcomplete hstatus :=
    hkept.settled (hlearned opened now named final hbefore hafter hcomplete hstatus)
  first_ok := by
    intro thread p world hcode hknows
    cases thread with
    | finalizing batch now =>
        obtain rfl := Option.some.inj hcode
        intro final hkept
        apply (atCommit_bind _ _).mpr
        apply atCommit_mono _ (atCommit_finalizeCounted (Kept.refl final.rows))
        rintro closed own ⟨_, hcounted⟩
        rintro opened since named closed' ⟨rfl, rfl⟩ hafter hcomplete hstatus
        obtain ⟨rfl, rfl⟩ := BatchThread.finalized.inj hafter
        apply hkept.settled
        exact ⟨hknows.2 hcomplete, openItems_eq_zero.mp (hcounted hstatus)⟩
    | _ =>
        apply FromFirstRead.of_forall
        rintro after own final opened since named closed hbefore
        cases hbefore

variable {sha256 uuid5} {ι : Type} [DecidableEq ι]
  {first sys sys' : Sys ι LockedItems MonitoringRow Failure BatchThread}
  {events later : List (Event ι MonitoringRow Failure BatchThread BatchChoice)}

omit [DecidableEq ι] in
theorem good_of_idle (hhonest : Honest first.world.rows)
    (hidle : ∀ client, first.phase client = .idle .idle) :
    (certificate sha256 uuid5).Good first := by
  constructor
  · intro client
    rw [hidle client]
    exact ⟨hhonest, trivial⟩
  · intro left right _ key hkey
    rw [hidle left] at hkey
    cases hkey

theorem kept_of_good (hgood : (certificate sha256 uuid5).Good first)
    (hrun : Run (flow sha256 uuid5) first events sys) :
    Kept first.world.rows sys.world.rows := by
  apply (certificate sha256 uuid5).run_induction
    (fun world _ _ => Kept first.world.rows world.rows) hgood (Kept.refl _) _ _ _ _ hrun
  · exact fun _ hdoes hholds => hholds.trans hdoes.1
  · exact fun _ hholds => hholds
  · exact fun _ _ hholds => hholds
  · exact fun _ hholds => hholds

/-- From any moment of a run to any later one: collected batches stay collected and get no
more items, and an item that is completed or failed stays as it is. -/
theorem batches_kept (hhonest : Honest first.world.rows)
    (hidle : ∀ client, first.phase client = .idle .idle)
    (hrun : Run (flow sha256 uuid5) first events sys)
    (hlater : Run (flow sha256 uuid5) sys later sys') :
    Honest sys'.world.rows ∧ Kept sys.world.rows sys'.world.rows := by
  have hgood : (certificate sha256 uuid5).Good first := good_of_idle hhonest hidle
  have hkept := kept_of_good (hgood.run hrun) hlater
  exact ⟨hkept.honest ((kept_of_good hgood hrun).honest hhonest), hkept⟩

variable (sha256 uuid5)

/-- A batch that a worker has opened like this, and that it reports completed, has nothing
left to do from then on. -/
def CompletionStands (collected : Bool) : Prop :=
  ∀ (locked : LockedItems) (rows : MonitoringRows)
    (events : List (Event ℕ MonitoringRow Failure BatchThread BatchChoice))
    (sys : Sys ℕ LockedItems MonitoringRow Failure BatchThread) (client : ℕ)
    (opened final : CounterpartyMonitoringBatch) (now : Instant) (own : MonitoringRows),
    Honest rows →
      Run (flow sha256 uuid5) (Sys.start ⟨locked, rows⟩ fun _ => .idle) events sys →
      .committed client (.finalizing opened now) (.finalized opened final) own ∈ events →
      opened.collectionComplete = collected → final.status = .completed →
      Settled sys.world.rows opened.batchId

theorem completion_stands : CompletionStands sha256 uuid5 true := by
  intro locked rows events sys client opened final now own hhonest hrun hevent hcomplete
    hstatus
  have hgood : (certificate sha256 uuid5).Good (Sys.start ⟨locked, rows⟩ fun _ : ℕ => .idle) :=
    good_of_idle hhonest fun _ => rfl
  exact (completion sha256 uuid5).learned_of_run hgood (fun _ => trivial) hrun hevent opened now
    opened final rfl rfl hcomplete hstatus

end Runs

section Overtaken

open Materialization

def pageWorker (workerId : String) (limit : ℕ) (hblank : PyText.blank workerId = false)
    (hlimit : 1 ≤ limit ∧ limit ≤ 1000) : CounterpartyMonitoringWorker where
  workerId := workerId
  permissions := [.counterpartyMonitorManage]
  maxParallelism := 1
  leaseSeconds := 60
  maxAttempts := 3
  backoff := seconds 1
  maxBackoff := seconds 8
  materializationLimit := limit
  valid := ⟨hblank, by decide, by decide, by decide, by decide, by decide, hlimit⟩

/-- Collects one monitor at a time. -/
def smallPages : CounterpartyMonitoringWorker :=
  pageWorker "worker-1" 1 (by decide) (by decide)

def largePages : CounterpartyMonitoringWorker :=
  pageWorker "worker-2" 10 (by decide) (by decide)

/-- Two monitors are due, and the batch is begun. -/
def begunRows : MonitoringRows := ⟨.batchKey "daily", some "batch-1"⟩ :: pairRows

def firstItem : CounterpartyMonitoringBatchItem :=
  claimed "worker-1" (10 + seconds 60) (pendingItem "batch-1" "monitor-1" 10)

def secondItem : CounterpartyMonitoringBatchItem :=
  claimed "worker-2" (10 + seconds 60) (pendingItem "batch-1" "monitor-2" 10)

/-- The first monitor is collected and claimed. -/
def firstOpening : MonitoringRows :=
  [⟨.batchItem "batch-1" "monitor-1", some firstItem⟩,
    ⟨.batch "batch-1", some (pairBatch .running (some "monitor-1") false)⟩,
    ⟨.batchItem "batch-1" "monitor-1", some (pendingItem "batch-1" "monitor-1" 10)⟩,
    ⟨.batch "batch-1", some (pairBatch .collecting none false)⟩]

def firstCompletion : MonitoringRows :=
  [⟨.batchItem "batch-1" "monitor-1", some (completed 10 firstItem)⟩]

/-- The second monitor, with which the collection is complete. -/
def secondOpening : MonitoringRows :=
  [⟨.batchItem "batch-1" "monitor-2", some secondItem⟩,
    ⟨.batch "batch-1", some (pairBatch .running (some "monitor-2") true)⟩,
    ⟨.batchItem "batch-1" "monitor-2", some (pendingItem "batch-1" "monitor-2" 10)⟩,
    ⟨.batch "batch-1", some (pairBatch .running (some "monitor-1") false)⟩]

def closedBatch : CounterpartyMonitoringBatch :=
  { pairBatch .completed (some "monitor-2") true with completedAt := some 10 }

def firstClosing : MonitoringRows :=
  [⟨.batch "batch-1", some closedBatch⟩,
    ⟨.batch "batch-1", some (pairBatch .running (some "monitor-2") true)⟩]

variable (sha256 uuid5 : String → String)

def noneLocked : LockedItems := fun _ => false

/-- Where the workers are after the first has opened the batch and its item is completed. -/
def completedRows : MonitoringRows := firstCompletion ++ (firstOpening ++ begunRows)

theorem first_opens : (smallPages.openBatch uuid5 "daily" 10 10).execute noneLocked begunRows [] =
    .ok ((pairBatch .running (some "monitor-1") false, [firstItem]), firstOpening) := by
  with_unfolding_all rfl

theorem second_opens : (largePages.openBatch uuid5 "daily" 10 10).execute noneLocked
    completedRows [] =
      .ok ((pairBatch .running (some "monitor-2") true, [secondItem]), secondOpening) := by
  with_unfolding_all rfl

/-- Where the threads are when the first worker is about to finalize, the second to open. -/
def overtakenThreads : ℕ → BatchThread :=
  Function.update (Function.update (Function.update (Function.update (Function.update
    (Function.update (fun _ => .idle) 0 (.opening smallPages "daily" 10 10))
    0 (.opened (pairBatch .running (some "monitor-1") false) [firstItem]))
    1 (.calling (.complete smallPages firstItem 10))) 1 .idle)
    0 (.finalizing (pairBatch .running (some "monitor-1") false) 10))
    1 (.opening largePages "daily" 10 10)

/-- The first worker has opened the batch, and its one item is completed. -/
theorem run_to_overtaken :
    ∃ events : List (Event ℕ MonitoringRow Failure BatchThread BatchChoice),
      Run (flow sha256 uuid5) (Sys.start ⟨noneLocked, begunRows⟩ fun _ => .idle) events
        (Sys.start ⟨noneLocked, completedRows⟩ overtakenThreads) := by
  have hturn : Run (flow sha256 uuid5)
      (Sys.start ⟨noneLocked, begunRows⟩ fun _ : ℕ => BatchThread.idle) [_] _ :=
    run_act_start 0 ⟨.runOnce smallPages "daily" 10 10, rfl⟩
  have hopen := hturn.trans (run_transaction_start 0 rfl (by
    rw [execute_bind, first_opens]
    rfl))
  have hcall := hopen.trans (run_act_start 1 ⟨.call (.complete smallPages firstItem 10), rfl⟩)
  have hcomplete := hcall.trans (run_transaction_start 1 rfl (by
    show _ = Except.ok (_, firstCompletion)
    with_unfolding_all rfl))
  have hfinalize := hcomplete.trans (run_act_start 0 ⟨.finalize _ _ 10, rfl⟩)
  exact ⟨_, hfinalize.trans (run_act_start 1 ⟨.runOnce largePages "daily" 10 10, rfl⟩)⟩

theorem honest_begun : Honest begunRows := by
  intro batchId batch hbatch
  by_cases hid : "batch-1" = batchId
  · subst hid
    obtain rfl : pairBatch .collecting none false = batch :=
      Option.some.inj (Eq.trans (by with_unfolding_all rfl) hbatch)
    exact ⟨rfl, fun hstatus => by cases hstatus⟩
  · have hnone : batchAt begunRows batchId = none := by
      simp [batchAt, begunRows, pairRows, hid]
    rw [hnone] at hbatch
    cases hbatch

/-- A batch is opened, and an item of it completed. -/
theorem batches_kept_overtaken : Honest completedRows ∧ Kept begunRows completedRows := by
  obtain ⟨events, hrun⟩ := run_to_overtaken id id
  exact batches_kept honest_begun (fun _ => rfl) .start hrun

/-- What is left of the first worker's transaction when the open items are counted. -/
def finalizeRest (rows : MonitoringRows) : MonitoringTx BatchThread := do
  let final ← finalizeCounted "batch-1" 10 (openItems "batch-1" rows)
  return .finalized (pairBatch .running (some "monitor-1") false) final

/-- The first worker is inside its transaction, and has counted no open item. -/
def counted : Phase LockedItems MonitoringRow Failure BatchThread :=
  .busy (.finalizing (pairBatch .running (some "monitor-1") false) 10)
    (finalizeRest completedRows) [] []

theorem run_counted :
    ReadCommitted.Run (flow sha256 uuid5) (Sys.start ⟨noneLocked, completedRows⟩ overtakenThreads)
      [] ((Sys.start ⟨noneLocked, completedRows⟩ overtakenThreads).setPhase 0 counted) := by
  have hopen : Step (flow sha256 uuid5)
      (Sys.start ⟨noneLocked, completedRows⟩ overtakenThreads) [] _ :=
    .open _ 0 (.finalizing (pairBatch .running (some "monitor-1") false) 10)
      (.query fun _ rows => finalizeRest rows) rfl rfl
  have hcount : Step (flow sha256 uuid5)
      ((Sys.start ⟨noneLocked, completedRows⟩ overtakenThreads).setPhase 0 (.busy
        (.finalizing (pairBatch .running (some "monitor-1") false) 10)
        (.query fun _ rows => finalizeRest rows) [] [])) [] _ :=
    .query _ 0 (.finalizing (pairBatch .running (some "monitor-1") false) 10)
      (fun _ rows => finalizeRest rows) [] [] (by simp)
  rw [Sys.setPhase_setPhase] at hcount
  exact (Run.single hopen).trans (Run.single hcount)

/-- The first worker counts no open item, the second collects the rest, and then the first
closes the batch. -/
theorem run_overtaken :
    ∃ (events : List (Event ℕ MonitoringRow Failure BatchThread BatchChoice))
      (sys : Sys ℕ LockedItems MonitoringRow Failure BatchThread),
      ReadCommitted.Run (flow sha256 uuid5) (Sys.start ⟨noneLocked, begunRows⟩ fun _ => .idle)
        events sys ∧
      .committed 0 (.finalizing (pairBatch .running (some "monitor-1") false) 10)
        (.finalized (pairBatch .running (some "monitor-1") false) closedBatch)
        firstClosing ∈ events ∧
      sys.world.rows = firstClosing ++ (secondOpening ++ completedRows) := by
  obtain ⟨events, hrun⟩ := run_to_overtaken sha256 uuid5
  have hcounted := hrun.trans (run_counted sha256 uuid5)
  have hidle : ((Sys.start ⟨noneLocked, completedRows⟩ overtakenThreads).setPhase 0
      counted).phase 1 = .idle (.opening largePages "daily" 10 10) := rfl
  have hsecond := hcounted.trans (run_transaction hidle rfl
    (by
      intro other
      by_cases hother : other = 0
      · subst hother
        rfl
      · simp [hother, Sys.start])
    (by
      show execute noneLocked completedRows _ [] = _
      rw [execute_bind, second_opens]
      rfl))
  have hclosed := hsecond.trans (run_execute _ 0 rfl
    (by
      intro other hother
      by_cases hone : other = 1
      · subst hone
        rfl
      · simp [hother, hone, Sys.start])
    (by
      show _ = Except.ok (_, firstClosing)
      with_unfolding_all rfl))
  exact ⟨_, _, hclosed, List.mem_append_right _ (List.mem_singleton_self _), rfl⟩

end Overtaken

end BatchRuns

end ShemaPlatform
