/-
The two readers of stored AI runs: by the key of a run, and by its task.
-/
import ShemaPlatform.AIExecutionOnce

namespace ShemaPlatform

open Calendar ReadCommitted ReadCommitted.Prog

/-- Python's error for a method that an object does not have. -/
structure AttributeError where
  message : String
deriving DecidableEq, Repr

namespace AIRuns

def aiRunEntry : (Σ key, Row key) → Option (String × AIRunRow)
  | ⟨.aiRun runId, row⟩ => some (runId, row)
  | _ => none

/-- `select … from ai_run where task_id = …`, which no index makes a single row. -/
def rowsOfTask (taskId : String) (rows : Rows Row) : List (String × AIRunRow) :=
  (rows.live.filterMap aiRunEntry).filter fun entry => entry.2.taskId == taskId

/-- What `self._to_run` leads to: the repository defines no such method. -/
def noSuchMethod : AttributeError :=
  ⟨"'PostgresAIRunRepository' object has no attribute '_to_run'"⟩

/-- `get_by_task_id` -/
def getByTaskId (taskId : String) : Prog Instant Row AttributeError (Option AIRun) := do
  match ← scan fun rows => (rowsOfTask taskId rows).head? with
  | none => return none
  | some _ => raise noSuchMethod

section Readers

variable (column : FloatColumn)

/-- A run as it is kept: the cost and the duration as their columns hold them. -/
def Kept (run stored : AIRun) : Prop :=
  ∃ cost durationSeconds, column.write run.cost = .ok cost ∧
    column.write run.durationSeconds = .ok durationSeconds ∧
    stored = { run with
      cost := column.read cost, durationSeconds := column.read durationSeconds }

/-- A run is read back by either key, and nothing by a key that no row has. -/
structure ReadBack (now : Instant) (rows : Rows Row) (run : AIRun) : Prop where
  byRun : ∃ stored, (get column run.runId).atomically now rows = .ok (some stored, rows) ∧
    Kept column run stored
  byTask : ∃ stored, (getByTaskId run.taskId).atomically now rows =
    .ok (some stored, rows) ∧ Kept column run stored
  otherRun : ∀ runId, rows.get (Key.aiRun runId) = none →
    (get column runId).atomically now rows = .ok (none, rows)
  otherTask : ∀ taskId, (∀ runId row, rows.get (Key.aiRun runId) = some row →
    AIRunRow.taskId row ≠ taskId) → (getByTaskId taskId).atomically now rows = .ok (none, rows)

end Readers

variable {column : FloatColumn} {now : Instant} {rows rows' : Rows Row} {run : AIRun}
  {taskId : String}

theorem lists_aiRuns : Rows.Lists Key.aiRun (fun _ (row : AIRunRow) => row) aiRunEntry := by
  constructor
  · exact fun _ _ => rfl
  · rintro ⟨key, stored⟩ runId row hentry
    cases key with
    | aiRun other =>
        simp only [aiRunEntry, Option.some.injEq, Prod.mk.injEq] at hentry
        rw [hentry.1]
    | _ => simp [aiRunEntry] at hentry

theorem mem_rowsOfTask {runId : String} {row : AIRunRow} :
    (runId, row) ∈ rowsOfTask taskId rows ↔
      rows.get (Key.aiRun runId) = some row ∧ row.taskId = taskId := by
  rw [rowsOfTask, List.mem_filter, lists_aiRuns.mem_iff, beq_iff_eq]
  simp

/-- The reader by task answers nothing or fails. -/
theorem getByTaskId_atomically (taskId : String) (now : Instant) (rows : Rows Row) :
    (getByTaskId taskId).atomically now rows =
      if rowsOfTask taskId rows = [] then .ok (none, rows) else .error noSuchMethod := by
  simp only [getByTaskId, atomically, execute_bind, execute_scan, List.nil_append]
  cases rowsOfTask taskId rows with
  | nil => rfl
  | cons entry rest => rfl

theorem getByTaskId_absent (habsent : ∀ runId row, rows.get (Key.aiRun runId) = some row →
    AIRunRow.taskId row ≠ taskId) :
    (getByTaskId taskId).atomically now rows = .ok (none, rows) := by
  rw [getByTaskId_atomically, if_pos]
  apply List.eq_nil_iff_forall_not_mem.mpr
  rintro ⟨runId, row⟩ hmem
  obtain ⟨hrow, htask⟩ := mem_rowsOfTask.mp hmem
  exact habsent runId row hrow htask

theorem add_eq_ok (h : (add column run).atomically now rows = .ok ((), rows')) :
    ∃ row, AIRunRow.ofRun column run = .ok row ∧ rows.get (Key.aiRun run.runId) = none ∧
      rows' = ⟨Key.aiRun run.runId, some row⟩ :: rows := by
  obtain ⟨own, hrun, rfl⟩ := atomically_eq_ok.mp h
  simp only [add, execute_bind_eq_ok, execute_lift_eq_ok, execute_insert_eq_ok] at hrun
  obtain ⟨row, _, ⟨hrow, rfl⟩, hnew, rfl⟩ := hrun
  exact ⟨row, hrow, hnew, rfl⟩

theorem ofRun_eq_ok {row : AIRunRow} (h : AIRunRow.ofRun column run = .ok row) :
    ∃ cost durationSeconds, column.write run.cost = .ok cost ∧
      column.write run.durationSeconds = .ok durationSeconds ∧
      0 ≤ cost ∧ 0 ≤ durationSeconds ∧
      row = ⟨run.taskId, run.providerId, run.model, run.modelVersion, run.promptVersion,
        run.inputRefs, run.evidenceRefs, run.output, run.tokens, cost, durationSeconds⟩ := by
  simp only [AIRunRow.ofRun, bind_eq_ok, require_eq_ok, decide_eq_true_eq, pure_eq_ok,
    exists_const] at h
  obtain ⟨_, _, cost, hcost, hcostSign, duration, hduration, hdurationSign, rfl⟩ := h
  exact ⟨cost, duration, hcost, hduration, hcostSign, hdurationSign, rfl⟩

theorem get_absent {runId : String} (habsent : rows.get (Key.aiRun runId) = none) :
    (get column runId).atomically now rows = .ok (none, rows) := by
  simp [get, atomically, execute_bind, habsent]

/-- The reader by key gives an added run back, where the columns read no number below
zero. -/
theorem get_added (hread : ∀ units, 0 ≤ units → 0 ≤ column.read units)
    (hnew : run.new = .ok run) (hadd : (add column run).atomically now rows = .ok ((), rows')) :
    ∃ stored, (get column run.runId).atomically now rows' = .ok (some stored, rows') ∧
      Kept column run stored := by
  obtain ⟨row, hrow, _, rfl⟩ := add_eq_ok hadd
  obtain ⟨cost, duration, hcost, hduration, hcostSign, hdurationSign, rfl⟩ := ofRun_eq_ok hrow
  simp only [AIRun.new, bind_eq_ok, require_eq_ok, pure_eq_ok, exists_const, and_true] at hnew
  have hstored : AIRunRow.toRun column run.runId ⟨run.taskId, run.providerId, run.model,
      run.modelVersion, run.promptVersion, run.inputRefs, run.evidenceRefs, run.output,
      run.tokens, cost, duration⟩ = .ok { run with
        cost := column.read cost, durationSeconds := column.read duration } := by
    simp only [AIRunRow.toRun, AIRun.new, bind_eq_ok, require_eq_ok, pure_eq_ok, exists_const,
      Bool.and_eq_true, decide_eq_true_eq, and_true]
    exact ⟨hnew.1, decide_eq_true_eq.mp hnew.2.1, hread _ hcostSign, hread _ hdurationSign⟩
  refine ⟨_, ?_, cost, duration, hcost, hduration, rfl⟩
  simp [get, atomically, execute_bind, hstored]

/-- The reader by task fails on the task of every run that was added. -/
theorem getByTaskId_added (hadd : (add column run).atomically now rows = .ok ((), rows')) :
    (getByTaskId run.taskId).atomically now rows' = .error noSuchMethod := by
  obtain ⟨row, hrow, _, rfl⟩ := add_eq_ok hadd
  obtain ⟨_, _, _, _, _, _, rfl⟩ := ofRun_eq_ok hrow
  rw [getByTaskId_atomically, if_neg]
  exact List.ne_nil_of_mem (mem_rowsOfTask.mpr ⟨Rows.get_cons_self _ _ _, rfl⟩)

/-- No run that was added is read back by both keys. -/
theorem not_read_back (column : FloatColumn) (now : Instant) (rows rows' : Rows Row)
    (run : AIRun) (hadd : (add column run).atomically now rows = .ok ((), rows')) :
    (getByTaskId run.taskId).atomically now rows' = .error noSuchMethod ∧
      ¬ ReadBack column now rows' run := by
  have hfails := getByTaskId_added hadd
  refine ⟨hfails, fun hback => ?_⟩
  obtain ⟨stored, htask, _⟩ := hback.byTask
  rw [hfails] at htask
  cases htask

open AIGovernance (sampleColumn)
open IdempotentAIExecutionService (cheapRun cheapRow cheapRow_eq)

theorem add_cheapRun : (add sampleColumn cheapRun).atomically 0 [] =
    .ok ((), [⟨Key.aiRun "run-1", some cheapRow⟩]) := by
  apply atomically_eq_ok.mpr
  refine ⟨[⟨Key.aiRun "run-1", some cheapRow⟩], ?_, rfl⟩
  simp only [add, execute_bind_eq_ok, execute_lift_eq_ok, execute_insert_eq_ok]
  exact ⟨cheapRow, [], ⟨cheapRow_eq.1, rfl⟩, rfl, rfl⟩

theorem not_read_back_cheapRun :
    (getByTaskId "task-1").atomically 0 [⟨Key.aiRun "run-1", some cheapRow⟩] =
        .error noSuchMethod ∧
      ¬ ReadBack sampleColumn 0 [⟨Key.aiRun "run-1", some cheapRow⟩] cheapRun :=
  not_read_back sampleColumn 0 [] _ cheapRun add_cheapRun

/-- The run of one task, added to an empty table. -/
theorem task_reader_fails : ¬ ∀ (column : FloatColumn) (now : Instant) (rows rows' : Rows Row)
    (run : AIRun), run.new = .ok run →
    (add column run).atomically now rows = .ok ((), rows') →
      ReadBack column now rows' run := by
  intro hclaim
  have hback := hclaim sampleColumn 0 [] _ cheapRun (by decide +kernel) add_cheapRun
  obtain ⟨stored, htask, _⟩ := hback.byTask
  have hfails := getByTaskId_added add_cheapRun
  rw [hfails] at htask
  cases htask

end AIRuns

end ShemaPlatform
