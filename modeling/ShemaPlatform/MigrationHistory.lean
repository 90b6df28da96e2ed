/-
Histories of migration runs with different plans: the ledger is the plan that
was applied last, and what it records has been executed once, in order, but for
a baseline that was adopted.
-/
import Mathlib.Data.List.Nodup
import ShemaPlatform.Migrations

namespace ShemaPlatform

variable {σ α β : Type} {engine : SchemaEngine σ} {sha256 : String → String}
  {faults : ℕ → Bool}

theorem MigrationError.ensure_eq_ok {condition : Bool} {error : MigrationError}
    {result : Unit} : ensure condition error = .ok result ↔ condition = true := by
  cases condition with
  | true => simp [MigrationError.ensure]
  | false => simp [MigrationError.ensure]

theorem migrationBind_eq_ok {first : Except MigrationError α}
    {rest : α → Except MigrationError β} {result : β} :
    first >>= rest = .ok result ↔
      ∃ middle, first = .ok middle ∧ rest middle = .ok result := by
  cases first with
  | ok middle => simp [bind, Except.bind]
  | error error => simp [bind, Except.bind]

/-- A plan is accepted when it is numbered from one without a gap. -/
theorem MigrationPlan.check_eq_ok {migrations : List Migration} :
    check migrations = .ok () ↔
      migrations.map Migration.version = List.range' 1 migrations.length := by
  simp only [check, migrationBind_eq_ok, MigrationError.ensure_eq_ok, Bool.or_eq_true,
    beq_iff_eq, decide_eq_true_eq, List.isEmpty_iff, List.length_map]
  constructor
  · rintro ⟨_, _, _, _, hempty | hrange⟩
    · have hnil : migrations = [] := List.map_eq_nil_iff.mp hempty
      simp [hnil]
    · exact hrange
  · intro hrange
    rw [hrange]
    refine ⟨(), ?_, (), List.nodup_range', Or.inr rfl⟩
    symm
    apply List.mergeSort_of_pairwise
    exact List.pairwise_le_range'.imp fun hle => by simpa using hle

theorem MigrationPlan.versions (plan : MigrationPlan) :
    plan.migrations.map Migration.version = List.range' 1 plan.migrations.length :=
  check_eq_ok.mp plan.accepted

theorem MigrationPlan.lastVersion (plan : MigrationPlan) :
    (plan.migrations.getLast?.map Migration.version).getD 0 = plan.migrations.length := by
  rw [← List.getLast?_map, plan.versions, List.getLast?_range']
  split
  · rename_i hzero
    simp [hzero]
  · rw [Option.getD_some]
    omega

/-- The rows that a plan stands for in the ledger. -/
def MigrationPlan.rows (sha256 : String → String) (plan : MigrationPlan) :
    List LedgerRow :=
  plan.migrations.map (Migration.row sha256)

def MigrationDatabase.rows (database : MigrationDatabase σ) : List LedgerRow :=
  database.ledger.getD []

namespace MigrationScript

variable {session session' : MigrationSession σ} {result : α}

theorem script_bind_eq_ok {script : MigrationScript σ α} {rest : α → MigrationScript σ β}
    {answer : β} :
    (script >>= rest) session = .ok (answer, session') ↔
      ∃ result between, script session = .ok (result, between) ∧
        rest result between = .ok (answer, session') := by
  simp only [bind, StateT.bind]
  cases script session with
  | error error => simp [Except.bind]
  | ok outcome =>
      obtain ⟨result, between⟩ := outcome
      simp [Except.bind]

theorem script_pure_eq_ok {answer : α} :
    (pure answer : MigrationScript σ α) session = .ok (result, session') ↔
      answer = result ∧ session = session' := by
  change Except.ok (answer, session) = Except.ok (result, session') ↔ _
  simp

theorem lift_eq_ok {outcome : Except MigrationError α} :
    (liftM outcome : MigrationScript σ α) session = .ok (result, session') ↔
      outcome = .ok result ∧ session = session' := by
  cases outcome with
  | error error => simp [liftM, monadLift, MonadLift.monadLift, StateT.lift, bind, Except.bind]
  | ok answer =>
      simp [liftM, monadLift, MonadLift.monadLift, StateT.lift, bind, Except.bind, pure,
        Except.pure]

end MigrationScript

namespace MigrationRunner

open MigrationScript

variable {session session' : MigrationSession σ}

theorem raiseUnless_eq_ok {condition : Bool} {error : MigrationError} {result : Unit} :
    raiseUnless condition error session = .ok (result, session') ↔
      condition = true ∧ session = session' := by
  rw [raiseUnless, lift_eq_ok, MigrationError.ensure_eq_ok]

theorem statement_eq_ok
    {perform : MigrationDatabase σ → Option (α × MigrationDatabase σ)} {result : α} :
    statement faults perform session = .ok (result, session') ↔
      faults session.statements = false ∧ ∃ database,
        perform session.database = some (result, database) ∧
          session' = ⟨database, session.statements + 1⟩ := by
  unfold statement
  cases faults session.statements with
  | true => simp
  | false =>
      cases perform session.database with
      | none => simp
      | some outcome =>
          obtain ⟨answer, database⟩ := outcome
          simp only [Bool.false_eq_true, if_false, Except.ok.injEq, Prod.mk.injEq,
            Option.some.injEq, true_and]
          constructor
          · rintro ⟨rfl, rfl⟩
            exact ⟨database, ⟨rfl, rfl⟩, rfl⟩
          · rintro ⟨_, ⟨rfl, rfl⟩, rfl⟩
            exact ⟨rfl, rfl⟩

theorem query_eq_ok {answer : MigrationDatabase σ → Option α} {result : α}
    (h : query faults answer session = .ok (result, session')) :
    answer session.database = some result ∧ session'.database = session.database := by
  obtain ⟨_, database, hperform, rfl⟩ := statement_eq_ok.mp h
  obtain ⟨found, hfound, heq⟩ := Option.map_eq_some_iff.mp hperform
  obtain ⟨rfl, rfl⟩ := Prod.mk.inj heq
  exact ⟨hfound, rfl⟩

theorem createLedger_eq_ok {result : Unit}
    (h : createLedger faults session = .ok (result, session')) :
    session'.database = { session.database with
      ledger := some session.database.rows } := by
  obtain ⟨_, database, hperform, rfl⟩ := statement_eq_ok.mp h
  obtain ⟨_, rfl⟩ := Prod.mk.inj (Option.some.inj hperform)
  rfl

theorem insertRow_eq_ok {row : LedgerRow} {result : Unit}
    (h : insertRow faults row session = .ok (result, session')) :
    ∃ rows, session.database.ledger = some rows ∧
      session'.database = { session.database with ledger := some (rows ++ [row]) } := by
  obtain ⟨_, database, hperform, rfl⟩ := statement_eq_ok.mp h
  obtain ⟨rows, hrows, hinsert⟩ := Option.bind_eq_some_iff.mp hperform
  split at hinsert
  · cases hinsert
  · obtain ⟨_, rfl⟩ := Prod.mk.inj (Option.some.inj hinsert)
    exact ⟨rows, hrows, rfl⟩

theorem executeSql_eq_ok {migration : Migration} {result : Unit}
    (h : executeSql engine faults migration session = .ok (result, session')) :
    ∃ schema, engine.execute migration.sql session.database.schema = some schema ∧
      session'.database = { session.database with
        schema, executed := session.database.executed ++ [migration] } := by
  obtain ⟨_, database, hperform, rfl⟩ := statement_eq_ok.mp h
  obtain ⟨schema, hschema, heq⟩ := Option.map_eq_some_iff.mp hperform
  obtain ⟨_, rfl⟩ := Prod.mk.inj heq
  exact ⟨schema, hschema, rfl⟩

/-- The row of a version among those read. -/
def recordedRow (applied : List LedgerRow) (migration : Migration) : Option LedgerRow :=
  applied.find? fun row => row.version == migration.version

/-- The migrations of a plan that no row is read for. -/
def unrecorded (applied : List LedgerRow) (migrations : List Migration) :
    List Migration :=
  migrations.filter fun migration => (recordedRow applied migration).isNone

/-- What the SQL of the migrations makes of a schema. -/
def executeAll (engine : SchemaEngine σ) (migrations : List Migration) (schema : σ) :
    Option σ :=
  migrations.foldlM (fun schema migration => engine.execute migration.sql schema) schema

theorem applyMigrations_eq_ok {applied rows : List LedgerRow}
    {migrations : List Migration} {appliedNow : List ℕ}
    (hledger : session.database.ledger = some rows)
    (h : applyMigrations engine sha256 faults applied migrations session =
      .ok (appliedNow, session')) :
    appliedNow = (unrecorded applied migrations).map Migration.version ∧
    session'.database.ledger =
      some (rows ++ (unrecorded applied migrations).map (Migration.row sha256)) ∧
    session'.database.executed =
      session.database.executed ++ unrecorded applied migrations ∧
    executeAll engine (unrecorded applied migrations) session.database.schema =
      some session'.database.schema ∧
    ∀ migration ∈ migrations, ∀ existing, recordedRow applied migration = some existing →
      existing = migration.row sha256 := by
  induction migrations generalizing session rows appliedNow with
  | nil =>
      obtain ⟨rfl, rfl⟩ := script_pure_eq_ok.mp h
      simp [unrecorded, executeAll, hledger]
  | cons migration rest ih =>
      cases hfound : recordedRow applied migration with
      | some existing =>
          have hfound' := hfound
          simp only [recordedRow] at hfound'
          simp only [applyMigrations, hfound', script_bind_eq_ok, raiseUnless_eq_ok,
            Bool.and_eq_true, beq_iff_eq] at h
          obtain ⟨_, _, ⟨⟨hname, hchecksum⟩, rfl⟩, hrest⟩ := h
          have hskip : unrecorded applied (migration :: rest) = unrecorded applied rest := by
            simp [unrecorded, hfound]
          obtain ⟨happlied, hrows, hexecuted, hschema, hsame⟩ := ih hledger hrest
          rw [hskip]
          refine ⟨happlied, hrows, hexecuted, hschema, ?_⟩
          intro other hother row hrow
          rcases List.mem_cons.mp hother with rfl | hother
          · rw [hfound] at hrow
            obtain rfl := Option.some.inj hrow
            have hversion : existing.version = other.version := by
              simpa using List.find?_some hfound'
            rw [Migration.row, ← hversion, ← hname, ← hchecksum]
          · exact hsame other hother row hrow
      | none =>
          have hfound' := hfound
          simp only [recordedRow] at hfound'
          simp only [applyMigrations, hfound', script_bind_eq_ok] at h
          obtain ⟨_, between, hsql, _, inserted, hinsert, later, last, hrest, hreturn⟩ := h
          obtain ⟨rfl, rfl⟩ := script_pure_eq_ok.mp hreturn
          obtain ⟨schema, hexecute, hbetween⟩ := executeSql_eq_ok hsql
          obtain ⟨stored, hstored, hinserted⟩ := insertRow_eq_ok hinsert
          rw [hbetween] at hstored hinserted
          obtain rfl := Option.some.inj (hledger.symm.trans hstored)
          have hkeep : unrecorded applied (migration :: rest) =
              migration :: unrecorded applied rest := by
            simp [unrecorded, hfound]
          obtain ⟨happlied, hrows, hexecuted, hschema, hsame⟩ :=
            ih (by rw [hinserted]) hrest
          rw [hinserted] at hexecuted hschema
          rw [hkeep]
          refine ⟨by rw [happlied]; rfl, by simpa using hrows, by simpa using hexecuted,
            by simpa [executeAll, hexecute] using hschema, ?_⟩
          intro other hother row hrow
          rcases List.mem_cons.mp hother with rfl | hother
          · rw [hfound] at hrow
            cases hrow
          · exact hsame other hother row hrow

theorem insertRows_eq_ok {rows : List LedgerRow} {migrations : List Migration}
    {result : Unit} (hledger : session.database.ledger = some rows)
    (h : insertRows sha256 faults migrations session = .ok (result, session')) :
    session'.database = { session.database with
      ledger := some (rows ++ migrations.map (Migration.row sha256)) } := by
  induction migrations generalizing session rows with
  | nil =>
      obtain ⟨rfl, rfl⟩ := script_pure_eq_ok.mp h
      simp [← hledger]
  | cons migration rest ih =>
      simp only [insertRows, script_bind_eq_ok] at h
      obtain ⟨_, between, hinsert, hrest⟩ := h
      obtain ⟨stored, hstored, hbetween⟩ := insertRow_eq_ok hinsert
      obtain rfl := Option.some.inj (hledger.symm.trans hstored)
      have hlast := ih (by rw [hbetween]) hrest
      rw [hlast, hbetween]
      simp

/-- Rows that are numbered from one without a gap. -/
def Numbered (rows : List LedgerRow) : Prop :=
  rows.map LedgerRow.version = List.range' 1 rows.length

theorem numbered_rows (plan : MigrationPlan) : Numbered (plan.rows sha256) := by
  have hversions : (plan.rows sha256).map LedgerRow.version =
      plan.migrations.map Migration.version := by
    simp [MigrationPlan.rows, Migration.row, Function.comp_def]
  rw [Numbered, hversions, plan.versions, MigrationPlan.rows, List.length_map]

theorem Numbered.take {rows : List LedgerRow} (h : Numbered rows) (count : ℕ) :
    Numbered (rows.take count) := by
  rw [Numbered, List.map_take, h, List.length_take]
  rcases Nat.le_total count rows.length with hle | hle
  · rw [List.take_range'_of_length_ge hle, Nat.min_eq_left hle]
  · rw [List.take_range'_of_length_le hle, Nat.min_eq_right hle]

theorem Numbered.getElem {rows : List LedgerRow} (h : Numbered rows) {place : ℕ}
    (hplace : place < rows.length) : rows[place].version = place + 1 := by
  have hversion : (rows.map LedgerRow.version)[place]? =
      (List.range' 1 rows.length)[place]? := by
    rw [h]
  rw [List.getElem?_map, List.getElem?_eq_getElem hplace, List.getElem?_range' hplace]
    at hversion
  simp only [Option.map_some, Option.some.injEq] at hversion
  omega

/-- Whether a row is read for a migration depends on its version only. -/
theorem Numbered.recordedRow_isNone {rows : List LedgerRow} (h : Numbered rows)
    (migration : Migration) :
    (recordedRow rows migration).isNone = true ↔ rows.length < migration.version := by
  have hmem : migration.version ∈ rows.map LedgerRow.version ↔
      migration.version ≤ rows.length := by
    rw [h, List.mem_range'_1]
    have hpositive := migration.valid.1
    omega
  rw [Option.isNone_iff_eq_none, recordedRow, List.find?_eq_none, ← Nat.not_le, ← hmem,
    List.mem_map]
  simp [beq_iff_eq]

theorem Numbered.unrecorded_eq {rows : List LedgerRow} (h : Numbered rows)
    (plan : MigrationPlan) (hlength : rows.length ≤ plan.migrations.length) :
    unrecorded rows plan.migrations = plan.migrations.drop rows.length := by
  have htake : (plan.migrations.take rows.length).map Migration.version =
      List.range' 1 rows.length := by
    rw [List.map_take, plan.versions, List.take_range'_of_length_ge hlength]
  have hdrop : (plan.migrations.drop rows.length).map Migration.version =
      List.range' (1 + rows.length) (plan.migrations.length - rows.length) := by
    rw [List.map_drop, plan.versions, List.drop_range', Nat.mul_one]
  have hold : (plan.migrations.take rows.length).filter (fun migration =>
      (recordedRow rows migration).isNone) = [] := by
    rw [List.filter_eq_nil_iff]
    intro migration hmem
    rw [h.recordedRow_isNone]
    have hversion : migration.version ∈ List.range' 1 rows.length := by
      rw [← htake]
      exact List.mem_map_of_mem hmem
    rw [List.mem_range'_1] at hversion
    omega
  have hnew : (plan.migrations.drop rows.length).filter (fun migration =>
      (recordedRow rows migration).isNone) = plan.migrations.drop rows.length := by
    rw [List.filter_eq_self]
    intro migration hmem
    rw [h.recordedRow_isNone]
    have hversion : migration.version ∈
        List.range' (1 + rows.length) (plan.migrations.length - rows.length) := by
      rw [← hdrop]
      exact List.mem_map_of_mem hmem
    rw [List.mem_range'_1] at hversion
    omega
  rw [unrecorded, ← List.take_append_drop rows.length plan.migrations,
    List.filter_append, List.take_append_drop, hold, hnew, List.nil_append]

/-- Rows that agree with a plan wherever both have a version are its beginning. -/
theorem Numbered.eq_take {rows : List LedgerRow} (h : Numbered rows)
    (plan : MigrationPlan) (hlength : rows.length ≤ plan.migrations.length)
    (hsame : ∀ migration ∈ plan.migrations, ∀ existing,
      recordedRow rows migration = some existing → existing = migration.row sha256) :
    rows = (plan.rows sha256).take rows.length := by
  apply List.ext_getElem
  · simp [MigrationPlan.rows, hlength]
  · intro place hplace _
    have hplan : place < plan.migrations.length := Nat.lt_of_lt_of_le hplace hlength
    have hversion : plan.migrations[place].version = place + 1 := by
      have hplace' : place < (plan.rows sha256).length := by
        simpa [MigrationPlan.rows] using hplan
      have hrow := (numbered_rows plan).getElem hplace'
      simpa [MigrationPlan.rows, Migration.row] using hrow
    have hsome : recordedRow rows plan.migrations[place] ≠ none := by
      intro hnone
      have hlt := (h.recordedRow_isNone plan.migrations[place]).mp (by rw [hnone]; rfl)
      omega
    obtain ⟨existing, hexisting⟩ := Option.ne_none_iff_exists'.mp hsome
    have hrow := hsame _ (List.getElem_mem hplan) existing hexisting
    obtain ⟨other, hother, rfl⟩ := List.getElem_of_mem (List.mem_of_find?_eq_some hexisting)
    have hplaces : other = place := by
      have hsameVersion : rows[other].version = plan.migrations[place].version := by
        rw [hrow, Migration.row]
      rw [h.getElem hother, hversion] at hsameVersion
      omega
    subst hplaces
    rw [hrow]
    simp [MigrationPlan.rows]

/-- What is numbered is read in the order in which it was written. -/
theorem Numbered.mergeSort {rows : List LedgerRow} (h : Numbered rows) :
    rows.mergeSort (fun left right => decide (left.version ≤ right.version)) = rows := by
  apply List.mergeSort_of_pairwise
  have hpairwise : (rows.map LedgerRow.version).Pairwise (· ≤ ·) := by
    rw [h]
    exact List.pairwise_le_range'
  simpa using List.pairwise_map.mp hpairwise

theorem readApplied_eq_ok {applied : List LedgerRow}
    (hnumbered : Numbered session.database.rows)
    (h : readApplied faults session = .ok (applied, session')) :
    session.database.ledger = some session.database.rows ∧
      applied = session.database.rows ∧ session'.database = session.database := by
  obtain ⟨hanswer, hdatabase⟩ := query_eq_ok h
  obtain ⟨rows, hrows, rfl⟩ := Option.map_eq_some_iff.mp hanswer
  have hsame : session.database.rows = rows := by
    simp [MigrationDatabase.rows, hrows]
  rw [hsame] at hnumbered ⊢
  exact ⟨hrows, hnumbered.mergeSort, hdatabase⟩

/-- The rows that are validated are not more than the plan. -/
theorem validateAppliedLedger_eq_ok {plan : MigrationPlan} {applied : List LedgerRow}
    {result : Unit} (hnumbered : Numbered applied)
    (h : validateAppliedLedger plan applied = .ok result) :
    applied.length ≤ plan.migrations.length := by
  rcases Nat.eq_zero_or_pos applied.length with hzero | hpositive
  · omega
  unfold validateAppliedLedger at h
  have hlast : (applied.map LedgerRow.version).getLast? = some applied.length := by
    rw [hnumbered, List.getLast?_range', if_neg (by omega)]
    congr 1
    omega
  simp only [hlast, migrationBind_eq_ok, MigrationError.ensure_eq_ok] at h
  obtain ⟨_, _, hunknown⟩ := h
  rw [List.isEmpty_iff, List.filter_eq_nil_iff] at hunknown
  have hmem : applied.length ∈ applied.map LedgerRow.version := by
    rw [hnumbered, List.mem_range'_1]
    omega
  have hknown := hunknown _ hmem
  simp only [Bool.not_eq_true, Bool.not_eq_false', List.contains_iff_mem, plan.versions,
    List.mem_range'_1] at hknown
  omega

/-- What a successful `apply` has done. -/
structure Applies (engine : SchemaEngine σ) (sha256 : String → String)
    (plan : MigrationPlan) (before after : MigrationDatabase σ)
    (report : MigrationReport) : Prop where
  recorded : before.rows = (plan.rows sha256).take before.rows.length
  ledger : after.ledger = some (plan.rows sha256)
  executed : after.executed = before.executed ++ plan.migrations.drop before.rows.length
  schema : executeAll engine (plan.migrations.drop before.rows.length) before.schema =
    some after.schema
  applied : report.applied =
    (plan.migrations.drop before.rows.length).map Migration.version
  currentVersion : report.currentVersion = plan.migrations.length

theorem apply_eq_ok {plan : MigrationPlan} {report : MigrationReport}
    (hnumbered : Numbered session.database.rows)
    (h : apply engine sha256 faults plan session = .ok (report, session')) :
    Applies engine sha256 plan session.database session'.database report := by
  simp only [apply, script_bind_eq_ok, lift_eq_ok] at h
  obtain ⟨_, locked, hlock, _, created, hcreate, applied, read, hread, _, _,
    ⟨hvalid, rfl⟩, appliedNow, finished, hloop, _, committed, hcommit, hreturn⟩ := h
  obtain ⟨rfl, rfl⟩ := script_pure_eq_ok.mp hreturn
  have hlocked : locked.database = session.database := (query_eq_ok hlock).2
  have hcreated := createLedger_eq_ok hcreate
  rw [hlocked] at hcreated
  have hrows : created.database.rows = session.database.rows := by
    rw [hcreated]
    rfl
  obtain ⟨hledger, happlied, hreadDatabase⟩ := readApplied_eq_ok (hrows ▸ hnumbered) hread
  rw [hrows] at hledger happlied
  subst happlied
  have hlength := validateAppliedLedger_eq_ok hnumbered hvalid
  obtain ⟨hnow, hloopLedger, hexecuted, hschema, hsame⟩ :=
    applyMigrations_eq_ok (hreadDatabase ▸ hledger) hloop
  rw [hnumbered.unrecorded_eq plan hlength] at hnow hloopLedger hexecuted hschema
  have htake := hnumbered.eq_take plan hlength hsame
  have hfinal : committed.database = finished.database := (query_eq_ok hcommit).2
  rw [hreadDatabase, hcreated] at hexecuted hschema
  constructor
  · exact htake
  · rw [hfinal, hloopLedger]
    congr 1
    nth_rewrite 1 [htake]
    rw [MigrationPlan.rows, ← List.map_take, ← List.map_append, List.take_append_drop]
  · rw [hfinal, hexecuted]
  · rw [hfinal]
    exact hschema
  · exact hnow
  · exact plan.lastVersion

/-- What a successful adoption has done. -/
structure Adopts (sha256 : String → String) (plan : MigrationPlan)
    (before after : MigrationDatabase σ) (report : MigrationReport) : Prop where
  unused : before.rows = []
  baseline : v14BaselineVersion ≤ plan.migrations.length
  ledger : after.ledger = some ((plan.rows sha256).take v14BaselineVersion)
  executed : after.executed = before.executed
  schema : after.schema = before.schema
  report : report = ⟨[], v14BaselineVersion⟩

theorem currentSchema_eq_ok {result : String}
    (h : currentSchema engine faults session = .ok (result, session')) :
    session'.database = session.database := by
  simp only [currentSchema, script_bind_eq_ok] at h
  obtain ⟨found, _, hfound, hnamed⟩ := h
  have hquery := (query_eq_ok hfound).2
  cases found with
  | none => cases hnamed
  | some schema =>
      obtain ⟨_, rfl⟩ := script_pure_eq_ok.mp hnamed
      exact hquery

theorem requireUnpopulated_eq_ok {result : Unit}
    (h : requireUnpopulated faults session = .ok (result, session')) :
    session.database.rows = [] ∧ session'.database = session.database := by
  simp only [requireUnpopulated, script_bind_eq_ok] at h
  obtain ⟨ledgerExists, looked, hlook, h⟩ := h
  obtain ⟨hexists, hlooked⟩ := query_eq_ok hlook
  have hsome : session.database.ledger.isSome = ledgerExists := by simpa using hexists
  cases ledgerExists with
  | false =>
      obtain ⟨_, rfl⟩ := script_pure_eq_ok.mp h
      have hnone : session.database.ledger = none := by simpa using hsome
      exact ⟨by simp [MigrationDatabase.rows, hnone], hlooked⟩
  | true =>
      simp only [if_true, script_bind_eq_ok, raiseUnless_eq_ok] at h
      obtain ⟨existingRows, _, hread, hempty, rfl⟩ := h
      obtain ⟨hanswer, hdatabase⟩ := query_eq_ok hread
      obtain ⟨rows, hrows, rfl⟩ := Option.map_eq_some_iff.mp hanswer
      have hnil : rows = [] := by
        have hperm := List.mergeSort_perm rows fun left right =>
          decide (left.version ≤ right.version)
        rw [List.isEmpty_iff.mp hempty] at hperm
        exact hperm.symm.eq_nil
      rw [hlooked] at hrows hdatabase
      exact ⟨by simp [MigrationDatabase.rows, hrows, hnil], hdatabase⟩

theorem verifyV14Schema_eq_ok {result : Unit}
    (h : verifyV14Schema engine faults session = .ok (result, session')) :
    session'.database = session.database := by
  simp only [verifyV14Schema, script_bind_eq_ok, raiseUnless_eq_ok] at h
  obtain ⟨_, named, hnamed, _, listed, hlisted, _, rfl⟩ := h
  rw [(query_eq_ok hlisted).2, currentSchema_eq_ok hnamed]

theorem adoptExistingSchema_eq_ok {plan : MigrationPlan} {baselineVersion : ℤ}
    {report : MigrationReport}
    (h : adoptExistingSchema engine sha256 faults plan baselineVersion session =
      .ok (report, session')) :
    Adopts sha256 plan session.database session'.database report := by
  simp only [adoptExistingSchema, script_bind_eq_ok, raiseUnless_eq_ok, decide_eq_true_eq] at h
  obtain ⟨_, _, ⟨_, rfl⟩, _, _, ⟨hbaseline, rfl⟩, _, locked, hlock, _, named, hnamed, _,
    checked, hcheck, _, verified, hverify, _, created, hcreate, _, inserted, hinsert, _,
    committed, hcommit, hreturn⟩ := h
  obtain ⟨rfl, rfl⟩ := script_pure_eq_ok.mp hreturn
  have hlocked : locked.database = session.database := (query_eq_ok hlock).2
  obtain ⟨hunused, hchecked⟩ := requireUnpopulated_eq_ok hcheck
  rw [currentSchema_eq_ok hnamed, hlocked] at hunused hchecked
  have hcreated := createLedger_eq_ok hcreate
  rw [verifyV14Schema_eq_ok hverify, hchecked, hunused] at hcreated
  have hempty : created.database.ledger = some [] := by rw [hcreated]
  have hinserted := insertRows_eq_ok hempty hinsert
  rw [hcreated] at hinserted
  have hfinal : committed.database = inserted.database := (query_eq_ok hcommit).2
  rw [hfinal, hinserted]
  constructor
  · exact hunused
  · exact hbaseline
  · simp [MigrationPlan.rows, List.map_take]
  · rfl
  · rfl
  · rfl

/-- A script that reaches its end has met no fault. -/
def Faultless (faults : ℕ → Bool) (script : MigrationScript σ α) : Prop :=
  ∀ session session' result, script session = .ok (result, session') →
    session.statements ≤ session'.statements ∧
      ∀ place, session.statements ≤ place → place < session'.statements →
        faults place = false

theorem faultless_pure (answer : α) :
    Faultless faults (pure answer : MigrationScript σ α) := by
  intro session session' result h
  obtain ⟨_, rfl⟩ := script_pure_eq_ok.mp h
  exact ⟨Nat.le_refl _, fun place hle hlt => by omega⟩

theorem faultless_lift (outcome : Except MigrationError α) :
    Faultless faults (liftM outcome : MigrationScript σ α) := by
  intro session session' result h
  obtain ⟨_, rfl⟩ := lift_eq_ok.mp h
  exact ⟨Nat.le_refl _, fun place hle hlt => by omega⟩

theorem faultless_statement
    (perform : MigrationDatabase σ → Option (α × MigrationDatabase σ)) :
    Faultless faults (statement faults perform) := by
  intro session session' result h
  obtain ⟨hfault, database, _, rfl⟩ := statement_eq_ok.mp h
  refine ⟨Nat.le_succ _, ?_⟩
  intro place hle hlt
  have hplace : place = session.statements := by
    simp only at hlt
    omega
  rw [hplace, hfault]

theorem faultless_query (answer : MigrationDatabase σ → Option α) :
    Faultless faults (query faults answer) := faultless_statement _

theorem faultless_lock : Faultless faults (lock faults : MigrationScript σ Unit) :=
  faultless_query _

theorem faultless_createLedger :
    Faultless faults (createLedger faults : MigrationScript σ Unit) :=
  faultless_statement _

theorem faultless_readApplied :
    Faultless faults (readApplied faults : MigrationScript σ (List LedgerRow)) :=
  faultless_query _

theorem Faultless.bind {script : MigrationScript σ α} {rest : α → MigrationScript σ β}
    (hscript : Faultless faults script) (hrest : ∀ result, Faultless faults (rest result)) :
    Faultless faults (script >>= rest) := by
  intro session session' result h
  obtain ⟨middle, between, hfirst, hlast⟩ := script_bind_eq_ok.mp h
  obtain ⟨hle, hbefore⟩ := hscript _ _ _ hfirst
  obtain ⟨hle', hafter⟩ := hrest middle _ _ _ hlast
  refine ⟨Nat.le_trans hle hle', ?_⟩
  intro place hplace hlt
  rcases Nat.lt_or_ge place between.statements with hearly | hlate
  · exact hbefore place hplace hearly
  · exact hafter place hlate hlt

theorem faultless_currentSchema :
    Faultless faults (currentSchema engine faults) := by
  apply (faultless_statement _).bind
  intro found
  cases found with
  | none => exact fun _ _ _ h => by cases h
  | some schema => exact faultless_pure schema

theorem faultless_applyMigrations (applied : List LedgerRow) (migrations : List Migration) :
    Faultless faults (applyMigrations engine sha256 faults applied migrations) := by
  induction migrations with
  | nil => exact faultless_pure _
  | cons migration rest ih =>
      unfold applyMigrations
      split
      · exact (faultless_lift _).bind fun _ => ih
      · apply (faultless_statement _).bind
        intro _
        apply (faultless_statement _).bind
        intro _
        exact ih.bind fun _ => faultless_pure _

theorem faultless_insertRows (migrations : List Migration) :
    Faultless faults (insertRows sha256 faults migrations : MigrationScript σ Unit) := by
  induction migrations with
  | nil => exact faultless_pure _
  | cons migration rest ih => exact (faultless_statement _).bind fun _ => ih

theorem faultless_requireUnpopulated :
    Faultless faults (requireUnpopulated faults : MigrationScript σ Unit) := by
  apply (faultless_statement _).bind
  intro ledgerExists
  cases ledgerExists with
  | false => exact faultless_pure _
  | true => exact faultless_readApplied.bind fun _ => faultless_lift _

theorem faultless_verifyV14Schema :
    Faultless faults (verifyV14Schema engine faults) := by
  apply faultless_currentSchema.bind
  intro _
  exact (faultless_statement _).bind fun _ => faultless_lift _

theorem faultless_apply (plan : MigrationPlan) :
    Faultless faults (apply engine sha256 faults plan) := by
  apply faultless_lock.bind
  intro _
  apply faultless_createLedger.bind
  intro _
  apply faultless_readApplied.bind
  intro applied
  apply (faultless_lift _).bind
  intro _
  apply (faultless_applyMigrations applied plan.migrations).bind
  intro _
  exact (faultless_query _).bind fun _ => faultless_pure _

theorem faultless_adoptExistingSchema (plan : MigrationPlan) (baselineVersion : ℤ) :
    Faultless faults (adoptExistingSchema engine sha256 faults plan baselineVersion) := by
  apply (faultless_lift _).bind
  intro _
  apply (faultless_lift _).bind
  intro _
  apply faultless_lock.bind
  intro _
  apply faultless_currentSchema.bind
  intro _
  apply faultless_requireUnpopulated.bind
  intro _
  apply faultless_verifyV14Schema.bind
  intro _
  apply faultless_createLedger.bind
  intro _
  apply (faultless_insertRows _).bind
  intro _
  exact (faultless_query _).bind fun _ => faultless_pure _

end MigrationRunner

namespace MigrationCall

open MigrationRunner

variable (engine : SchemaEngine σ) (sha256 : String → String)

def plan : MigrationCall → MigrationPlan
  | .apply plan _ => plan
  | .adopt plan _ _ => plan

def adopts : MigrationCall → Bool
  | .apply _ _ => false
  | .adopt _ _ _ => true

/-- Whether a statement of the call, counted from zero, fails. -/
def failsAt : MigrationCall → ℕ → Bool
  | .apply _ faults => faults
  | .adopt _ _ faults => faults

/-- Whether the call raises nothing. -/
def succeeds (database : MigrationDatabase σ) (call : MigrationCall) : Bool :=
  (call.run engine sha256 database).1.isOk

/-- What a successful call adds to the ledger. -/
def records (database : MigrationDatabase σ) : MigrationCall → List Migration
  | .apply plan _ => plan.migrations.drop database.rows.length
  | .adopt plan _ _ => plan.migrations.take v14BaselineVersion

/-- The database that a history of calls leads to. -/
def reached (database : MigrationDatabase σ) (calls : List MigrationCall) :
    MigrationDatabase σ :=
  calls.foldl (MigrationCall.after engine sha256) database

/-- All that the calls of a history record, in this order. -/
def recorded (database : MigrationDatabase σ) : List MigrationCall → List Migration
  | [] => []
  | call :: rest =>
      (if call.succeeds engine sha256 database then call.records database else []) ++
        recorded (call.after engine sha256 database) rest

/-- How many calls of a history have adopted the schema. -/
def adoptions (database : MigrationDatabase σ) : List MigrationCall → ℕ
  | [] => 0
  | call :: rest =>
      (if call.adopts && call.succeeds engine sha256 database then 1 else 0) +
        adoptions (call.after engine sha256 database) rest

variable {engine sha256} {database after : MigrationDatabase σ} {call : MigrationCall}
  {report : MigrationReport}

theorem run_ok (h : call.run engine sha256 database = (.ok report, after)) :
    ∃ session, call.script engine sha256 ⟨database, 0⟩ = .ok (report, session) ∧
      session.database = after := by
  unfold run at h
  split at h
  · rename_i found session hscript
    obtain ⟨hreport, hafter⟩ := Prod.mk.inj h
    obtain rfl := Except.ok.inj hreport
    exact ⟨session, hscript, hafter⟩
  · simp at h

theorem run_error {error : MigrationError}
    (h : (call.run engine sha256 database).1 = .error error) :
    call.run engine sha256 database = (.error error, database) := by
  unfold run at h ⊢
  split at h
  · cases h
  · rename_i raised hscript
    obtain rfl := Except.error.inj h
    rfl

theorem run_apply {plan : MigrationPlan} {faults : ℕ → Bool}
    (hnumbered : Numbered database.rows)
    (h : (MigrationCall.apply plan faults).run engine sha256 database = (.ok report, after)) :
    Applies engine sha256 plan database after report := by
  obtain ⟨session, hscript, rfl⟩ := run_ok h
  exact apply_eq_ok hnumbered hscript

theorem run_adopt {plan : MigrationPlan} {baselineVersion : ℤ} {faults : ℕ → Bool}
    (h : (MigrationCall.adopt plan baselineVersion faults).run engine sha256 database =
      (.ok report, after)) :
    Adopts sha256 plan database after report := by
  obtain ⟨session, hscript, rfl⟩ := run_ok h
  exact adoptExistingSchema_eq_ok hscript

/-- A call that returns has met no fault. -/
theorem failsAt_of_script {session : MigrationSession σ}
    (h : call.script engine sha256 ⟨database, 0⟩ = .ok (report, session)) {place : ℕ}
    (hplace : place < session.statements) : call.failsAt place = false := by
  cases call with
  | apply plan faults => exact (faultless_apply plan _ _ _ h).2 place (Nat.zero_le _) hplace
  | adopt plan baselineVersion faults =>
      exact (faultless_adoptExistingSchema plan baselineVersion _ _ _ h).2 place
        (Nat.zero_le _) hplace

/-- What a history has made of a database. -/
structure Migrated (engine : SchemaEngine σ) (sha256 : String → String)
    (start last : MigrationDatabase σ) (history : List Migration) (adoptions : ℕ) :
    Prop where
  rows : last.rows = start.rows ++ history.map (Migration.row sha256)
  numbered : Numbered last.rows
  once : adoptions ≤ 1
  unused : adoptions = 1 → start.rows = []
  baseline : v14BaselineVersion * adoptions ≤ history.length
  executed : last.executed =
    start.executed ++ history.drop (v14BaselineVersion * adoptions)
  schema : executeAll engine (history.drop (v14BaselineVersion * adoptions)) start.schema =
    some last.schema

theorem executeAll_append (first second : List Migration) (schema : σ) :
    executeAll engine (first ++ second) schema =
      (executeAll engine first schema).bind (executeAll engine second) := by
  unfold executeAll
  rw [List.foldlM_append]
  rfl

section Histories

variable {next last : MigrationDatabase σ} {plan : MigrationPlan}
  {history : List Migration} {count : ℕ}

/-- A plan that has been applied, in front of a history. -/
theorem Migrated.apply (h : Migrated engine sha256 next last history count)
    (happlies : Applies engine sha256 plan database next report) :
    Migrated engine sha256 database last
      (plan.migrations.drop database.rows.length ++ history) count := by
  have hnext : next.rows = database.rows ++
      (plan.migrations.drop database.rows.length).map (Migration.row sha256) := by
    rw [MigrationDatabase.rows, happlies.ledger, Option.getD_some]
    nth_rewrite 1 [happlies.recorded]
    rw [MigrationPlan.rows, ← List.map_take, ← List.map_append, List.take_append_drop]
  -- a later adoption finds an empty ledger, so nothing was recorded before it
  have hdrop : (plan.migrations.drop database.rows.length ++ history).drop
        (v14BaselineVersion * count) =
      plan.migrations.drop database.rows.length ++
        history.drop (v14BaselineVersion * count) := by
    rcases Nat.eq_zero_or_pos count with hzero | hpositive
    · simp [hzero]
    · have hempty := h.unused (Nat.le_antisymm h.once hpositive)
      rw [hnext, List.append_eq_nil_iff, List.map_eq_nil_iff] at hempty
      rw [hempty.2, List.nil_append, List.nil_append]
  constructor
  · rw [h.rows, hnext, List.map_append, List.append_assoc]
  · exact h.numbered
  · exact h.once
  · intro hone
    have hempty := h.unused hone
    rw [hnext, List.append_eq_nil_iff] at hempty
    exact hempty.1
  · rw [List.length_append]
    exact Nat.le_add_left_of_le h.baseline
  · rw [h.executed, happlies.executed, hdrop, List.append_assoc]
  · rw [hdrop, executeAll_append, happlies.schema]
    exact h.schema

/-- An adoption in front of a history. -/
theorem Migrated.adopt (h : Migrated engine sha256 next last history count)
    (hadopts : Adopts sha256 plan database next report) :
    Migrated engine sha256 database last
      (plan.migrations.take v14BaselineVersion ++ history) (1 + count) := by
  have hnext : next.rows =
      (plan.migrations.take v14BaselineVersion).map (Migration.row sha256) := by
    rw [MigrationDatabase.rows, hadopts.ledger, Option.getD_some, MigrationPlan.rows,
      List.map_take]
  have hlength : (plan.migrations.take v14BaselineVersion).length = v14BaselineVersion := by
    rw [List.length_take, Nat.min_eq_left hadopts.baseline]
  have hcount : count = 0 := by
    rcases Nat.eq_zero_or_pos count with hzero | hpositive
    · exact hzero
    · have hempty := h.unused (Nat.le_antisymm h.once hpositive)
      rw [hnext, List.map_eq_nil_iff] at hempty
      rw [hempty] at hlength
      cases hlength
  subst hcount
  have hdrop : (plan.migrations.take v14BaselineVersion ++ history).drop
      (v14BaselineVersion * (1 + 0)) = history := by
    rw [List.drop_append_of_le_length (by rw [hlength]; exact Nat.le_refl _)]
    rw [List.drop_of_length_le (by rw [hlength]; exact Nat.le_refl _), List.nil_append]
  constructor
  · rw [h.rows, hnext, hadopts.unused, List.map_append, List.nil_append]
  · exact h.numbered
  · exact Nat.le_refl _
  · exact fun _ => hadopts.unused
  · rw [List.length_append, hlength]
    exact Nat.le_add_right _ _
  · rw [h.executed, hadopts.executed, hdrop]
    rfl
  · rw [hdrop, ← hadopts.schema]
    exact h.schema

end Histories

theorem migrated (hnumbered : Numbered database.rows) (calls : List MigrationCall) :
    Migrated engine sha256 database (reached engine sha256 database calls)
      (recorded engine sha256 database calls) (adoptions engine sha256 database calls) := by
  induction calls generalizing database with
  | nil =>
      constructor
      · simp [reached, recorded]
      · exact hnumbered
      · exact Nat.zero_le _
      · simp [adoptions]
      · simp [adoptions]
      · simp [reached, recorded]
      · simp [reached, recorded, executeAll]
  | cons call rest ih =>
      rcases hrun : call.run engine sha256 database with ⟨outcome, next⟩
      have hnext : call.after engine sha256 database = next := by
        rw [MigrationCall.after, hrun]
      rw [reached, List.foldl_cons, recorded, adoptions, hnext]
      cases outcome with
      | error error =>
          obtain ⟨_, rfl⟩ := Prod.mk.inj (hrun.symm.trans (run_error (by rw [hrun])))
          have hfails : call.succeeds engine sha256 next = false := by
            rw [succeeds, hrun]
            rfl
          rw [hfails, Bool.and_false, if_neg Bool.false_ne_true, if_neg Bool.false_ne_true,
            List.nil_append, Nat.zero_add]
          exact ih hnumbered
      | ok report =>
          have hsucceeds : call.succeeds engine sha256 database = true := by
            rw [succeeds, hrun]
            rfl
          rw [hsucceeds, Bool.and_true, if_pos rfl]
          cases call with
          | apply plan faults =>
              have happlies := run_apply hnumbered hrun
              rw [adopts, if_neg Bool.false_ne_true, Nat.zero_add]
              apply (ih _).apply happlies
              rw [MigrationDatabase.rows, happlies.ledger, Option.getD_some]
              exact numbered_rows plan
          | adopt plan baselineVersion faults =>
              have hadopts := run_adopt hrun
              rw [adopts, if_pos rfl]
              apply (ih _).adopt hadopts
              rw [MigrationDatabase.rows, hadopts.ledger, Option.getD_some]
              exact (numbered_rows plan).take _

/-- From a ledger that is absent or empty, after any history of calls: what is
recorded is numbered in order, and all of it but an adopted baseline has been
executed, once and in this order; a successful `apply` leaves the ledger of its
plan and executes the rest of it only; an adoption succeeds only while nothing is
recorded, and executes nothing; a call that raises changes nothing, and a call
raises when one of its statements fails, or when what is recorded is not in its
plan as it was. -/
theorem applied_once (engine : SchemaEngine σ) (sha256 : String → String)
    (start : MigrationDatabase σ) (calls : List MigrationCall) (call : MigrationCall)
    (hstart : start.rows = []) (hexecuted : start.executed = [])
    (hsha256 : ∀ migration ∈ recorded engine sha256 start calls,
      ∀ other ∈ call.plan.migrations,
        sha256 migration.sql = sha256 other.sql → migration.sql = other.sql) :
    (adoptions engine sha256 start calls ≤ 1 ∧
      v14BaselineVersion * adoptions engine sha256 start calls ≤
        (recorded engine sha256 start calls).length ∧
      (reached engine sha256 start calls).rows =
        (recorded engine sha256 start calls).map (Migration.row sha256) ∧
      (recorded engine sha256 start calls).map Migration.version =
        List.range' 1 (recorded engine sha256 start calls).length ∧
      (reached engine sha256 start calls).executed =
        (recorded engine sha256 start calls).drop
          (v14BaselineVersion * adoptions engine sha256 start calls) ∧
      executeAll engine (reached engine sha256 start calls).executed start.schema =
        some (reached engine sha256 start calls).schema) ∧
    (∀ plan faults report after, call = .apply plan faults →
      call.run engine sha256 (reached engine sha256 start calls) = (.ok report, after) →
      after.ledger = some (plan.rows sha256) ∧
      after.executed = (reached engine sha256 start calls).executed ++
        plan.migrations.drop (recorded engine sha256 start calls).length ∧
      report = ⟨(plan.migrations.drop
        (recorded engine sha256 start calls).length).map Migration.version,
        plan.migrations.length⟩) ∧
    (∀ plan baselineVersion faults report after, call = .adopt plan baselineVersion faults →
      call.run engine sha256 (reached engine sha256 start calls) = (.ok report, after) →
      recorded engine sha256 start calls = [] ∧
      after.ledger = some ((plan.rows sha256).take v14BaselineVersion) ∧
      (plan.rows sha256).length ≥ v14BaselineVersion ∧
      after.executed = [] ∧ after.schema = start.schema) ∧
    (∀ error, (call.run engine sha256 (reached engine sha256 start calls)).1 =
        .error error →
      (call.run engine sha256 (reached engine sha256 start calls)).2 =
        reached engine sha256 start calls) ∧
    (∀ report session place,
      call.script engine sha256 ⟨reached engine sha256 start calls, 0⟩ =
        .ok (report, session) →
      place < session.statements → call.failsAt place = false) ∧
    ∀ migration ∈ recorded engine sha256 start calls,
      (∀ other ∈ call.plan.migrations, other.version = migration.version →
        other.name ≠ migration.name ∨ other.sql ≠ migration.sql) →
      ∃ error, (call.run engine sha256 (reached engine sha256 start calls)).1 =
        .error error := by
  have hnumbered : Numbered start.rows := by
    rw [hstart]
    rfl
  have h : Migrated engine sha256 start (reached engine sha256 start calls)
      (recorded engine sha256 start calls) (adoptions engine sha256 start calls) :=
    migrated hnumbered calls
  have hrows : (reached engine sha256 start calls).rows =
      (recorded engine sha256 start calls).map (Migration.row sha256) := by
    rw [h.rows, hstart, List.nil_append]
  have hlength : (reached engine sha256 start calls).rows.length =
      (recorded engine sha256 start calls).length := by
    rw [hrows, List.length_map]
  have hran : (reached engine sha256 start calls).executed =
      (recorded engine sha256 start calls).drop
        (v14BaselineVersion * adoptions engine sha256 start calls) := by
    rw [h.executed, hexecuted, List.nil_append]
  refine ⟨⟨h.once, h.baseline, hrows, ?_, hran, ?_⟩, ?_, ?_, ?_, ?_, ?_⟩
  · have hversions := h.numbered
    rw [Numbered, hlength, hrows, List.map_map] at hversions
    exact hversions
  · rw [hran]
    exact h.schema
  · rintro plan faults report after rfl hrun
    have happlies := run_apply h.numbered hrun
    rw [← hlength]
    refine ⟨happlies.ledger, happlies.executed, ?_⟩
    rw [← happlies.applied, ← happlies.currentVersion]
  · rintro plan baselineVersion faults report after rfl hrun
    have hadopts := run_adopt hrun
    have hempty : recorded engine sha256 start calls = [] := by
      have hunused := hadopts.unused
      rwa [hrows, List.map_eq_nil_iff] at hunused
    have hnone : (reached engine sha256 start calls).executed = [] := by
      rw [hran, hempty, List.drop_nil]
    refine ⟨hempty, hadopts.ledger, ?_, hadopts.executed.trans hnone, ?_⟩
    · rw [MigrationPlan.rows, List.length_map]
      exact hadopts.baseline
    · have hschema := h.schema
      rw [hempty, List.drop_nil] at hschema
      rw [hadopts.schema]
      exact (Option.some.inj hschema).symm
  · intro error herror
    rw [run_error herror]
  · intro report session place hscript hplace
    exact failsAt_of_script hscript hplace
  · intro migration hmem hchanged
    cases hrun : call.run engine sha256 (reached engine sha256 start calls) with
    | mk outcome after =>
        cases outcome with
        | error error => exact ⟨error, rfl⟩
        | ok report =>
            exfalso
            have hrow : migration.row sha256 ∈ (reached engine sha256 start calls).rows := by
              rw [hrows]
              exact List.mem_map_of_mem hmem
            cases call with
            | apply plan faults =>
                rw [(run_apply h.numbered hrun).recorded] at hrow
                obtain ⟨other, hother, heq⟩ := List.mem_map.mp (List.mem_of_mem_take hrow)
                simp only [Migration.row, LedgerRow.mk.injEq] at heq
                obtain ⟨hversion, hname, hchecksum⟩ := heq
                rcases hchanged other hother hversion with hdiffers | hdiffers
                · exact hdiffers hname
                · exact hdiffers (hsha256 migration hmem other hother hchecksum.symm).symm
            | adopt plan baselineVersion faults =>
                rw [(run_adopt hrun).unused] at hrow
                cases hrow

section Sample

/-- A server that keeps the texts it has executed. -/
def sampleEngine : SchemaEngine (List String) where
  execute sql schema := some (schema ++ [sql])
  currentSchema _ := some "public"
  columns _ := []

def sampleMigrations : List Migration := [
  ⟨1, "foundation", "create table identity ()", by decide⟩,
  ⟨2, "discovery", "create table search_candidate ()", by decide⟩]

def samplePlan : MigrationPlan := ⟨sampleMigrations.take 1, MigrationPlan.check_eq_ok.mpr rfl⟩

def sampleExtended : MigrationPlan := ⟨sampleMigrations, MigrationPlan.check_eq_ok.mpr rfl⟩

def sampleStart : MigrationDatabase (List String) := ⟨[], none, []⟩

/-- An extended plan executes its new migration only. -/
theorem applied_once_extended : ∃ report after,
    (MigrationCall.apply sampleExtended fun _ => false).run sampleEngine id
      (reached sampleEngine id sampleStart [.apply samplePlan fun _ => false]) =
        (.ok report, after) ∧
    after.ledger = some (sampleExtended.rows id) ∧ report = ⟨[2], 2⟩ := by
  have hlaw := applied_once sampleEngine id sampleStart [.apply samplePlan fun _ => false]
    (.apply sampleExtended fun _ => false) rfl rfl (fun _ _ _ _ hsame => hsame)
  have hsucceeds : (MigrationCall.apply sampleExtended fun _ => false).succeeds sampleEngine
      id (reached sampleEngine id sampleStart [.apply samplePlan fun _ => false]) = true := by
    decide +kernel
  cases hrun : (MigrationCall.apply sampleExtended fun _ => false).run sampleEngine id
      (reached sampleEngine id sampleStart [.apply samplePlan fun _ => false]) with
  | mk outcome after =>
      cases outcome with
      | error error =>
          rw [succeeds, hrun] at hsucceeds
          cases hsucceeds
      | ok report =>
          obtain ⟨hledger, _, hreport⟩ := hlaw.2.1 _ _ report after rfl hrun
          refine ⟨report, after, rfl, hledger, hreport.trans ?_⟩
          decide +kernel

end Sample

end MigrationCall

end ShemaPlatform
