/-
Reading the tables of the background workers, and what an accepted append to
the outbox or to the audit log writes.
-/
import ShemaPlatform.WorkTables

namespace ShemaPlatform

open Calendar ReadCommitted ReadCommitted.Prog

abbrev WorkRows := Rows WorkRow

def jobAt (rows : WorkRows) (jobId : String) : Option JobRow :=
  rows.get (WorkKey.jobExecution jobId)

def eventAt (rows : WorkRows) (eventId : String) : Option OutboxRow :=
  rows.get (WorkKey.outboxEvent eventId)

/-- The event a key of `outbox_event` names. -/
def WorkKey.eventId? : WorkKey → Option String
  | .outboxEvent eventId => some eventId
  | _ => none

section Reading

variable {rows : WorkRows}

@[simp] theorem jobAt_job (jobId other : String) (row : Option JobRow) :
    jobAt (⟨WorkKey.jobExecution jobId, row⟩ :: rows) other =
      if jobId = other then row else jobAt rows other := by
  by_cases hsame : jobId = other
  · subst hsame
    simp [jobAt]
  · simp [jobAt, hsame]

@[simp] theorem jobAt_event (eventId jobId : String) (row : Option OutboxRow) :
    jobAt (⟨WorkKey.outboxEvent eventId, row⟩ :: rows) jobId = jobAt rows jobId := by
  simp [jobAt]

@[simp] theorem jobAt_audit (auditId jobId : String) (row : Option AuditRecord) :
    jobAt (⟨WorkKey.auditLog auditId, row⟩ :: rows) jobId = jobAt rows jobId := by
  simp [jobAt]

@[simp] theorem jobAt_key (idempotencyKey jobId : String) (row : Option String) :
    jobAt (⟨WorkKey.jobIdempotencyKey idempotencyKey, row⟩ :: rows) jobId =
      jobAt rows jobId := by
  simp [jobAt]

@[simp] theorem eventAt_event (eventId other : String) (row : Option OutboxRow) :
    eventAt (⟨WorkKey.outboxEvent eventId, row⟩ :: rows) other =
      if eventId = other then row else eventAt rows other := by
  by_cases hsame : eventId = other
  · subst hsame
    simp [eventAt]
  · simp [eventAt, hsame]

@[simp] theorem eventAt_job (jobId eventId : String) (row : Option JobRow) :
    eventAt (⟨WorkKey.jobExecution jobId, row⟩ :: rows) eventId =
      eventAt rows eventId := by
  simp [eventAt]

@[simp] theorem eventAt_audit (auditId eventId : String)
    (row : Option AuditRecord) :
    eventAt (⟨WorkKey.auditLog auditId, row⟩ :: rows) eventId =
      eventAt rows eventId := by
  simp [eventAt]

end Reading

section Appends

variable {locked : LockedRows} {rows own own' : WorkRows}

theorem AuditRepository.append_eq_ok {record : AuditRecord} {result : Unit}
    (h : (append record).execute locked rows own = .ok (result, own')) :
    own' = ⟨WorkKey.auditLog record.auditId, some record⟩ :: own := by
  simp only [append, execute_bind_eq_ok, execute_lift_eq_ok,
    execute_insert_eq_ok] at h
  obtain ⟨accepted, _, ⟨hnew, rfl⟩, _, rfl⟩ := h
  rw [AuditRecord.new_eq_ok hnew]

/-- An accepted append leaves the event on record, added now or before. -/
theorem OutboxRepository.append_eq_ok {event : OutboxEvent} {row : OutboxRow}
    (h : (append event).execute locked rows own = .ok (row, own')) :
    row.event = event ∧
      ((eventAt (own ++ rows) event.eventId = none ∧ row = ⟨event, none, 0, none⟩ ∧
          own' = ⟨WorkKey.outboxEvent event.eventId, some row⟩ :: own) ∨
        (eventAt (own ++ rows) event.eventId = some row ∧ own' = own)) := by
  simp only [append, execute_bind_eq_ok, execute_insertNew] at h
  obtain ⟨inserted, between, hinsert, h⟩ := h
  cases hseen : Rows.get (own ++ rows) (WorkKey.outboxEvent event.eventId) with
  | none =>
      simp only [hseen, Option.isNone_none, ↓reduceIte, Except.ok.injEq,
        Prod.mk.injEq] at hinsert
      obtain ⟨rfl, rfl⟩ := hinsert
      simp only [↓reduceIte, execute_pure_eq_ok] at h
      obtain ⟨rfl, rfl⟩ := h
      exact ⟨rfl, Or.inl ⟨hseen, rfl, rfl⟩⟩
  | some existing =>
      simp only [hseen, Option.isNone_some, Bool.false_eq_true, ↓reduceIte,
        Except.ok.injEq, Prod.mk.injEq] at hinsert
      obtain ⟨rfl, rfl⟩ := hinsert
      simp only [Bool.false_eq_true, ↓reduceIte, execute_bind_eq_ok, get,
        execute_select, hseen, Except.ok.injEq, Prod.mk.injEq] at h
      obtain ⟨_, _, ⟨rfl, rfl⟩, h⟩ := h
      simp only [execute_bind_eq_ok, execute_lift_eq_ok, require_eq_ok,
        execute_pure_eq_ok] at h
      obtain ⟨_, _, ⟨hsame, rfl⟩, rfl, rfl⟩ := h
      exact ⟨beq_iff_eq.mp hsame, Or.inr ⟨hseen, rfl⟩⟩

end Appends

end ShemaPlatform
