/-
One event whose publication always raises, in front of either dispatcher.
-/
import ShemaPlatform.IntakeStarvation
import ShemaPlatform.OutboxStarvation

namespace ShemaPlatform

open Calendar ReadCommitted

/-- The other pending events all get published. -/
def OutboxDispatcher.PublishesOthers (uuid5 : String → String)
    (safeErrorDetail : Failure → String) (publish : OutboxEvent → Except Failure Unit)
    (dispatcher : OutboxDispatcher) (calls : ℕ → dispatcher.Call) (failing : String)
    (rows : WorkRows) : Prop :=
  ∃ n, ∀ eventId, OutboxDispatcher.Pending rows eventId → eventId ≠ failing →
    EventPublished (rowsAfter uuid5 safeErrorDetail publish dispatcher calls rows n) eventId

/-- Each other pending event is in front of the failing one, or is due at some
call at which the failing one is not. -/
def OutboxDispatcher.Passable {dispatcher : OutboxDispatcher} (calls : ℕ → dispatcher.Call)
    (failing : String) (rows : WorkRows) : Prop :=
  ∀ eventId, OutboxDispatcher.Pending rows eventId → eventId ≠ failing →
    OutboxDispatcher.Precedes rows eventId failing ∨
      ∃ n, EventDue rows eventId (calls n).now ∧ ¬ EventDue rows failing (calls n).now

/-- The other pending events all get published. -/
def PublicIntakeOutboxDispatcher.PublishesOthers
    (project : PublicIntakeRecord → Except Failure Unit)
    (dispatcher : PublicIntakeOutboxDispatcher) (calls : ℕ → dispatcher.Call)
    (failing : String) (rows : IntakeRows) : Prop :=
  ∃ n, ∀ eventId, PublicIntakeOutboxDispatcher.Pending rows eventId → eventId ≠ failing →
    IntakePublished (rowsAfter project dispatcher calls rows n) eventId

/-- Each other pending event is in front of the failing one, or is due at some
call at which the failing one is not. -/
def PublicIntakeOutboxDispatcher.Passable {dispatcher : PublicIntakeOutboxDispatcher}
    (calls : ℕ → dispatcher.Call) (failing : String) (rows : IntakeRows) : Prop :=
  ∀ eventId, PublicIntakeOutboxDispatcher.Pending rows eventId → eventId ≠ failing →
    PublicIntakeRepository.Precedes rows eventId failing ∨
      ∃ n, IntakeDue rows eventId (calls n).now ∧ ¬ IntakeDue rows failing (calls n).now

namespace Starvation

/-- With one event that always fails, either dispatcher publishes all the others
exactly when none of them is stuck behind it. -/
theorem others_published_iff {uuid5 : String → String} {safeErrorDetail : Failure → String}
    {publish : OutboxEvent → Except Failure Unit} {dispatcher : OutboxDispatcher}
    {calls : ℕ → dispatcher.Call} {failing : String} {rows : WorkRows}
    {project : PublicIntakeRecord → Except Failure Unit}
    {intakeDispatcher : PublicIntakeOutboxDispatcher}
    {intakeCalls : ℕ → intakeDispatcher.Call} {intakeFailing : String}
    {intakeRows : IntakeRows}
    (huuid5 : Function.Injective uuid5)
    (hnamed : ∀ text, PyText.blank (uuid5 text) = false)
    (hpoisoned : Poisoned uuid5 publish failing rows)
    (hpending : OutboxDispatcher.Pending rows failing)
    (hspaced : OutboxDispatcher.Spaced dispatcher calls rows)
    (hintakePoisoned : IntakePoisoned project intakeFailing intakeRows)
    (hintakePending : PublicIntakeOutboxDispatcher.Pending intakeRows intakeFailing)
    (hintakeSpaced :
      PublicIntakeOutboxDispatcher.Spaced intakeDispatcher intakeCalls intakeRows) :
    (dispatcher.PublishesOthers uuid5 safeErrorDetail publish calls failing rows ↔
        OutboxDispatcher.Passable calls failing rows) ∧
      (intakeDispatcher.PublishesOthers project intakeCalls intakeFailing intakeRows ↔
        PublicIntakeOutboxDispatcher.Passable intakeCalls intakeFailing intakeRows) := by
  constructor
  · exact OutboxDispatcher.all_published_iff huuid5 hnamed hpoisoned hpending hspaced
  · exact PublicIntakeOutboxDispatcher.all_published_iff hintakePoisoned hintakePending
      hintakeSpaced

def firstId : String := "00000000-0000-0000-0000-000000000001"

def secondId : String := "00000000-0000-0000-0000-000000000002"

/-- Ids of audit records, of which two are written out. -/
def sampleUuid5 (text : String) : String :=
  if text = s!"audit:outbox.published:{firstId}" then "4eafc20f-5766-5750-8dd0-9fe9dbddcd67"
  else if text = s!"audit:outbox.published:{secondId}" then
    "67be88a6-6e61-53b5-aeb1-52052b68dfc9"
  else "id:" ++ text

theorem sampleUuid5_injective : Function.Injective sampleUuid5 := by
  have hother : ∀ text (known : String), known.toList[0]? ≠ some 'i' →
      "id:" ++ text ≠ known := by
    intro text known hknown hsame
    apply hknown
    rw [← hsame, String.toList_append]
    rfl
  intro text text' h
  simp only [sampleUuid5] at h
  split at h
  · rename_i htext
    split at h
    · rename_i htext'
      rw [htext, htext']
    · split at h
      · exact absurd h (by decide)
      · exact absurd h.symm (hother _ _ (by decide))
  · split at h
    · rename_i htext
      split at h
      · exact absurd h (by decide)
      · split at h
        · rename_i htext'
          rw [htext, htext']
        · exact absurd h.symm (hother _ _ (by decide))
    · split at h
      · exact absurd h (hother _ _ (by decide))
      · split at h
        · exact absurd h (hother _ _ (by decide))
        · have hchars := congrArg String.toList h
          rw [String.toList_append, String.toList_append] at hchars
          exact String.toList_inj.mp (List.append_cancel_left hchars)

theorem sampleUuid5_nonblank (text : String) :
    PyText.blank (sampleUuid5 text) = false := by
  simp only [sampleUuid5]
  split
  · decide
  · split
    · decide
    · rw [PyText.blank, String.toList_append, List.all_append]
      rfl

def sampleEvent (eventId : String) (occurredAt : Instant) : OutboxRow where
  event :=
    { eventId
      eventType := "order.created"
      aggregateType := "order"
      aggregateId := "order-1"
      payload := []
      occurredAt }
  publishedAt := none
  deliveryAttempt := 0
  delivery := none

/-- Two pending events. -/
def sampleRows : WorkRows :=
  [⟨WorkKey.outboxEvent firstId, some (sampleEvent firstId 0)⟩,
    ⟨WorkKey.outboxEvent secondId, some (sampleEvent secondId 1)⟩]

def samplePublish (failing : String) (event : OutboxEvent) : Except Failure Unit :=
  if event.eventId = failing then .error (.runtimeError "unreachable") else .ok ()

def sampleDispatcher : OutboxDispatcher :=
  ⟨"outbox-worker-1", 60, by decide⟩

/-- A call each 61 seconds. -/
def sampleCalls (n : ℕ) : sampleDispatcher.Call where
  now := seconds (61 * n + 1)
  limit := 2
  clock _ := seconds (61 * n + 2)
  timely _ := by
    change (61 * n + 2) * 1000000 < (61 * n + 1) * 1000000 + (60 : ℤ) * 1000000
    omega

theorem eventAt_sampleRows {eventId : String} {row : OutboxRow}
    (h : eventAt sampleRows eventId = some row) :
    eventId = firstId ∧ row = sampleEvent firstId 0 ∨
      eventId = secondId ∧ row = sampleEvent secondId 1 := by
  rw [sampleRows, eventAt_event, eventAt_event] at h
  split at h
  · rename_i hfirst
    exact Or.inl ⟨hfirst.symm, (Option.some.inj h).symm⟩
  · split at h
    · rename_i hsecond
      exact Or.inr ⟨hsecond.symm, (Option.some.inj h).symm⟩
    · cases h

theorem sample_poisoned (failing : String) :
    Poisoned sampleUuid5 (samplePublish failing) failing sampleRows := by
  constructor
  · intro eventId row hrow
    rcases eventAt_sampleRows hrow with ⟨rfl, rfl⟩ | ⟨rfl, rfl⟩
    · rfl
    · rfl
  · intro eventId row _ _
    rw [sampleRows, Rows.get_cons_ne (by simp), Rows.get_cons_ne (by simp)]
    rfl
  · intro row hrow _
    refine ⟨_, if_pos ?_⟩
    rcases eventAt_sampleRows hrow with ⟨rfl, rfl⟩ | ⟨rfl, rfl⟩
    · rfl
    · rfl
  · intro eventId row hrow _ hne
    apply if_neg
    rcases eventAt_sampleRows hrow with ⟨rfl, rfl⟩ | ⟨rfl, rfl⟩
    · exact hne
    · exact hne

theorem sample_spaced : OutboxDispatcher.Spaced sampleDispatcher sampleCalls sampleRows := by
  constructor
  · intro n
    change (61 * n + 1) * 1000000 + (60 : ℤ) * 1000000 < (61 * (n + 1 : ℕ) + 1) * 1000000
    omega
  · intro n
    change OutboxDispatcher.pendingCount sampleRows ≤ 2
    decide +kernel

def sampleIntakeEvent (eventId : String) (occurredAt : Instant) : IntakeOutboxRow where
  event :=
    { eventId
      requestId := s!"request-{eventId}"
      eventType := "new_client_request"
      payload := []
      occurredAt
      notifyOperator := true }
  publishedAt := none
  deliveryAttempt := 0
  delivery := none

def sampleRequest (eventId : String) : IntakeRequestRow where
  correlationId := "correlation-1"
  idempotencyKey := s!"key-{eventId}"
  requestHash := "hash-1"
  status := .accepted
  payload :=
    { serviceType := "transport"
      location := "Kazan"
      preferredDateOrPeriod := "June"
      workOrCargoDescription := "furniture"
      contactName := "Anna"
      contactChannel := "+70000000000" }
  preflightSnapshotId := "snapshot-1"
  createdAt := 0
  projectedAt := none

def sampleSnapshot : IntakeSnapshotRow where
  cacheKey := none
  snapshot :=
    { snapshotId := "snapshot-1"
      identifierType := none
      normalizedIdentifier := none
      decision := .unknown
      identityMatch := .notChecked
      canonicalName := none
      legalStatus := none
      sourceRef := none
      providerId := none
      observedAt := 0
      expiresAt := 900000000 }

/-- Two pending events with their requests. -/
def sampleIntakeRows : IntakeRows :=
  [⟨IntakeKey.outboxEvent firstId, some (sampleIntakeEvent firstId 0)⟩,
    ⟨IntakeKey.outboxEvent secondId, some (sampleIntakeEvent secondId 1)⟩,
    ⟨IntakeKey.request s!"request-{firstId}", some (sampleRequest firstId)⟩,
    ⟨IntakeKey.requestKey s!"key-{firstId}", some s!"request-{firstId}"⟩,
    ⟨IntakeKey.request s!"request-{secondId}", some (sampleRequest secondId)⟩,
    ⟨IntakeKey.requestKey s!"key-{secondId}", some s!"request-{secondId}"⟩,
    ⟨IntakeKey.preflightSnapshot "snapshot-1", some sampleSnapshot⟩]

def sampleProject (failing : String) (record : PublicIntakeRecord) : Except Failure Unit :=
  if record.requestId = s!"request-{failing}" then .error (.runtimeError "unreachable")
  else .ok ()

def sampleIntakeDispatcher : PublicIntakeOutboxDispatcher :=
  ⟨"intake-worker-1", 60, by decide⟩

def sampleIntakeCalls (n : ℕ) : sampleIntakeDispatcher.Call where
  now := seconds (61 * n + 1)
  limit := 2
  projectedAt _ := seconds (61 * n + 2)
  clock _ := seconds (61 * n + 2)
  timely _ := by
    change (61 * n + 2) * 1000000 < (61 * n + 1) * 1000000 + (60 : ℤ) * 1000000
    omega

theorem intakeEventAt_sampleIntakeRows {eventId : String} {row : IntakeOutboxRow}
    (h : intakeEventAt sampleIntakeRows eventId = some row) :
    eventId = firstId ∧ row = sampleIntakeEvent firstId 0 ∨
      eventId = secondId ∧ row = sampleIntakeEvent secondId 1 := by
  rw [intakeEventAt, sampleIntakeRows] at h
  by_cases hfirst : firstId = eventId
  · subst hfirst
    rw [Rows.get_cons_self] at h
    exact Or.inl ⟨rfl, (Option.some.inj h).symm⟩
  · rw [Rows.get_cons_ne (by simpa using hfirst)] at h
    by_cases hsecond : secondId = eventId
    · subst hsecond
      rw [Rows.get_cons_self] at h
      exact Or.inr ⟨rfl, (Option.some.inj h).symm⟩
    · rw [Rows.get_cons_ne (by simpa using hsecond)] at h
      simp [Rows.get_cons_ne] at h

theorem sample_requestsKeyed : RequestsKeyed sampleIntakeRows := by
  intro requestId request hrequest
  rw [sampleIntakeRows, Rows.get_cons_ne (by simp), Rows.get_cons_ne (by simp)] at hrequest
  by_cases hfirst : s!"request-{firstId}" = requestId
  · subst hfirst
    rw [Rows.get_cons_self] at hrequest
    obtain rfl := Option.some.inj hrequest
    rfl
  · rw [Rows.get_cons_ne (by simpa using hfirst), Rows.get_cons_ne (by simp)] at hrequest
    by_cases hsecond : s!"request-{secondId}" = requestId
    · subst hsecond
      rw [Rows.get_cons_self] at hrequest
      obtain rfl := Option.some.inj hrequest
      rfl
    · rw [Rows.get_cons_ne (by simpa using hsecond)] at hrequest
      simp [Rows.get_cons_ne] at hrequest

theorem sample_intakePoisoned (failing : String) :
    IntakePoisoned (sampleProject failing) failing sampleIntakeRows := by
  constructor
  · exact sample_requestsKeyed
  · intro eventId row hrow
    rcases intakeEventAt_sampleIntakeRows hrow with ⟨rfl, rfl⟩ | ⟨rfl, rfl⟩
    · rfl
    · rfl
  · intro row hrow _
    rcases intakeEventAt_sampleIntakeRows hrow with ⟨rfl, rfl⟩ | ⟨rfl, rfl⟩
    · exact ⟨rfl, fun _ hrecord => ⟨_, if_pos hrecord⟩⟩
    · exact ⟨rfl, fun _ hrecord => ⟨_, if_pos hrecord⟩⟩
  · intro eventId row hrow _ hne _
    have hother : s!"request-{eventId}" ≠ s!"request-{failing}" := by
      intro hsame
      have hchars := congrArg String.toList hsame
      rw [String.toList_append, String.toList_append] at hchars
      exact hne (String.toList_inj.mp (List.append_cancel_left hchars))
    rcases intakeEventAt_sampleIntakeRows hrow with ⟨rfl, rfl⟩ | ⟨rfl, rfl⟩
    · exact ⟨⟨sampleRequest firstId, sampleSnapshot, rfl, rfl, rfl⟩,
        fun record hrecord => if_neg (hrecord.symm ▸ hother)⟩
    · exact ⟨⟨sampleRequest secondId, sampleSnapshot, rfl, rfl, rfl⟩,
        fun record hrecord => if_neg (hrecord.symm ▸ hother)⟩

theorem sample_intakeSpaced : PublicIntakeOutboxDispatcher.Spaced sampleIntakeDispatcher
    sampleIntakeCalls sampleIntakeRows := by
  constructor
  · intro n
    change (61 * n + 1) * 1000000 + (60 : ℤ) * 1000000 < (61 * (n + 1 : ℕ) + 1) * 1000000
    omega
  · intro n
    change PublicIntakeRepository.pendingCount sampleIntakeRows ≤ 2
    decide +kernel

/-- The second of two events fails, and the first one gets published. -/
theorem others_published_iff_sample :
    sampleDispatcher.PublishesOthers sampleUuid5 (fun _ => "unreachable")
        (samplePublish secondId) sampleCalls secondId sampleRows ∧
      sampleIntakeDispatcher.PublishesOthers (sampleProject secondId) sampleIntakeCalls
        secondId sampleIntakeRows := by
  have hboth := @others_published_iff sampleUuid5 (fun _ => "unreachable")
    (samplePublish secondId) sampleDispatcher sampleCalls secondId sampleRows
    (sampleProject secondId) sampleIntakeDispatcher sampleIntakeCalls secondId
    sampleIntakeRows sampleUuid5_injective sampleUuid5_nonblank (sample_poisoned secondId)
    ⟨sampleEvent secondId 1, rfl, rfl⟩ sample_spaced (sample_intakePoisoned secondId)
    ⟨sampleIntakeEvent secondId 1, rfl, rfl⟩ sample_intakeSpaced
  constructor
  · apply hboth.1.mpr
    rintro eventId ⟨row, hrow, _⟩ hne
    rcases eventAt_sampleRows hrow with ⟨rfl, rfl⟩ | ⟨rfl, rfl⟩
    · left
      exact ⟨sampleEvent firstId 0, sampleEvent secondId 1, rfl, rfl, Or.inl (by decide)⟩
    · exact absurd rfl hne
  · apply hboth.2.mpr
    rintro eventId ⟨row, hrow, _⟩ hne
    rcases intakeEventAt_sampleIntakeRows hrow with ⟨rfl, rfl⟩ | ⟨rfl, rfl⟩
    · left
      exact ⟨sampleIntakeEvent firstId 0, sampleIntakeEvent secondId 1, rfl, rfl,
        Or.inl (by decide)⟩
    · exact absurd rfl hne

/-- The first of two events fails, and the second one is never published. -/
theorem second_event_starved :
    (Poisoned sampleUuid5 (samplePublish firstId) firstId sampleRows ∧
      OutboxDispatcher.Spaced sampleDispatcher sampleCalls sampleRows ∧
      OutboxDispatcher.Pending sampleRows secondId ∧
      ¬ sampleDispatcher.PublishesOthers sampleUuid5 (fun _ => "unreachable")
        (samplePublish firstId) sampleCalls firstId sampleRows) ∧
    IntakePoisoned (sampleProject firstId) firstId sampleIntakeRows ∧
      PublicIntakeOutboxDispatcher.Spaced sampleIntakeDispatcher sampleIntakeCalls
        sampleIntakeRows ∧
      PublicIntakeOutboxDispatcher.Pending sampleIntakeRows secondId ∧
      ¬ sampleIntakeDispatcher.PublishesOthers (sampleProject firstId) sampleIntakeCalls
        firstId sampleIntakeRows := by
  have hdifferent : secondId ≠ firstId := by decide
  constructor
  · refine ⟨sample_poisoned firstId, sample_spaced, ⟨sampleEvent secondId 1, rfl, rfl⟩, ?_⟩
    intro hpublishes
    have hpassable := (OutboxDispatcher.all_published_iff sampleUuid5_injective
      sampleUuid5_nonblank (sample_poisoned firstId) ⟨sampleEvent firstId 0, rfl, rfl⟩
      sample_spaced).mp hpublishes secondId ⟨sampleEvent secondId 1, rfl, rfl⟩ hdifferent
    rcases hpassable with hprecedes | ⟨n, ⟨row, hrow, hclaimable⟩, hnot⟩
    · exact hdifferent (hprecedes.antisymm ⟨sampleEvent firstId 0, sampleEvent secondId 1,
        rfl, rfl, Or.inl (by decide)⟩)
    · obtain rfl : sampleEvent secondId 1 = row := Option.some.inj hrow
      obtain ⟨_, hoccurred, _⟩ := OutboxRepository.claimable_eq_true.mp hclaimable
      refine hnot ⟨sampleEvent firstId 0, rfl, OutboxRepository.claimable_eq_true.mpr
        ⟨rfl, le_trans (by decide) hoccurred, ?_⟩⟩
      intro lease hlease
      cases hlease
  · refine ⟨sample_intakePoisoned firstId, sample_intakeSpaced,
      ⟨sampleIntakeEvent secondId 1, rfl, rfl⟩, ?_⟩
    intro hpublishes
    have hpassable := (PublicIntakeOutboxDispatcher.all_published_iff
      (sample_intakePoisoned firstId) ⟨sampleIntakeEvent firstId 0, rfl, rfl⟩
      sample_intakeSpaced).mp hpublishes secondId ⟨sampleIntakeEvent secondId 1, rfl, rfl⟩
      hdifferent
    rcases hpassable with hprecedes | ⟨n, _, hnot⟩
    · exact hdifferent (hprecedes.antisymm ⟨sampleIntakeEvent firstId 0,
        sampleIntakeEvent secondId 1, rfl, rfl, Or.inl (by decide)⟩)
    · refine hnot ⟨sampleIntakeEvent firstId 0, rfl,
        PublicIntakeRepository.claimable_eq_true.mpr ⟨rfl, ?_⟩⟩
      intro lease hlease
      cases hlease

end Starvation

end ShemaPlatform
