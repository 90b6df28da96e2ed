/-
The runtime of the public intake as it is composed: which database its projections go
to, and in which one the operator's notifications are looked for.
-/
import ShemaPlatform.ProjectionAgreement

namespace ShemaPlatform

open Calendar ReadCommitted ReadCommitted.Prog

/-- A database: the tables that its migrations have created, and what projections have
written there. -/
structure Database where
  relations : List String
  projected : RequestProjection.Tables

/-- What `db/public_intake_migrations` creates. -/
def publicIntakeRelations : List String :=
  ["intake_request", "intake_preflight_snapshot", "intake_outbox_event", "intake_rate_limit",
    "intake_idempotency_reservation", "intake_global_circuit"]

/-- What `db/migrations` creates. -/
def platformRelations : List String :=
  ["identity", "evidence", "idempotency_key", "quarantine_record", "audit_log", "outbox_event",
    "search_candidate", "commercial_action", "order_header", "order_line", "economic_entry",
    "ai_run", "job_execution", "repeat_order_plan", "public_request_context",
    "operator_notification", "provider_activation_state", "counterparty_monitor",
    "counterparty_snapshot", "counterparty_change_event", "counterparty_favorite",
    "counterparty_monitoring_batch", "counterparty_monitoring_batch_item"]

/-- The two databases of a deployment. -/
structure Databases where
  intake : Database
  canonical : Database

/-- The driver's error for a table that is not there. -/
structure UndefinedTable where
  relation : String
deriving DecidableEq

/-- What its connection factory opens. -/
structure PostgresOperatorNotificationReader where
  connectionFactory : Databases → Database

/-- `order by created_at desc, event_id desc` -/
def OperatorNotificationRow.newestFirst (row other : OperatorNotificationRow) : Bool :=
  decide (other.createdAt < row.createdAt) ||
    row.createdAt == other.createdAt && decide (other.eventId ≤ row.eventId)

/-- `list_unread`; a notification is never marked as read. -/
def PostgresOperatorNotificationReader.listUnread (reader : PostgresOperatorNotificationReader)
    (databases : Databases) (limit : ℕ) :
    Except UndefinedTable (List OperatorNotificationRow) :=
  let connection := reader.connectionFactory databases
  if "operator_notification" ∈ connection.relations then
    .ok ((connection.projected.notifications.mergeSort
      OperatorNotificationRow.newestFirst).take limit)
  else .error ⟨"operator_notification"⟩

/-- What the constructor makes of its arguments. -/
def PublicIntakeService.new (preflight : PublicCounterpartyPreflightService)
    (submissionLimit lookupLimit : ℕ) (windowSeconds : ℤ)
    (globalSubmissionLimit maxPendingOutbox : ℕ) (enforceEdgeProof : Bool)
    (allowedOrigins : List String) : Except Failure PublicIntakeService :=
  if hlimits : submissionLimit < 1 ∨ lookupLimit < 1 ∨ globalSubmissionLimit < 1 then
    .error (.valueError "rate limits must be positive")
  else if hpending : maxPendingOutbox < 1 then
    .error (.valueError "max_pending_outbox must be positive")
  else if hwindow : windowSeconds < 1 then
    .error (.valueError "window_seconds must be positive")
  else
    .ok {
      preflight
      submissionLimit
      lookupLimit
      windowSeconds
      globalSubmissionLimit
      maxPendingOutbox
      enforceEdgeProof
      allowedOrigins
      valid := by omega }

structure PublicIntakeRuntimeAssembly where
  service : PublicIntakeService
  projector : Databases → Database
  notificationReader : PostgresOperatorNotificationReader

theorem composed_ttl : (1 : ℤ) ≤ 300 ∧ (300 : ℤ) ≤ 900 := by
  decide

/-- The preflight as it is composed, with the defaults of its cache. -/
def composedPreflight (counterpartyProvider : Option LookupProvider) :
    PublicCounterpartyPreflightService where
  provider := counterpartyProvider
  cacheTtlSeconds := 300
  operatorReuseSeconds := 900
  valid := composed_ttl

/-- `compose_public_intake_runtime` -/
def composePublicIntakeRuntime
    (intakeConnectionFactory shemaUnitOfWorkFactory : Databases → Database)
    (counterpartyProvider : Option LookupProvider) (allowedOrigins : List String)
    (botChallengeVerifier : Bool) (submissionLimit lookupLimit : ℕ) (windowSeconds : ℤ) :
    Except Failure PublicIntakeRuntimeAssembly := do
  require (!allowedOrigins.isEmpty)
    (.valueError "public intake requires a non-empty origin allowlist")
  require botChallengeVerifier
    (.valueError "public intake requires a server-side bot challenge verifier")
  let service ← PublicIntakeService.new (composedPreflight counterpartyProvider)
    submissionLimit lookupLimit windowSeconds 100 1000 true allowedOrigins
  return {
    service
    projector := shemaUnitOfWorkFactory
    notificationReader := ⟨intakeConnectionFactory⟩ }

namespace IntakeRuntime

open PublicIntakeService RequestProjection

/-- The databases of a run: projections have filled the tables of the canonical one. -/
def databases (tables : Tables) : Databases where
  intake := ⟨publicIntakeRelations, ⟨[], []⟩⟩
  canonical := ⟨platformRelations, tables⟩

/-- The notification that an accepted request is worth in any case. -/
def announces (requestId : String) (row : OperatorNotificationRow) : Bool :=
  row.requestId == requestId && row.eventType == "new_client_request"

/-- A call has returned this request as projected. -/
def Reported {ι : Type} (state : ι → Session) (requestId : String) : Prop :=
  ∃ client call result, state client = .submit call (.returned result) ∧
    result.record.requestId = requestId ∧ result.record.status = .accepted ∧
      result.projectionStatus = "PROJECTED"

/-- An event of this accepted request is published. -/
def Published (rows : IntakeRows) (requestId : String) : Prop :=
  ∃ row : IntakeRequestRow, rows.get (IntakeKey.request requestId) = some row ∧
    row.status = .accepted ∧ ∃ eventId event, intakeEventAt rows eventId = some event ∧
      event.event.requestId = requestId ∧ event.publishedAt ≠ none

/-- The reader returns the one notification of this request, if it is asked for all that
there are. -/
def Sees (reader : PostgresOperatorNotificationReader) (tables : Tables)
    (requestId : String) : Prop :=
  ∀ limit, tables.notifications.length ≤ limit →
    ∃ notices, reader.listUnread (databases tables) limit = .ok notices ∧
      (notices.filter (announces requestId)).length = 1

/-- The operator sees every accepted request that was reported as projected or has an
event published, and none that is quarantined. -/
structure OperatorsSee {ι : Type} (reader : PostgresOperatorNotificationReader)
    (tables : Tables) (state : ι → Session) (rows : IntakeRows) : Prop where
  accepted : ∀ requestId, Reported state requestId ∨ Published rows requestId →
    Sees reader tables requestId
  quarantined : ∀ requestId (row : IntakeRequestRow),
    rows.get (IntakeKey.request requestId) = some row → row.status = .quarantinedSpam →
      ∀ limit notices, reader.listUnread (databases tables) limit = .ok notices →
        notices.filter (announces requestId) = []

section Composed

variable {provider : Option LookupProvider} {origins : List String} {verifier : Bool}
  {submissionLimit lookupLimit : ℕ} {windowSeconds : ℤ} {tables : Tables}
  {assembly : PublicIntakeRuntimeAssembly} {limit : ℕ} {requestId : String}

/-- The reader is handed the connections of the intake, the projector those of the
platform. -/
theorem compose_eq_ok {intakeConnectionFactory shemaUnitOfWorkFactory : Databases → Database}
    (h : composePublicIntakeRuntime intakeConnectionFactory shemaUnitOfWorkFactory provider
      origins verifier submissionLimit lookupLimit windowSeconds = .ok assembly) :
    assembly.notificationReader = ⟨intakeConnectionFactory⟩ ∧
      assembly.projector = shemaUnitOfWorkFactory := by
  simp only [composePublicIntakeRuntime, bind_eq_ok, require_eq_ok, pure_eq_ok] at h
  rcases h with ⟨_, _, _, _, service, _, rfl⟩
  exact ⟨rfl, rfl⟩

theorem listUnread_intake :
    (⟨Databases.intake⟩ : PostgresOperatorNotificationReader).listUnread (databases tables)
      limit = .error ⟨"operator_notification"⟩ := by
  rw [PostgresOperatorNotificationReader.listUnread, if_neg]
  change "operator_notification" ∉ publicIntakeRelations
  decide

theorem listUnread_canonical :
    (⟨Databases.canonical⟩ : PostgresOperatorNotificationReader).listUnread (databases tables)
      limit = .ok ((tables.notifications.mergeSort
        OperatorNotificationRow.newestFirst).take limit) := by
  rw [PostgresOperatorNotificationReader.listUnread, if_pos]
  · rfl
  · change "operator_notification" ∈ platformRelations
    decide

/-- No notification is seen in the intake database. -/
theorem not_sees_intake : ¬ Sees ⟨Databases.intake⟩ tables requestId := by
  intro h
  rcases h tables.notifications.length (le_refl _) with ⟨notices, hread, _⟩
  rw [listUnread_intake] at hread
  cases hread

theorem sees_canonical_iff : Sees ⟨Databases.canonical⟩ tables requestId ↔
    (tables.notified requestId "new_client_request").length = 1 := by
  have hread : ∀ limit, tables.notifications.length ≤ limit →
      (((tables.notifications.mergeSort OperatorNotificationRow.newestFirst).take
        limit).filter (announces requestId)).length =
          (tables.notified requestId "new_client_request").length := by
    intro limit hlimit
    have hperm := List.mergeSort_perm tables.notifications OperatorNotificationRow.newestFirst
    rw [List.take_of_length_le (hperm.length_eq.trans_le hlimit)]
    exact (hperm.filter (announces requestId)).length_eq
  constructor
  · intro h
    rcases h tables.notifications.length (le_refl _) with ⟨notices, hsome, hone⟩
    rw [listUnread_canonical, Except.ok.injEq] at hsome
    rw [← hread _ (le_refl _), hsome]
    exact hone
  · intro hone limit hlimit
    use (tables.notifications.mergeSort OperatorNotificationRow.newestFirst).take limit
    constructor
    · exact listUnread_canonical
    · rw [hread limit hlimit]
      exact hone

/-- The operator sees the requests as claimed as long as there is none to be seen: the
reader asks the intake database, which has no such table. -/
theorem operators_see_iff {ι : Type} {state : ι → Session} {rows : IntakeRows}
    (hcompose : composePublicIntakeRuntime Databases.intake Databases.canonical provider
      origins verifier submissionLimit lookupLimit windowSeconds = .ok assembly) :
    OperatorsSee assembly.notificationReader tables state rows ↔
      ∀ requestId, ¬ (Reported state requestId ∨ Published rows requestId) := by
  rw [(compose_eq_ok hcompose).1]
  constructor
  · intro h requestId hshown
    exact not_sees_intake (h.accepted requestId hshown)
  · intro hnone
    constructor
    · intro requestId hshown
      exact absurd hshown (hnone requestId)
    · intro requestId row _ _ limit notices hread
      rw [listUnread_intake] at hread
      cases hread

end Composed

/-- In the canonical database the notifications are there, in every run. -/
theorem canonical_sees {ι : Type} [DecidableEq ι] {sha256 : String → String}
    {service : PublicIntakeService} {locked : IntakeKey → Bool} {session : ι → Session}
    {events : List (IntakeEvent ι)} {last : IntakeSys ι} {tables : Tables}
    (hfresh : ∀ client, (session client).fresh) (hunique : UniqueRequests session)
    (hrun : Run (flow sha256 service) (Sys.start ⟨locked, []⟩ session) events last)
    (htables : Projected events tables) :
    (∀ requestId, Published last.world.rows requestId →
      Sees ⟨Databases.canonical⟩ tables requestId) ∧
    ∀ requestId (row : IntakeRequestRow),
      last.world.rows.get (IntakeKey.request requestId) = some row →
        row.status = .quarantinedSpam → tables.notified requestId "new_client_request" = [] := by
  rcases agreement_of_run hfresh hunique hrun with ⟨hagrees, hknows⟩
  have hagreement := hagrees tables htables
  constructor
  · intro requestId hpublished
    rcases hpublished with ⟨row, hrow, hstatus, eventId, event, hevent, hid, hdone⟩
    rw [sees_canonical_iff]
    exact hagreement.notified_published hunique hknows hrow hstatus hevent hid hdone
  · intro requestId row hrow hstatus
    exact hagreement.notified_quarantined hunique hknows hrow hstatus _

section Sample

def composedService : PublicIntakeService :=
  { sampleService with
    preflight := composedPreflight none
    globalSubmissionLimit := 100
    valid := by decide }

def composedAssembly : PublicIntakeRuntimeAssembly where
  service := composedService
  projector := Databases.canonical
  notificationReader := ⟨Databases.intake⟩

theorem compose_sample : composePublicIntakeRuntime Databases.intake Databases.canonical none
    ["https://shema.example"] true 5 20 600 = .ok composedAssembly := by
  rfl

/-- Before anything is accepted there is nothing to be seen. -/
theorem operators_see_iff_start :
    OperatorsSee composedAssembly.notificationReader ⟨[], []⟩
      (fun _ : Unit => .submit sampleCall .waiting) [] := by
  apply (operators_see_iff compose_sample).mpr
  intro requestId hshown
  rcases hshown with ⟨client, call, result, hreturned, _⟩ | ⟨row, hrow, _⟩
  · cases hreturned
  · cases hrow

def announcedRecord : PublicIntakeRecord :=
  sampleCall.record sampleDigest unaskedPreflight

/-- The operator's tables after the request of the sample call. -/
def announcedTables : Tables :=
  project announcedRecord 0 ⟨[], []⟩

def passedRows : IntakeRows :=
  [⟨IntakeKey.rateLimit "digest" "submission" 0, some 1⟩,
    ⟨IntakeKey.outboxCapacity, some 1⟩,
    ⟨IntakeKey.globalCircuit, some ⟨0, 1, none⟩⟩]

/-- A request is returned as projected, its notification is in the canonical database, and
the reader finds no table. -/
theorem accepted_not_seen : ∃ (events : List (IntakeEvent Unit)) (last : IntakeSys Unit),
    Run (flow sampleDigest composedAssembly.service)
        (Sys.start ⟨fun _ => false, []⟩ fun _ => .submit sampleCall .waiting) events last ∧
      Projected events announcedTables ∧
      Reported last.states "request-1" ∧
      (announcedTables.notified "request-1" "new_client_request").length = 1 ∧
      composedAssembly.notificationReader.listUnread (databases announcedTables) 50 =
        .error ⟨"operator_notification"⟩ ∧
      ¬ OperatorsSee composedAssembly.notificationReader announcedTables last.states
        last.world.rows := by
  have hreserve : (reserve sampleDigest composedService sampleCall).execute (fun _ => false)
      [] [] = .ok (.reserved, reservedRows) := by
    with_unfolding_all rfl
  have hpassed : (admitCall sampleDigest composedService sampleCall).execute (fun _ => false)
      (reservedRows ++ []) [] = .ok (.assessed unaskedPreflight, passedRows) := by
    with_unfolding_all rfl
  obtain ⟨recorded, hrecord, projected, hproject⟩ : ∃ recorded,
      (PublicIntakeService.record sampleDigest composedService sampleCall
        unaskedPreflight).execute (fun _ => false) (passedRows ++ (reservedRows ++ [])) [] =
          .ok (.recorded announcedRecord, recorded) ∧
      ∃ projected, (markProjected sampleCall announcedRecord).execute (fun _ => false)
        (recorded ++ (passedRows ++ (reservedRows ++ []))) [] =
          .ok (.returned ⟨announcedRecord, "PROJECTED", false⟩, projected) := by
    constructor
    constructor
    · with_unfolding_all rfl
    · constructor
      with_unfolding_all rfl
  have hact : (flow sampleDigest composedService).outside
      (.submit sampleCall (.recorded announcedRecord)) (fun _ => false)
      (.submission (.projects (.ok ()))) (.submit sampleCall (.projected announcedRecord))
      (fun _ => false) :=
    ⟨rfl, .submit (.projects _)⟩
  have hmarked : Run (flow sampleDigest composedService)
      (Sys.start ⟨fun _ => false, recorded ++ (passedRows ++ (reservedRows ++ []))⟩
        fun _ : Unit => .submit sampleCall (.projected announcedRecord)) _ _ :=
    run_submission rfl hproject
  have hrun := ((run_recorded hreserve hpassed hrecord).trans (run_act_start () hact)).trans
    hmarked
  have hreported : Reported (fun _ : Unit => Session.submit sampleCall
      (.returned ⟨announcedRecord, "PROJECTED", false⟩)) "request-1" :=
    ⟨(), sampleCall, _, rfl, rfl, rfl, rfl⟩
  suffices htables : Projected _ announcedTables from
    ⟨_, _, hrun, htables, hreported, by decide +kernel, listUnread_intake,
      fun hsee => not_sees_intake (hsee.accepted "request-1" (Or.inl hreported))⟩
  apply Projected.committed
  apply Projected.projects _ announcedRecord true 0
  · exact ((Projected.start.committed () _ _ _).committed () _ _ _).committed () _ _ _
  · rfl

end Sample

end IntakeRuntime

end ShemaPlatform
