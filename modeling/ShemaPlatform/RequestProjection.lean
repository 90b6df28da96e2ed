/-
The projection of a public request into the operator's database: one row of its
context, and the notifications that it is worth.
-/
import ShemaPlatform.PublicIntakeService

namespace ShemaPlatform

open Calendar

/-- A row of `public_request_context`. -/
structure PublicRequestContextRow where
  requestId : String
  correlationId : String
  status : IntakeStatus
  serviceType : String
  location : String
  preferredDateOrPeriod : String
  workOrCargoDescription : String
  contactName : String
  contactChannel : String
  companyName : Option String
  inn : Option String
  ogrnOrOgrnip : Option String
  preflightSnapshotId : String
  preflightDecision : PreflightDecision
  preflightIdentityMatch : IdentityMatch
  sourceAttribution : Payload
  createdAt : Instant
  projectedAt : Instant
  updatedAt : Instant
deriving DecidableEq

/-- A value inside the payload of a notification. -/
inductive NoticeField where
  | text (value : String)
  | texts (values : List String)
deriving DecidableEq

/-- A row of `operator_notification`. -/
structure OperatorNotificationRow where
  eventId : String
  requestId : String
  eventType : String
  severity : String
  payload : List (String × NoticeField)
  createdAt : Instant
deriving DecidableEq

namespace RequestProjection

structure Tables where
  contexts : List PublicRequestContextRow
  notifications : List OperatorNotificationRow
deriving DecidableEq

/-- `insert … on conflict (request_id) do update`; the update leaves the request alone. -/
def upsertContext (row : PublicRequestContextRow) :
    List PublicRequestContextRow → List PublicRequestContextRow
  | [] => [row]
  | stored :: rest =>
      if stored.requestId = row.requestId then
        { stored with
          preflightSnapshotId := row.preflightSnapshotId
          preflightDecision := row.preflightDecision
          preflightIdentityMatch := row.preflightIdentityMatch
          projectedAt := row.projectedAt
          updatedAt := row.updatedAt } :: rest
      else stored :: upsertContext row rest

/-- `insert … on conflict (event_id) do nothing` -/
def insertNotice (stored : List OperatorNotificationRow) (notice : OperatorNotificationRow) :
    List OperatorNotificationRow :=
  if stored.any fun row => row.eventId == notice.eventId then stored else stored ++ [notice]

section Project

variable (record : PublicIntakeRecord) (now : Instant)

def contextOf : PublicRequestContextRow where
  requestId := record.requestId
  correlationId := record.correlationId
  status := record.status
  serviceType := record.payload.serviceType
  location := record.payload.location
  preferredDateOrPeriod := record.payload.preferredDateOrPeriod
  workOrCargoDescription := record.payload.workOrCargoDescription
  contactName := record.payload.contactName
  contactChannel := record.payload.contactChannel
  companyName := record.payload.companyName
  inn := record.payload.inn
  ogrnOrOgrnip := record.payload.ogrnOrOgrnip
  preflightSnapshotId := record.preflight.snapshotId
  preflightDecision := record.preflight.decision
  preflightIdentityMatch := record.preflight.identityMatch
  sourceAttribution := [("utm_source", .ofOption record.payload.utmSource),
    ("utm_medium", .ofOption record.payload.utmMedium),
    ("utm_campaign", .ofOption record.payload.utmCampaign),
    ("referrer", .ofOption record.payload.referrer),
    ("entry_surface", .text record.payload.entrySurface)]
  createdAt := record.createdAt
  projectedAt := now
  updatedAt := now

/-- The notification of every request that is accepted. -/
def newClientRequest : OperatorNotificationRow where
  eventId := s!"public-intake:{record.requestId}"
  requestId := record.requestId
  eventType := "new_client_request"
  severity := "INFO"
  payload := [("request_id", .text record.requestId),
    ("service_type", .text record.payload.serviceType),
    ("location", .text record.payload.location),
    ("preflight_decision", .text record.preflight.decision.value),
    ("preflight_snapshot_id", .text record.preflight.snapshotId)]
  createdAt := now

def providerUnavailable : OperatorNotificationRow where
  eventId := s!"public-intake:{record.requestId}:provider"
  requestId := record.requestId
  eventType := "provider_unavailable"
  severity := "ATTENTION"
  payload := [("request_id", .text record.requestId),
    ("preflight_snapshot_id", .text record.preflight.snapshotId)]
  createdAt := now

def counterpartyAttention : OperatorNotificationRow where
  eventId := s!"public-intake:{record.requestId}:attention"
  requestId := record.requestId
  eventType := "counterparty_attention"
  severity := "ATTENTION"
  payload := [("request_id", .text record.requestId),
    ("preflight_snapshot_id", .text record.preflight.snapshotId),
    ("flags", .texts record.preflight.flags)]
  createdAt := now

def counterpartyBlockingFact : OperatorNotificationRow where
  eventId := s!"public-intake:{record.requestId}:blocking"
  requestId := record.requestId
  eventType := "counterparty_blocking_fact"
  severity := "HIGH"
  payload := [("request_id", .text record.requestId),
    ("preflight_snapshot_id", .text record.preflight.snapshotId),
    ("flags", .texts record.preflight.flags)]
  createdAt := now

/-- What the snapshot is worth a notification for; a provider that was not there comes
first here. -/
def concernNotice : Option OperatorNotificationRow :=
  if "PROVIDER_UNAVAILABLE" ∈ record.preflight.flags then
    some (providerUnavailable record now)
  else if record.preflight.decision = .attention then some (counterpartyAttention record now)
  else if record.preflight.decision = .blockingFact then
    some (counterpartyBlockingFact record now)
  else none

def notices : List OperatorNotificationRow :=
  if record.status = .quarantinedSpam then []
  else newClientRequest record now :: (concernNotice record now).toList

/-- `PostgresPublicRequestProjection.project`, one transaction. -/
def project (tables : Tables) : Tables where
  contexts := upsertContext (contextOf record now) tables.contexts
  notifications := (notices record now).foldl insertNotice tables.notifications

end Project

/-- The end of the id of a notification of this type. -/
def suffix (eventType : String) : String :=
  if eventType = "provider_unavailable" then ":provider"
  else if eventType = "counterparty_attention" then ":attention"
  else if eventType = "counterparty_blocking_fact" then ":blocking"
  else ""

/-- The id of the notification of this type of a request. -/
def noticeId (requestId eventType : String) : String :=
  "public-intake:" ++ requestId ++ suffix eventType

/-- The types of the notifications of a request. -/
def noticeTypes (record : PublicIntakeRecord) : List String :=
  (notices record 0).map (·.eventType)

def eventTypes : List String :=
  ["new_client_request", "provider_unavailable", "counterparty_attention",
    "counterparty_blocking_fact"]

section Notices

variable {record : PublicIntakeRecord} {now : Instant} {notice : OperatorNotificationRow}

theorem mem_notices : notice ∈ notices record now ↔ record.status ≠ .quarantinedSpam ∧
    (notice = newClientRequest record now ∨ concernNotice record now = some notice) := by
  unfold notices
  split
  · simp_all
  · simp_all [eq_comm]

theorem concernNotice_cases (h : concernNotice record now = some notice) :
    notice = providerUnavailable record now ∨ notice = counterpartyAttention record now ∨
      notice = counterpartyBlockingFact record now := by
  unfold concernNotice at h
  split at h
  · exact Or.inl (Option.some.inj h).symm
  · split at h
    · exact Or.inr (Or.inl (Option.some.inj h).symm)
    · split at h
      · exact Or.inr (Or.inr (Option.some.inj h).symm)
      · cases h

/-- A notification names its request, and its id says which one of it it is. -/
theorem id_of_mem_notices (h : notice ∈ notices record now) :
    notice.requestId = record.requestId ∧ notice.eventType ∈ eventTypes ∧
      notice.eventId = noticeId record.requestId notice.eventType := by
  rcases (mem_notices.mp h).2 with rfl | hconcern
  · constructor
    · rfl
    · constructor
      · exact List.mem_cons_self
      · exact (String.append_empty).symm
  · rcases concernNotice_cases hconcern with rfl | rfl | rfl
    · exact ⟨rfl, List.mem_cons_of_mem _ List.mem_cons_self, rfl⟩
    · exact ⟨rfl, List.mem_cons_of_mem _ (List.mem_cons_of_mem _ List.mem_cons_self), rfl⟩
    · exact ⟨rfl, List.mem_cons_of_mem _ (List.mem_cons_of_mem _ (List.mem_cons_of_mem _
        List.mem_cons_self)), rfl⟩

theorem takeWhile_noticeId {requestId eventType : String} (hplain : ':' ∉ requestId.toList)
    (htype : eventType ∈ eventTypes) :
    (requestId.toList ++ (suffix eventType).toList).takeWhile (· ≠ ':') =
      requestId.toList := by
  have hall : ∀ c ∈ requestId.toList, decide (c ≠ ':') = true := by
    intro c hc
    apply decide_eq_true
    rintro rfl
    exact hplain hc
  rw [List.takeWhile_append_of_pos hall]
  simp only [eventTypes, List.mem_cons, List.not_mem_nil, or_false] at htype
  rcases htype with rfl | rfl | rfl | rfl
  · exact List.append_nil _
  · exact List.append_nil _
  · exact List.append_nil _
  · exact List.append_nil _

/-- An id tells its request and its type, since request ids have no colon. -/
theorem noticeId_inj {requestId requestId' eventType eventType' : String}
    (hplain : ':' ∉ requestId.toList) (hplain' : ':' ∉ requestId'.toList)
    (htype : eventType ∈ eventTypes) (htype' : eventType' ∈ eventTypes)
    (h : noticeId requestId eventType = noticeId requestId' eventType') :
    requestId = requestId' ∧ eventType = eventType' := by
  have hlists := congrArg String.toList h
  simp only [noticeId, String.toList_append, List.append_assoc] at hlists
  have hends := List.append_cancel_left hlists
  have hrequest : requestId = requestId' := by
    apply String.toList_injective
    rw [← takeWhile_noticeId hplain htype, hends, takeWhile_noticeId hplain' htype']
  constructor
  · exact hrequest
  · rw [hrequest] at hends
    have hsuffix := List.append_cancel_left hends
    simp only [eventTypes, List.mem_cons, List.not_mem_nil, or_false] at htype htype'
    rcases htype with rfl | rfl | rfl | rfl <;>
      rcases htype' with rfl | rfl | rfl | rfl <;> first | rfl | exact absurd hsuffix (by decide)

theorem types_notices (now : Instant) :
    (notices record now).map (·.eventType) = noticeTypes record := by
  unfold noticeTypes notices concernNotice
  split_ifs <;> rfl

/-- The types depend on the status and the snapshot only. -/
theorem noticeTypes_congr {other : PublicIntakeRecord} (hstatus : other.status = record.status)
    (hpreflight : other.preflight = record.preflight) :
    noticeTypes other = noticeTypes record := by
  unfold noticeTypes notices concernNotice
  rw [hstatus, hpreflight]
  split_ifs <;> rfl

theorem noticeTypes_accepted (h : record.status = .accepted) :
    "new_client_request" ∈ noticeTypes record := by
  have hstatus : record.status ≠ .quarantinedSpam := by
    rw [h]
    decide
  rw [noticeTypes, notices, if_neg hstatus]
  exact List.mem_cons_self

theorem noticeTypes_quarantined (h : record.status = .quarantinedSpam) :
    noticeTypes record = [] := by
  rw [noticeTypes, notices, if_pos h]
  rfl

end Notices

section Project

variable {record : PublicIntakeRecord} {now : Instant} {tables : Tables}
  {stored : List OperatorNotificationRow} {notice row : OperatorNotificationRow}

theorem mem_insertNotice (h : row ∈ insertNotice stored notice) :
    row ∈ stored ∨ row = notice := by
  unfold insertNotice at h
  split at h
  · exact Or.inl h
  · rw [List.mem_append, List.mem_singleton] at h
    exact h

theorem insertNotice_keeps (h : row ∈ stored) : row ∈ insertNotice stored notice := by
  unfold insertNotice
  split
  · exact h
  · exact List.mem_append_left _ h

theorem insertNotice_has : ∃ row ∈ insertNotice stored notice, row.eventId = notice.eventId := by
  unfold insertNotice
  split
  · rename_i htaken
    obtain ⟨row, hrow, hsame⟩ := List.any_eq_true.mp htaken
    exact ⟨row, hrow, beq_iff_eq.mp hsame⟩
  · exact ⟨notice, List.mem_append_right _ (List.mem_singleton_self _), rfl⟩

theorem nodup_insertNotice (h : (stored.map (·.eventId)).Nodup) :
    ((insertNotice stored notice).map (·.eventId)).Nodup := by
  unfold insertNotice
  split
  · exact h
  · rename_i hfree
    rw [List.map_append, List.map_singleton, List.nodup_append]
    constructor
    · exact h
    · constructor
      · exact List.nodup_singleton _
      · intro eventId hold other hnew hsame
        obtain ⟨row, hrow, rfl⟩ := List.mem_map.mp hold
        rw [List.mem_singleton] at hnew
        apply hfree
        exact List.any_eq_true.mpr ⟨row, hrow, beq_iff_eq.mpr (hsame.trans hnew)⟩

section Fold

variable {added : List OperatorNotificationRow}

theorem mem_foldl_insertNotice (h : row ∈ added.foldl insertNotice stored) :
    row ∈ stored ∨ row ∈ added := by
  induction added generalizing stored with
  | nil => exact Or.inl h
  | cons notice rest ih =>
      rcases ih h with hold | hnew
      · rcases mem_insertNotice hold with hstored | rfl
        · exact Or.inl hstored
        · exact Or.inr List.mem_cons_self
      · exact Or.inr (List.mem_cons_of_mem _ hnew)

theorem foldl_insertNotice_keeps (h : row ∈ stored) :
    row ∈ added.foldl insertNotice stored := by
  induction added generalizing stored with
  | nil => exact h
  | cons notice rest ih => exact ih (insertNotice_keeps h)

theorem foldl_insertNotice_has (h : notice ∈ added) :
    ∃ row ∈ added.foldl insertNotice stored, row.eventId = notice.eventId := by
  induction added generalizing stored with
  | nil => cases h
  | cons first rest ih =>
      rcases List.mem_cons.mp h with rfl | hrest
      · obtain ⟨row, hrow, hid⟩ := @insertNotice_has stored notice
        rw [List.foldl_cons]
        exact ⟨row, foldl_insertNotice_keeps hrow, hid⟩
      · exact ih hrest

theorem nodup_foldl_insertNotice (h : (stored.map (·.eventId)).Nodup) :
    ((added.foldl insertNotice stored).map (·.eventId)).Nodup := by
  induction added generalizing stored with
  | nil => exact h
  | cons notice rest ih => exact ih (nodup_insertNotice h)

end Fold

theorem requestIds_upsertContext {context : PublicRequestContextRow}
    {contexts : List PublicRequestContextRow} :
    (upsertContext context contexts).map (·.requestId) =
      if context.requestId ∈ contexts.map (·.requestId) then contexts.map (·.requestId)
      else contexts.map (·.requestId) ++ [context.requestId] := by
  induction contexts with
  | nil => rfl
  | cons stored rest ih =>
      unfold upsertContext
      by_cases hsame : stored.requestId = context.requestId
      · rw [if_pos hsame, if_pos (by simp [hsame])]
        rfl
      · rw [if_neg hsame, List.map_cons, ih, List.map_cons]
        have hother : (context.requestId ∈ stored.requestId :: rest.map (·.requestId)) ↔
            context.requestId ∈ rest.map (·.requestId) := by
          rw [List.mem_cons]
          exact or_iff_right (Ne.symm hsame)
        by_cases hrest : context.requestId ∈ rest.map (·.requestId)
        · rw [if_pos hrest, if_pos (hother.mpr hrest)]
        · rw [if_neg hrest, if_neg (mt hother.mp hrest)]
          rfl

theorem nodup_upsertContext {context : PublicRequestContextRow}
    {contexts : List PublicRequestContextRow} (h : (contexts.map (·.requestId)).Nodup) :
    ((upsertContext context contexts).map (·.requestId)).Nodup := by
  rw [requestIds_upsertContext]
  split
  · exact h
  · rename_i hfree
    exact List.nodup_append.mpr ⟨h, List.nodup_singleton _, fun old hold new hnew hsame =>
      hfree (List.mem_singleton.mp hnew ▸ hsame ▸ hold)⟩

end Project

end RequestProjection

end ShemaPlatform
