/-
The workflow that sends a commercial action: one transaction reserves the action under
a lease, the gateway is called outside any transaction, and a second one completes the
send, or quarantines it when its outcome is unknown.
-/
import ShemaPlatform.CommercialSends
import ShemaPlatform.Communication
import ShemaPlatform.CriticalWorkflows
import ShemaPlatform.WorkflowRun

namespace ShemaPlatform

open Calendar ReadCommitted ReadCommitted.Prog
open RepeatOrderService (clock)

/-- A call of `execute`, with what its `uuid4` draws. -/
structure CommercialSend where
  actor : Actor
  actionId : String
  body : String
  idempotencyKey : String
  workerUuid : String
  quarantineId : String
deriving DecidableEq

namespace CommercialSend

/-- Where a call of `execute` stands. -/
inductive Stage where
  | called
  | started (now : Instant)
  | sending (action : CommercialAction)
  | unknown
  | answered (result : CommunicationSendResult)
  | returned (result : CommunicationSendResult)
  | raised (error : Failure)

structure Session where
  call : CommercialSend
  stage : Stage

/-- What `request_hash` hashes. -/
def requestText (call : CommercialSend) : String :=
  call.actionId ++ "\n" ++ call.idempotencyKey ++ "\n" ++ call.body

def pendingRef (actionId : String) : String := s!"pending:{actionId}"

def effectIdempotencyKey (actionId : String) : String := s!"commercial-send:{actionId}"

def workerId (call : CommercialSend) : String := s!"commercial-send:{call.workerUuid}"

/-- `SEND_LEASE_SECONDS` later, in microseconds. -/
def leaseUntil (now : Instant) : Instant := now + 300000000

section Calls

variable (sha256 uuid5 : String → String) (call : CommercialSend)

def requestHash : String := sha256 call.requestText

/-- The policy check of the send. -/
def requireAllowed (action : CommercialAction) : Except Failure Unit := do
  let decision ← PolicyContext.evaluate
    { actorId := call.actor.actorId
      action := "commercial_action_send"
      resourceType := "commercial_action"
      resourceId := some call.actionId
      actorTrustLevel := call.actor.trustLevel
      resourceTrustLevel := 2
      evidenceLevel := if action.evidenceRefs.isEmpty then 0 else 2
      evidenceRequired := false }
  require (decision.decision == .allow) (.policyDenied decision.reason)

/-- What a record under the caller's key already answers. -/
def existingResult (existing : IdempotencyRecord) (action : CommercialAction) :
    Except Failure (Option CommunicationSendResult) := do
  require (existing.requestHash == call.requestHash sha256)
    (.idempotencyConflict "idempotency key reused with different request")
  if PyText.startsWith existing.resultRef "pending:" then do
    require (existing.resultRef == pendingRef call.actionId) (.idempotencyConflict
      "idempotency key is reserved for another commercial action")
    return none
  else do
    require (action.status == .sent) (.quarantineRequired
      "idempotency result exists but commercial action is not sent")
    return some ⟨action.actionId, action.channel, existing.resultRef, true⟩

def claimForSend (now : Instant) : Tx Instant Stage := do
  let sending ← CommercialActions.claimForSend call.actionId call.workerId (leaseUntil now) now
  return .sending sending

/-- The first transaction: a stored result is returned, or the action is reserved. -/
def claim (now : Instant) : Tx Instant Stage := do
  let existing ← Idempotency.get call.idempotencyKey
  match ← CommercialActions.get call.actionId with
  | none => raise (CommercialActions.unknownAction call.actionId)
  | some action => do
      lift (require (action.ownerActorId == some call.actor.actorId)
        (.quarantineRequired "commercial action is outside the actor resource scope"))
      lift (call.requireAllowed action)
      match existing with
      | some record => do
          match ← lift (call.existingResult sha256 record action) with
          | some result => return .returned result
          | none => claimForSend call now
      | none => do
          let _ ← Idempotency.reserve call.idempotencyKey (call.requestHash sha256)
            (pendingRef call.actionId)
          claimForSend call now

/-- The outbox event and the audit record of a send. -/
def recordSent (sent : CommercialAction) (resultRef : String) : Tx Instant Unit := do
  let eventKey := s!"commercial-action.sent:{call.actionId}:{resultRef}"
  let occurredAt ← clock
  let _ ← Outbox.append
    { eventId := uuid5 eventKey
      eventType := "commercial_action.sent"
      aggregateType := "commercial_action"
      aggregateId := call.actionId
      payload := [("action_id", .text call.actionId),
        ("identity_id", .text sent.identityId),
        ("channel", .text sent.channel),
        ("external_message_id", .text resultRef)]
      occurredAt := occurredAt }
  Audits.append
    { auditId := uuid5 s!"audit:{eventKey}"
      actorId := call.actor.actorId
      action := "commercial_action.sent"
      resourceType := "commercial_action"
      resourceId := call.actionId
      outcome := "success"
      occurredAt := occurredAt
      metadata := [("channel", .text sent.channel),
        ("external_message_id", .text resultRef),
        ("send_attempt", .number sent.sendAttempt)]
      correlationId := none }

/-- The second transaction, when the gateway has answered. -/
def complete (result : CommunicationSendResult) : Tx Instant Stage := do
  let completed ← Idempotency.complete call.idempotencyKey (call.requestHash sha256)
    result.externalMessageId
  match ← CommercialActions.get call.actionId with
  | none => raise (CommercialActions.unknownAction call.actionId)
  | some current =>
      if current.status = .sent then do
        lift (require (completed.resultRef == result.externalMessageId)
          (.idempotencyConflict
            "external communication result differs from durable result"))
        return .returned ⟨call.actionId, current.channel, completed.resultRef, true⟩
      else do
        lift (require (current.status == .sending) (.quarantineRequired
          "commercial action is no longer waiting for leased completion"))
        let now ← clock
        let sent ← CommercialActions.completeSend call.actionId call.workerId now
        recordSent uuid5 call sent completed.resultRef
        return .returned result

/-- The quarantine record, the outbox event and the audit record of a send whose
outcome is unknown. -/
def recordUnknown (current : CommercialAction) (reasonCode : String) : Tx Instant Unit := do
  Quarantine.add call.quarantineId
    { objectType := "commercial_action"
      objectRef := call.actionId
      reasonCode := reasonCode
      payload := [("request_hash", .text (call.requestHash sha256)),
        ("command_idempotency_key", .text call.idempotencyKey),
        ("external_effect_idempotency_key", .text (effectIdempotencyKey call.actionId)),
        ("send_attempt", .number current.sendAttempt),
        ("observed_worker_id", .text call.workerId),
        ("current_worker_id", .ofOption current.sendWorkerId),
        ("current_status", .text current.status.value)] }
  let requestHash := call.requestHash sha256
  let workerId := call.workerId
  let eventKey :=
    s!"commercial-action.external-effect-unknown:{call.actionId}:{requestHash}:{workerId}"
  let occurredAt ← clock
  let _ ← Outbox.append
    { eventId := uuid5 eventKey
      eventType := "commercial_action.external_effect_unknown"
      aggregateType := "commercial_action"
      aggregateId := call.actionId
      payload := [("action_id", .text call.actionId),
        ("channel", .text current.channel),
        ("reason_code", .text reasonCode),
        ("request_hash", .text requestHash),
        ("observed_worker_id", .text workerId),
        ("current_worker_id", .ofOption current.sendWorkerId),
        ("current_status", .text current.status.value)]
      occurredAt := occurredAt }
  Audits.append
    { auditId := uuid5 s!"audit:{eventKey}"
      actorId := call.actor.actorId
      action := "commercial_action.external_effect_unknown"
      resourceType := "commercial_action"
      resourceId := call.actionId
      outcome := "quarantined"
      occurredAt := occurredAt
      metadata := [("channel", .text current.channel),
        ("send_attempt", .number current.sendAttempt),
        ("worker_id", .text workerId),
        ("current_worker_id", .ofOption current.sendWorkerId),
        ("current_status", .text current.status.value),
        ("error_type", .text "ExternalEffectUnknown")]
      correlationId := none }

/-- `_quarantine_unknown_external_effect`, and what is raised after it. -/
def quarantine : Tx Instant Stage := do
  let now ← clock
  let failed ← CommercialActions.failExternalEffect call.actionId call.workerId now
  match ← CommercialActions.get call.actionId with
  | none => raise (CommercialActions.unknownAction call.actionId)
  | some current => do
      recordUnknown sha256 uuid5 call current
        (if failed.isNone then "external_effect_unknown_stale_worker"
        else "external_effect_unknown")
      return .raised (.quarantineRequired
        "external communication outcome is unknown; action quarantined")

/-- The transaction that a call opens next. -/
def transaction : Stage → Option (Tx Instant Stage)
  | .started now => some (claim sha256 call now)
  | .answered result => some (complete sha256 uuid5 call result)
  | .unknown => some (quarantine sha256 uuid5 call)
  | _ => none

end Calls

/-- What a call does outside the database: it starts at a moment of its clock, or it
sends. -/
inductive Action where
  | starts
  | sends (outcome : Except Failure CommunicationSendResult)

/-- The gateway, over an adapter that may answer anything. -/
def Gateway (call : CommercialSend) (action : CommercialAction)
    (outcome : Except Failure CommunicationSendResult) : Prop :=
  ∃ adapter, CommunicationGateway.send adapter action call.body
    (effectIdempotencyKey call.actionId) = outcome

/-- Where what was done outside leads to. -/
inductive Acts (authorizer : RBACAuthorizer) (call : CommercialSend) (now : Instant) :
    Stage → Action → Stage → Prop where
  | starts (hallowed : authorizer.require call.actor.actorId .commercialActionSend = .ok ()) :
      Acts authorizer call now .called .starts (.started now)
  | forbidden (error : Failure)
      (hforbidden : authorizer.require call.actor.actorId .commercialActionSend =
        .error error) :
      Acts authorizer call now .called .starts (.raised error)
  | answers (action : CommercialAction) (result : CommunicationSendResult)
      (hgateway : Gateway call action (.ok result)) :
      Acts authorizer call now (.sending action) (.sends (.ok result)) (.answered result)
  | ambiguous (action : CommercialAction) (message : String)
      (hgateway : Gateway call action (.error (.externalEffectUnknown message))) :
      Acts authorizer call now (.sending action)
        (.sends (.error (.externalEffectUnknown message))) .unknown
  | fails (action : CommercialAction) (error : Failure)
      (hgateway : Gateway call action (.error error))
      (hknown : ∀ message, error ≠ .externalEffectUnknown message) :
      Acts authorizer call now (.sending action) (.sends (.error error)) (.raised error)

/-- Any number of calls of `execute`, under a clock that never goes back. -/
def flow (sha256 uuid5 : String → String) (authorizer : RBACAuthorizer) :
    Workflow Instant Row Failure Session Action where
  code session := (transaction sha256 uuid5 session.call session.stage).map fun body =>
    body >>= fun stage => Pure.pure ⟨session.call, stage⟩
  recover session error := { session with stage := .raised error }
  outside session now action after now' := now' = now ∧ after.call = session.call ∧
    Acts authorizer session.call now session.stage action after.stage
  aborts := Failure.infrastructure
  drift now now' := now ≤ now'

/-- What a run of sends records. -/
abbrev SendEvent (ι : Type) := Event ι Row Failure Session Action

abbrev SendSys (ι : Type) := Sys ι Instant Row Failure Session

end CommercialSend

end ShemaPlatform
