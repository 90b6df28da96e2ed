/-
Commercial actions: what is required before one may be sent, and the status
machine with its send reservation.
-/
import ShemaPlatform.Calendar
import ShemaPlatform.Errors
import ShemaPlatform.PyText

namespace ShemaPlatform

inductive CommercialActionStatus where
  | draft | ready | sending | sent | failed | completed | cancelled
deriving DecidableEq, Repr

def CommercialActionStatus.value : CommercialActionStatus → String
  | .draft => "draft"
  | .ready => "ready"
  | .sending => "sending"
  | .sent => "sent"
  | .failed => "failed"
  | .completed => "completed"
  | .cancelled => "cancelled"

structure CommercialAction where
  actionId : String
  identityId : String
  contactRef : String
  channel : String
  evidenceRefs : List String
  ownerActorId : Option String
  status : CommercialActionStatus
  sendAttempt : Nat
  sendWorkerId : Option String
  sendLeaseUntil : Option Calendar.Instant
deriving DecidableEq

namespace CommercialAction

def validateForSend (action : CommercialAction) : Except Failure Unit := do
  require (!PyText.blank action.identityId)
    (.quarantineRequired "commercial action requires identity")
  require (!PyText.blank action.contactRef)
    (.quarantineRequired "commercial action requires contact")
  require (!PyText.blank action.channel)
    (.quarantineRequired "commercial action requires channel")
  require (!action.evidenceRefs.isEmpty)
    (.quarantineRequired "commercial action requires evidence")

/-- The action rebuilt as ready, without a send reservation. -/
def markReady (action : CommercialAction) : Except Failure CommercialAction := do
  action.validateForSend
  return { action with
    status := .ready
    sendWorkerId := none
    sendLeaseUntil := none }

/-- The action under a send reservation. -/
def markSending (action : CommercialAction) (workerId : String)
    (leaseUntil : Calendar.Instant) (attempt : Int) : Except Failure CommercialAction := do
  require (!PyText.blank workerId) (.valueError "send worker is required")
  require (decide (1 ≤ attempt)) (.valueError "send attempt must be >= 1")
  require (action.status == .ready || action.status == .sending)
    (.quarantineRequired "commercial action is not available for send")
  action.validateForSend
  return { action with
    status := .sending
    sendAttempt := attempt.toNat
    sendWorkerId := some workerId
    sendLeaseUntil := some leaseUntil }

def markSent (action : CommercialAction) : Except Failure CommercialAction := do
  require (action.status == .sending)
    (.valueError "only sending action can be marked sent")
  return { action with
    status := .sent
    sendWorkerId := none
    sendLeaseUntil := none }

theorem markReady_eq_ok {action result : CommercialAction}
    (h : action.markReady = .ok result) :
    result.actionId = action.actionId ∧
      result.ownerActorId = action.ownerActorId := by
  simp only [markReady, bind, Except.bind, pure, Except.pure] at h
  split at h
  · simp at h
  · obtain rfl := Except.ok.inj h
    exact ⟨rfl, rfl⟩

end CommercialAction

end ShemaPlatform
