/-
The boundary to the providers of communication: what may be sent, and what is
taken for an answer.
-/
import ShemaPlatform.CommercialAction

namespace ShemaPlatform

structure CommunicationSendRequest where
  actionId : String
  channel : String
  contactRef : String
  body : String
  idempotencyKey : String
deriving DecidableEq

structure CommunicationSendResult where
  actionId : String
  channel : String
  externalMessageId : String
  accepted : Bool
deriving DecidableEq

structure CommunicationAdapter where
  channel : String
  send : CommunicationSendRequest → Except Failure CommunicationSendResult

/-- Only a ready action, or one that is reserved, may be sent. -/
def CommercialAction.validateForExternalSend (action : CommercialAction) :
    Except Failure Unit := do
  require (action.status == .ready || action.status == .sending) (.quarantineRequired
    "commercial action must be ready or reserved before external send")
  action.validateForSend

def CommunicationGateway.send (adapter : CommunicationAdapter) (action : CommercialAction)
    (body idempotencyKey : String) : Except Failure CommunicationSendResult := do
  require (!PyText.blank action.actionId) (.valueError "action_id is required")
  require (!PyText.blank body) (.valueError "body is required")
  require (!PyText.blank idempotencyKey) (.valueError "idempotency_key is required")
  action.validateForExternalSend
  require (action.channel == adapter.channel)
    (.valueError "request channel does not match adapter")
  let result ← adapter.send
    ⟨action.actionId, action.channel, action.contactRef, body, idempotencyKey⟩
  require (result.actionId == action.actionId)
    (.valueError "adapter returned mismatched action_id")
  require (result.channel == action.channel)
    (.valueError "adapter returned mismatched channel")
  require result.accepted
    (.quarantineRequired "external communication was not accepted")
  require (!PyText.blank result.externalMessageId)
    (.quarantineRequired "external communication returned no external identifier")
  require (!PyText.startsWith result.externalMessageId "pending:")
    (.quarantineRequired "external identifier uses reserved pending prefix")
  return result

/-- The id a provider gives is neither blank nor called pending. -/
theorem CommunicationGateway.send_eq_ok {adapter : CommunicationAdapter}
    {action : CommercialAction} {body idempotencyKey : String}
    {result : CommunicationSendResult}
    (h : send adapter action body idempotencyKey = .ok result) :
    PyText.blank result.externalMessageId = false ∧
      PyText.startsWith result.externalMessageId "pending:" = false := by
  simp only [send, bind_eq_ok, require_eq_ok, pure_eq_ok, Bool.not_eq_true'] at h
  obtain ⟨_, _, _, _, _, _, _, _, _, _, answer, _, _, _, _, _, _, _, _, hblank, _, hpending,
    rfl⟩ := h
  exact ⟨hblank, hpending⟩

end ShemaPlatform
