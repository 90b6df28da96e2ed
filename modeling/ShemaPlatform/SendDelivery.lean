/-
Sends over one MAX adapter: all calls of an action that return have sent one message.
-/
import ShemaPlatform.MaxAdapter
import ShemaPlatform.SendOutcomes

namespace ShemaPlatform

open Calendar Histories ReadCommitted

namespace CommunicationGateway

/-- The request that the gateway makes of an action, once it is let through. -/
def requestFor (channel : String) (action : CommercialAction) (body idempotencyKey : String) :
    Except Failure CommunicationSendRequest := do
  require (!PyText.blank action.actionId) (.valueError "action_id is required")
  require (!PyText.blank body) (.valueError "body is required")
  require (!PyText.blank idempotencyKey) (.valueError "idempotency_key is required")
  action.validateForExternalSend
  require (action.channel == channel)
    (.valueError "request channel does not match adapter")
  return ⟨action.actionId, action.channel, action.contactRef, body, idempotencyKey⟩

/-- What becomes of the adapter when the gateway sends over it. -/
def adapterAfter (sha256 : String → String) (adapter : MaxAdapter) (action : CommercialAction)
    (body idempotencyKey : String) : MaxAdapter :=
  match requestFor MaxAdapter.channel action body idempotencyKey with
  | .ok request => (adapter.send sha256 request).2
  | .error _ => adapter

/-- What the gateway sends over, while it calls it once. -/
def overMax (sha256 : String → String) (adapter : MaxAdapter) : CommunicationAdapter :=
  ⟨MaxAdapter.channel, fun request => (adapter.send sha256 request).1⟩

variable {sha256 : String → String} {adapter : MaxAdapter} {action : CommercialAction}
  {body idempotencyKey : String} {result : CommunicationSendResult}

/-- An answer of the gateway is the answer of the adapter to its one request. -/
theorem send_overMax_eq_ok
    (h : send (overMax sha256 adapter) action body idempotencyKey = .ok result) :
    ∃ request, requestFor MaxAdapter.channel action body idempotencyKey = .ok request ∧
      request.body = body ∧ request.idempotencyKey = idempotencyKey ∧
      (adapter.send sha256 request).1 = .ok result := by
  simp only [send, bind_eq_ok, require_eq_ok, pure_eq_ok] at h
  rcases h with ⟨_, haction, _, hbody, _, hkey, _, hvalid, _, hchannel, answer, hanswer, _, _,
    _, _, _, _, _, _, _, _, rfl⟩
  use ⟨action.actionId, action.channel, action.contactRef, body, idempotencyKey⟩
  constructor
  · simp only [requestFor, bind_eq_ok, require_eq_ok, pure_eq_ok]
    exact ⟨(), haction, (), hbody, (), hkey, (), hvalid, (), hchannel, trivial⟩
  · exact ⟨rfl, rfl, hanswer⟩

end CommunicationGateway

namespace CommercialSend

open CommunicationGateway (overMax)

variable {ι : Type} {sha256 : String → String} {events : List (SendEvent ι)}

def Stage.sendingAction : Stage → Option CommercialAction
  | .sending action => some action
  | _ => none

/-- What an event of a run does to the adapter. -/
def deliver (sha256 : String → String) (adapter : MaxAdapter) : SendEvent ι → MaxAdapter
  | .acted _ before (.sends _) _ => before.stage.sendingAction.elim adapter fun action =>
      CommunicationGateway.adapterAfter sha256 adapter action before.call.body
        (effectIdempotencyKey before.call.actionId)
  | _ => adapter

/-- The adapter after what a run has sent. -/
def adapterOf (sha256 : String → String) (events : List (SendEvent ι)) : MaxAdapter :=
  events.foldl (deliver sha256) .empty

/-- A send is answered by the one adapter of the run. -/
def MaxAnswers (sha256 : String → String) (earlier : List (SendEvent ι)) :
    SendEvent ι → Prop
  | .acted _ before (.sends outcome) _ => ∃ action, before.stage = .sending action ∧
      outcome = CommunicationGateway.send (overMax sha256 (adapterOf sha256 earlier)) action
        before.call.body (effectIdempotencyKey before.call.actionId)
  | _ => True

/-- The message of a call has been sent, and this is its id. -/
def Sent (sha256 : String → String) (adapter : MaxAdapter) (call : CommercialSend)
    (externalMessageId : String) : Prop :=
  ∃ receipt request, adapter.receipt (effectIdempotencyKey call.actionId) = some receipt ∧
    receipt.requestFingerprint = MaxAdapter.fingerprint sha256 request ∧
    request.body = call.body ∧ externalMessageId = receipt.externalMessageId

theorem adapterAfter_named {adapter : MaxAdapter} {action : CommercialAction}
    {body idempotencyKey : String} (h : adapter.Named) :
    (CommunicationGateway.adapterAfter sha256 adapter action body idempotencyKey).Named := by
  rw [CommunicationGateway.adapterAfter]
  split
  · exact h.send
  · exact h

theorem receipt_adapterAfter {adapter : MaxAdapter} {action : CommercialAction}
    {body idempotencyKey key : String} {receipt : MaxSendReceipt}
    (h : adapter.receipt key = some receipt) :
    (CommunicationGateway.adapterAfter sha256 adapter action body idempotencyKey).receipt key =
      some receipt := by
  rw [CommunicationGateway.adapterAfter]
  split
  · exact MaxAdapter.receipt_send h
  · exact h

/-- No event changes what was sent before it. -/
theorem receipt_deliver {adapter : MaxAdapter} {event : SendEvent ι} {key : String}
    {receipt : MaxSendReceipt} (h : adapter.receipt key = some receipt) :
    (deliver sha256 adapter event).receipt key = some receipt := by
  cases event with
  | committed => exact h
  | rolledBack => exact h
  | acted client before action after =>
      cases action with
      | starts => exact h
      | sends outcome =>
          cases hstage : before.stage.sendingAction with
          | none => simpa [deliver, hstage] using h
          | some action =>
              simp only [deliver, hstage, Option.elim_some]
              exact receipt_adapterAfter h

theorem named_deliver {adapter : MaxAdapter} {event : SendEvent ι} (h : adapter.Named) :
    (deliver sha256 adapter event).Named := by
  cases event with
  | committed => exact h
  | rolledBack => exact h
  | acted client before action after =>
      cases action with
      | starts => exact h
      | sends outcome =>
          cases hstage : before.stage.sendingAction with
          | none => simpa [deliver, hstage] using h
          | some action =>
              simp only [deliver, hstage, Option.elim_some]
              exact adapterAfter_named h

theorem adapterOf_concat {event : SendEvent ι} :
    adapterOf sha256 (events ++ [event]) = deliver sha256 (adapterOf sha256 events) event := by
  rw [adapterOf, List.foldl_append, List.foldl_cons, List.foldl_nil, adapterOf]

theorem named_adapterOf : (adapterOf sha256 events).Named := by
  induction events using List.reverseRecOn with
  | nil => exact fun _ _ h => by cases h
  | append_singleton events event ih =>
      rw [adapterOf_concat]
      exact named_deliver ih

/-- Whoever the adapter has answered has a message of its own body under its key. -/
theorem sent_of_answered (hmax : Preceded (MaxAnswers sha256) events) {client : ι}
    {before after : Session} {result : CommunicationSendResult}
    (hmem : .acted client before (.sends (.ok result)) after ∈ events) :
    Sent sha256 (adapterOf sha256 events) before.call result.externalMessageId := by
  induction events using List.reverseRecOn with
  | nil => cases hmem
  | append_singleton events event ih =>
      rcases preceded_concat.mp hmax with ⟨hearlier, hanswers⟩
      rw [adapterOf_concat]
      rcases List.mem_append.mp hmem with hold | hnew
      · rcases ih hearlier hold with ⟨receipt, request, hreceipt, hsame⟩
        exact ⟨receipt, request, receipt_deliver hreceipt, hsame⟩
      · obtain rfl := List.mem_singleton.mp hnew
        rcases hanswers with ⟨action, hstage, houtcome⟩
        rcases CommunicationGateway.send_overMax_eq_ok houtcome.symm with
          ⟨request, hrequest, hbody, hkey, hsend⟩
        rcases MaxAdapter.send_eq_ok hsend with ⟨receipt, hreceipt, hfingerprint, hresult⟩
        rw [hkey] at hreceipt
        use receipt, request
        constructor
        · rw [deliver, hstage, Stage.sendingAction, Option.elim_some,
            CommunicationGateway.adapterAfter, hrequest]
          exact hreceipt
        · exact ⟨hfingerprint, hbody, by rw [hresult]; rfl⟩

/-- One action has one message. -/
theorem Sent.unique (hsha256 : Function.Injective sha256) {adapter : MaxAdapter}
    {call call' : CommercialSend} {externalMessageId externalMessageId' : String}
    (h : Sent sha256 adapter call externalMessageId)
    (h' : Sent sha256 adapter call' externalMessageId')
    (hsame : call.actionId = call'.actionId) :
    call.body = call'.body ∧ externalMessageId = externalMessageId' := by
  rcases h with ⟨receipt, request, hreceipt, hfingerprint, hbody, hid⟩
  rcases h' with ⟨receipt', request', hreceipt', hfingerprint', hbody', hid'⟩
  rw [← hsame] at hreceipt'
  obtain rfl := Option.some.inj (hreceipt.symm.trans hreceipt')
  have htext := MaxAdapter.fingerprintText_inj (hsha256 (hfingerprint.symm.trans hfingerprint'))
  constructor
  · rw [← hbody, ← hbody', htext.2.1]
  · rw [hid, hid']

/-- Over one MAX adapter, whatever sends are called, however they interleave, fail and
crash: all calls of an action that return have sent one body, and return the one id of its
message. -/
theorem one_message (sha256 uuid5 : String → String) (authorizer : RBACAuthorizer)
    (calls : ι → CommercialSend) [DecidableEq ι] {world : World Instant Row} {last : SendSys ι}
    (hsha256 : Function.Injective sha256) (honeLine : OneLine world.rows)
    (hfresh : Unsettled sha256 calls world.rows)
    (hrun : Run (flow sha256 uuid5 authorizer)
      (Sys.start world fun client => ⟨calls client, .called⟩) events last)
    (hmax : Preceded (MaxAnswers sha256) events) {client client' : ι}
    {result result' : CommunicationSendResult}
    (hreturned : (last.states client).stage = .returned result)
    (hreturned' : (last.states client').stage = .returned result')
    (hsame : (calls client).actionId = (calls client').actionId) :
    (calls client).body = (calls client').body ∧
      result.externalMessageId = result'.externalMessageId ∧
      result.externalMessageId =
        MaxAdapter.externalMessageId (effectIdempotencyKey (calls client).actionId) := by
  have haccounted := accounted_of_run hsha256 honeLine hfresh hrun
  have hsent : ∀ {client result}, (last.states client).stage = .returned result →
      Sent sha256 (adapterOf sha256 events) (calls client) result.externalMessageId := by
    intro client result hstage
    rcases haccounted.returned client result hstage with
      ⟨sender, before, answer, after, hmem, hid, hbody, hanswer⟩
    have h := sent_of_answered hmax hmem
    rwa [Sent, hid, hbody, hanswer] at h
  rcases (hsent hreturned).unique hsha256 (hsent hreturned') hsame with ⟨hbody, hid⟩
  use hbody, hid
  rcases hsent hreturned with ⟨receipt, request, hreceipt, _, _, hreceived⟩
  rw [hreceived, named_adapterOf _ receipt hreceipt]

section Sample

theorem sampleMaxAnswers (own : Rows Row) : Preceded (MaxAnswers id)
    (sampleEvents false 10 ++ sampleEvents true (leaseUntil 10) ++
      [.committed true (sampleAnswered true) ⟨sampleCall true, .returned sampleResult⟩
        own]) :=
  .cons trivial (.cons trivial (.cons ⟨sampleClaimed false, rfl, rfl⟩ (.cons trivial
    (.cons trivial (.cons ⟨sampleClaimed true, rfl, rfl⟩ (.cons trivial preceded_nil))))))

theorem one_message_sample : ∃ last : SendSys Bool,
    (last.states true).stage = .returned sampleResult ∧
    sampleResult.externalMessageId =
      MaxAdapter.externalMessageId (effectIdempotencyKey "action-1") := by
  rcases run_completed with ⟨own, last, hrun, _, hreturned⟩
  have h := one_message id id sampleAuthorizer sampleCall Function.injective_id sampleOneLine
    sampleUnsettled hrun (sampleMaxAnswers own) hreturned hreturned rfl
  exact ⟨last, hreturned, h.2.2⟩

end Sample

end CommercialSend

end ShemaPlatform
