/-
The adapter that sends over MAX, in memory: one message for each key, and what it is
taken for by calls that use the key again.
-/
import ShemaPlatform.AnswerRun
import ShemaPlatform.Communication
import ShemaPlatform.JsonUnicode

namespace ShemaPlatform

structure MaxSendReceipt where
  idempotencyKey : String
  requestFingerprint : String
  externalMessageId : String
deriving DecidableEq

/-- The receipts, the newest first; a `dict` has each key once. -/
structure MaxAdapter where
  sent : List MaxSendReceipt
  distinct : (sent.map MaxSendReceipt.idempotencyKey).Nodup

/-- What the adapter answers to a request. -/
abbrev MaxAnswer := Except Failure CommunicationSendResult

namespace MaxAdapter

def channel : String := "max"

def empty : MaxAdapter := ⟨[], List.nodup_nil⟩

/-- What `_fingerprint` hashes. -/
def fingerprintText (request : CommunicationSendRequest) : String :=
  let member (name value : String) : List Char :=
    JsonText.quoteUnicode name ++ ':' :: JsonText.quoteUnicode value
  String.ofList ('\x7b' :: (member "action_id" request.actionId ++ ',' ::
    (member "body" request.body ++ ',' :: (member "channel" request.channel ++ ',' ::
      (member "contact_ref" request.contactRef ++ ['\x7d'])))))

def fingerprint (sha256 : String → String) (request : CommunicationSendRequest) : String :=
  sha256 (fingerprintText request)

def receipt (adapter : MaxAdapter) (idempotencyKey : String) : Option MaxSendReceipt :=
  adapter.sent.find? fun receipt => receipt.idempotencyKey == idempotencyKey

def externalMessageId (idempotencyKey : String) : String := s!"max:{idempotencyKey}"

theorem distinct_cons {adapter : MaxAdapter} {receipt : MaxSendReceipt}
    (hnone : adapter.receipt receipt.idempotencyKey = none) :
    ((receipt :: adapter.sent).map MaxSendReceipt.idempotencyKey).Nodup := by
  rw [List.map_cons, List.nodup_cons]
  constructor
  · intro hmem
    rcases List.mem_map.mp hmem with ⟨earlier, hearlier, hsame⟩
    have hother := List.find?_eq_none.mp hnone earlier hearlier
    simp [hsame] at hother
  · exact adapter.distinct

/-- A message under a key of its own. -/
def deliver (adapter : MaxAdapter) (receipt : MaxSendReceipt)
    (hnone : adapter.receipt receipt.idempotencyKey = none) : MaxAdapter :=
  ⟨receipt :: adapter.sent, distinct_cons hnone⟩

def result (request : CommunicationSendRequest) (externalMessageId : String) :
    CommunicationSendResult := ⟨request.actionId, channel, externalMessageId, true⟩

def send (sha256 : String → String) (adapter : MaxAdapter)
    (request : CommunicationSendRequest) : MaxAnswer × MaxAdapter :=
  if request.channel ≠ channel then
    (.error (.valueError "request channel does not match MAX"), adapter)
  else
    match h : adapter.receipt request.idempotencyKey with
    | some existing =>
        if existing.requestFingerprint ≠ fingerprint sha256 request then
          (.error (.valueError "MAX idempotency key reused with different request"), adapter)
        else (.ok (result request existing.externalMessageId), adapter)
    | none =>
        (.ok (result request (externalMessageId request.idempotencyKey)), adapter.deliver
          ⟨request.idempotencyKey, fingerprint sha256 request,
            externalMessageId request.idempotencyKey⟩ h)

section Answers

variable {sha256 : String → String} {adapter : MaxAdapter}
  {request request' : CommunicationSendRequest} {key : String} {receipt : MaxSendReceipt}

theorem fingerprintText_inj (h : fingerprintText request = fingerprintText request') :
    request.actionId = request'.actionId ∧ request.body = request'.body ∧
      request.channel = request'.channel ∧ request.contactRef = request'.contactRef := by
  have hchars := String.ofList_injective h
  simp only [List.cons_append, List.append_assoc, List.cons.injEq, true_and] at hchars
  rcases JsonText.quoteUnicode_append_inj hchars with ⟨_, hchars⟩
  rcases JsonText.quoteUnicode_append_inj (List.cons.inj hchars).2 with ⟨haction, hchars⟩
  rcases JsonText.quoteUnicode_append_inj (List.cons.inj hchars).2 with ⟨_, hchars⟩
  rcases JsonText.quoteUnicode_append_inj (List.cons.inj hchars).2 with ⟨hbody, hchars⟩
  rcases JsonText.quoteUnicode_append_inj (List.cons.inj hchars).2 with ⟨_, hchars⟩
  rcases JsonText.quoteUnicode_append_inj (List.cons.inj hchars).2 with ⟨hchannel, hchars⟩
  rcases JsonText.quoteUnicode_append_inj (List.cons.inj hchars).2 with ⟨_, hchars⟩
  rcases JsonText.quoteUnicode_append_inj (List.cons.inj hchars).2 with ⟨hcontact, _⟩
  exact ⟨haction, hbody, hchannel, hcontact⟩

theorem receipt_deliver {hnone : adapter.receipt receipt.idempotencyKey = none} :
    (adapter.deliver receipt hnone).receipt key =
      if receipt.idempotencyKey = key then some receipt else adapter.receipt key := by
  rw [deliver, MaxAdapter.receipt, List.find?_cons, MaxAdapter.receipt]
  by_cases hsame : receipt.idempotencyKey = key
  · rw [if_pos hsame, hsame, beq_self_eq_true]
  · rw [if_neg hsame, beq_false_of_ne hsame]

/-- A receipt stays, whatever is sent after it. -/
theorem receipt_send (h : adapter.receipt key = some receipt) :
    (adapter.send sha256 request).2.receipt key = some receipt := by
  rw [send]
  split
  · exact h
  · split
    · split
      · exact h
      · exact h
    · rename_i hnone
      rw [receipt_deliver]
      have hother : request.idempotencyKey ≠ key := by
        rintro rfl
        rw [hnone] at h
        cases h
      rw [if_neg hother, h]

/-- A request that is answered leaves a receipt of what it asked. -/
theorem send_eq_ok {result : CommunicationSendResult}
    (h : (adapter.send sha256 request).1 = .ok result) :
    ∃ receipt, (adapter.send sha256 request).2.receipt request.idempotencyKey = some receipt ∧
      receipt.requestFingerprint = fingerprint sha256 request ∧
      result = MaxAdapter.result request receipt.externalMessageId := by
  rw [send] at h ⊢
  split at h
  · cases h
  · rename_i hchannel
    rw [if_neg hchannel]
    split at h
    · rename_i existing hexisting
      split at h
      · cases h
      · rename_i hsame
        rw [if_neg hsame]
        exact ⟨existing, hexisting, not_not.mp hsame, (Except.ok.inj h).symm⟩
    · rw [receipt_deliver, if_pos rfl]
      exact ⟨_, rfl, rfl, (Except.ok.inj h).symm⟩

/-- Every receipt names the message by its key. -/
def Named (adapter : MaxAdapter) : Prop :=
  ∀ key receipt, adapter.receipt key = some receipt →
    receipt.externalMessageId = externalMessageId key

theorem Named.send (h : Named adapter) : Named (adapter.send sha256 request).2 := by
  rw [MaxAdapter.send]
  split
  · exact h
  · split
    · split
      · exact h
      · exact h
    · intro key receipt hreceipt
      rw [receipt_deliver] at hreceipt
      split at hreceipt
      · rename_i hsame
        obtain rfl := Option.some.inj hreceipt
        rw [← hsame]
      · exact h key receipt hreceipt

end Answers

end MaxAdapter

end ShemaPlatform
