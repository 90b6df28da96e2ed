/-
The monitors and favorites that actors save: their tables, and the two calls that save
one unless the actor has it already.
-/
import Mathlib.Data.List.Sort
import ShemaPlatform.CounterpartyCheck
import ShemaPlatform.Identifiers
import ShemaPlatform.Transaction

namespace PyText

/-- `s.isdigit()` -/
def isdigit (s : String) : Bool :=
  s != "" && s.toList.all isDigit

end PyText

namespace ShemaPlatform

open Calendar ReadCommitted ReadCommitted.Prog

inductive SavedKind where
  | monitor | favorite
deriving DecidableEq

namespace SavedKind

/-- What the keys, hashes, events and audit records of a kind begin with. -/
def label : SavedKind → String
  | .monitor => "counterparty.monitor"
  | .favorite => "counterparty.favorite"

def resourceType : SavedKind → String
  | .monitor => "counterparty_monitor"
  | .favorite => "counterparty_favorite"

def idField : SavedKind → String
  | .monitor => "monitor_id"
  | .favorite => "favorite_id"

/-- The name of the event that announces an item. -/
def eventName : SavedKind → String → String
  | .monitor, itemId => s!"counterparty-monitor:{itemId}"
  | .favorite, itemId => s!"counterparty-favorite:{itemId}"

def permission : SavedKind → Permission
  | .monitor => .counterpartyMonitorManage
  | .favorite => .counterpartyFavoriteManage

def inProgress : SavedKind → String
  | .monitor => "counterparty monitoring request is already in progress"
  | .favorite => "counterparty favorite request is already in progress"

def missing : SavedKind → String
  | .monitor => "completed monitoring reservation references missing monitor"
  | .favorite => "completed favorite reservation references missing favorite"

/-- Only monitors have their identifier checked here. -/
def normalize : SavedKind → CounterpartyIdentifierType → String → Except Failure String
  | .monitor, identifierType, identifier =>
      validateCounterpartyIdentifier identifierType identifier
  | .favorite, _, identifier => .ok (PyText.strip identifier)

end SavedKind

/-- The unique columns of both tables. -/
structure SavedIdentity where
  actorId : String
  identifierType : CounterpartyIdentifierType
  identifier : String
deriving DecidableEq

/-- A row of `counterparty_monitor` with all its columns. -/
structure SavedMonitor where
  monitor : CounterpartyMonitor
  createdAt : Instant
  updatedAt : Instant
deriving DecidableEq

/-- A row of `counterparty_favorite`. -/
structure CounterpartyFavorite where
  favoriteId : String
  actorId : String
  identifierType : CounterpartyIdentifierType
  identifier : String
  createdAt : Instant
  valid : PyText.blank favoriteId = false ∧ PyText.blank actorId = false ∧
    PyText.isdigit identifier = true
deriving DecidableEq

@[reducible] def SavedItem : SavedKind → Type
  | .monitor => SavedMonitor
  | .favorite => CounterpartyFavorite

instance : (kind : SavedKind) → DecidableEq (SavedItem kind)
  | .monitor => inferInstanceAs (DecidableEq SavedMonitor)
  | .favorite => inferInstanceAs (DecidableEq CounterpartyFavorite)

namespace SavedItem

def itemId : {kind : SavedKind} → SavedItem kind → String
  | .monitor, item => item.monitor.monitorId
  | .favorite, item => item.favoriteId

def identity : {kind : SavedKind} → SavedItem kind → SavedIdentity
  | .monitor, item =>
      ⟨item.monitor.actorId, item.monitor.identifierType, item.monitor.identifier⟩
  | .favorite, item => ⟨item.actorId, item.identifierType, item.identifier⟩

def createdAt : {kind : SavedKind} → SavedItem kind → Instant
  | .monitor, item => SavedMonitor.createdAt item
  | .favorite, item => CounterpartyFavorite.createdAt item

/-- `order by created_at desc, monitor_id desc` and the like -/
def latestFirst {kind : SavedKind} (a b : SavedItem kind) : Prop :=
  b.createdAt < a.createdAt ∨ (a.createdAt = b.createdAt ∧ b.itemId ≤ a.itemId)

instance {kind : SavedKind} : DecidableRel (@latestFirst kind) := fun _ _ =>
  inferInstanceAs (Decidable (_ ∨ (_ ∧ _)))

end SavedItem

inductive SaveKey where
  | item (kind : SavedKind) (itemId : String)
  | identity (kind : SavedKind) (identity : SavedIdentity)
  | idempotencyKey (key : String)
  | outboxEvent (eventId : String)
  | auditLog (auditId : String)
deriving DecidableEq

/-- The unique columns keep which row has their value. -/
@[reducible] def SaveRow : SaveKey → Type
  | .item kind _ => SavedItem kind
  | .identity _ _ => String
  | .idempotencyKey _ => IdempotencyRecord
  | .outboxEvent _ => OutboxEvent
  | .auditLog _ => AuditRecord

abbrev SaveRows := Rows SaveRow

abbrev SaveTx := Prog Unit SaveRow Failure

namespace SaveIdempotency

def reserve (key requestHash resultRef : String) : SaveTx IdempotencyRecord := do
  let inserted ← insertNew (SaveKey.idempotencyKey key) ⟨key, requestHash, resultRef⟩
  if inserted then
    return ⟨key, requestHash, resultRef⟩
  else
    match ← select (SaveKey.idempotencyKey key) with
    | none => raise (.integrityViolation "idempotency reservation disappeared")
    | some existing => do
        lift (require (existing.requestHash == requestHash)
          (.idempotencyConflict "idempotency key reused with different request"))
        return existing

/-- The row of `key` must be pending, or is left as it is. -/
def complete (key requestHash resultRef : String) : SaveTx IdempotencyRecord := do
  lift (require (!PyText.blank resultRef) (.valueError "result_ref is required"))
  match ← selectForUpdate (SaveKey.idempotencyKey key) with
  | none => raise (.idempotencyConflict "idempotency completion has no reservation")
  | some existing => do
      lift (require (existing.requestHash == requestHash)
        (.idempotencyConflict "idempotency key reused with different request"))
      if !(existing.resultRef == "" || PyText.startsWith existing.resultRef "pending:") then
        return existing
      else
        match ← updateWhere (SaveKey.idempotencyKey key) fun (row : IdempotencyRecord) =>
            if row.requestHash = requestHash then some { row with resultRef } else none with
        | none => raise (.integrityViolation "idempotency completion disappeared")
        | some updated => return updated

end SaveIdempotency

namespace SavedItemRepository

def get (kind : SavedKind) (itemId : String) : SaveTx (Option (SavedItem kind)) :=
  select (SaveKey.item kind itemId)

/-- A row of the table of a kind. -/
def entry : (kind : SavedKind) → (Σ key, SaveRow key) → Option (String × SavedItem kind)
  | .monitor, ⟨.item .monitor itemId, row⟩ => some (itemId, row)
  | .favorite, ⟨.item .favorite itemId, row⟩ => some (itemId, row)
  | _, _ => none

/-- The items of an actor. -/
def itemsOf (kind : SavedKind) (actorId : String) (rows : SaveRows) : List (SavedItem kind) :=
  ((rows.live.filterMap (entry kind)).map Prod.snd).filter fun item =>
    item.identity.actorId == actorId

/-- `list_monitors` and `list_favorites` -/
def list (kind : SavedKind) (actorId : String) : SaveTx (List (SavedItem kind)) :=
  scan fun rows => (itemsOf kind actorId rows).insertionSort SavedItem.latestFirst

/-- The insertion of both tables, that conflicts with an item of the same identity. -/
def insertItem (kind : SavedKind) (item : SavedItem kind) (duplicate : Failure) :
    SaveTx Unit := do
  let inserted ← insertNew (SaveKey.identity kind item.identity) item.itemId
  if inserted then
    insert (SaveKey.item kind item.itemId) item duplicate
  else
    return ()

def addMonitor (item : SavedItem .monitor) : SaveTx Unit := do
  insertItem .monitor item (.uniqueViolation "counterparty_monitor_pkey")
  match ← get .monitor item.itemId with
  | none =>
      match ← select (SaveKey.identity .monitor item.identity) with
      | none => raise (.integrityViolation "monitor disappeared after insert")
      | some (_ : String) => raise (.idempotencyConflict "counterparty monitor already exists")
  | some stored =>
      lift (require (decide (stored = item))
        (.idempotencyConflict "counterparty monitor already exists"))

def addFavorite (item : SavedItem .favorite) : SaveTx Unit := do
  insertItem .favorite item (.uniqueViolation "counterparty_favorite_pkey")
  match ← get .favorite item.itemId with
  | none => raise (.integrityViolation "favorite disappeared after insert")
  | some stored =>
      lift (require (decide (stored = item))
        (.idempotencyConflict "counterparty favorite already exists"))

def add : (kind : SavedKind) → SavedItem kind → SaveTx Unit
  | .monitor => addMonitor
  | .favorite => addFavorite

end SavedItemRepository

namespace SaveAudits

def append (record : AuditRecord) : SaveTx Unit := do
  let record ← lift record.new
  insert (SaveKey.auditLog record.auditId) record (.uniqueViolation "audit_log_pkey")

end SaveAudits

namespace SaveOutbox

def append (event : OutboxEvent) : SaveTx OutboxEvent := do
  let inserted ← insertNew (SaveKey.outboxEvent event.eventId) event
  if inserted then
    return event
  else
    match ← select (SaveKey.outboxEvent event.eventId) with
    | none => raise (.integrityViolation "outbox event disappeared")
    | some existing => do
        lift (require (existing == event) (.integrityViolation
          "outbox event_id collision with different event"))
        return existing

end SaveOutbox

/-- The arguments of a call, with the ids that `uuid4` hands out in it. -/
structure SaveCall where
  identifierType : CounterpartyIdentifierType
  identifier : String
  actorId : String
  permissions : List Permission
  idempotencyKey : String
  correlationId : String
  now : Instant
  itemId : String
  auditId : String
  uuid : PyText.blank itemId = false ∧ PyText.startsWith itemId "pending:" = false ∧
    PyText.blank auditId = false

namespace SaveCall

variable (sha256 uuid5 : String → String) (call : SaveCall)

/-- `_authorize` -/
def authorize (kind : SavedKind) : Except Failure Unit :=
  RBACAuthorizer.require ⟨[(call.actorId, call.permissions)]⟩ call.actorId kind.permission

def reservationKey (kind : SavedKind) : String :=
  s!"{kind.label}:{call.actorId}:{call.idempotencyKey}"

/-- What is hashed of a request. -/
def requestText (kind : SavedKind) (normalized : String) : String :=
  String.intercalate "|" [kind.label, call.actorId, call.identifierType.value, normalized]

def pendingRef : String := s!"pending:{call.itemId}"

/-- What an item of this call is known by. -/
def identity (normalized : String) : SavedIdentity :=
  ⟨call.actorId, call.identifierType, normalized⟩

/-- `CounterpartyMonitor(…)` -/
def newMonitor (normalized : String) : Except Failure (SavedItem .monitor) :=
  if hids : PyText.blank call.itemId = false ∧ PyText.blank call.actorId = false then
    if PyText.isdigit normalized then
      .ok
        { monitor :=
            { monitorId := call.itemId
              actorId := call.actorId
              identifierType := call.identifierType
              identifier := normalized
              status := .active
              frequencySeconds := 86400
              nextCheckAt := call.now
              lastCheckedAt := none
              lastSnapshotId := none
              lastErrorCode := none
              lastErrorAt := none
              valid := ⟨hids.1, hids.2, Int.sign_eq_one_iff_pos.mp rfl⟩ }
          createdAt := call.now
          updatedAt := call.now }
    else .error (.valueError "counterparty identifier must contain digits only")
  else .error (.valueError "monitor_id and actor_id are required")

/-- `CounterpartyFavorite(…)` -/
def newFavorite (normalized : String) : Except Failure (SavedItem .favorite) :=
  if hids : PyText.blank call.itemId = false ∧ PyText.blank call.actorId = false then
    if hdigits : PyText.isdigit normalized = true then
      .ok
        { favoriteId := call.itemId
          actorId := call.actorId
          identifierType := call.identifierType
          identifier := normalized
          createdAt := call.now
          valid := ⟨hids.1, hids.2, hdigits⟩ }
    else .error (.valueError "counterparty identifier must contain digits only")
  else .error (.valueError "favorite_id and actor_id are required")

def newItem : (kind : SavedKind) → String → Except Failure (SavedItem kind)
  | .monitor => call.newMonitor
  | .favorite => call.newFavorite

def auditRecord (kind : SavedKind) (normalized itemId : String) : AuditRecord where
  auditId := call.auditId
  actorId := call.actorId
  action := kind.label ++ ".created"
  resourceType := kind.resourceType
  resourceId := itemId
  outcome := "success"
  occurredAt := call.now
  metadata := [("identifier_type", .text call.identifierType.value),
    ("identifier", .text normalized)] ++
      match kind with
      | .monitor => [("frequency_seconds", .number 86400)]
      | .favorite => []
  correlationId := some call.correlationId

def outboxEvent (kind : SavedKind) (normalized itemId : String) : OutboxEvent where
  eventId := uuid5 (kind.eventName itemId)
  eventType := kind.label ++ ".created"
  aggregateType := kind.resourceType
  aggregateId := itemId
  payload := [(kind.idField, .text itemId), ("actor_id", .text call.actorId),
    ("identifier_type", .text call.identifierType.value), ("identifier", .text normalized)]
  occurredAt := call.now

/-- What is done when the actor has no such item. -/
def create (kind : SavedKind) (normalized : String) : SaveTx (SavedItem kind) := do
  let item ← lift (call.newItem kind normalized)
  SavedItemRepository.add kind item
  let _ ← SaveIdempotency.complete (call.reservationKey kind)
    (sha256 (call.requestText kind normalized)) item.itemId
  SaveAudits.append (call.auditRecord kind normalized item.itemId)
  let _ ← SaveOutbox.append (call.outboxEvent uuid5 kind normalized item.itemId)
  return item

/-- An item of the actor that is asked for. -/
def wants {kind : SavedKind} (normalized : String) (item : SavedItem kind) : Bool :=
  item.identity.identifierType == call.identifierType && item.identity.identifier == normalized

/-- What is done under a new reservation. -/
def findOrCreate (kind : SavedKind) (normalized : String) : SaveTx (SavedItem kind) := do
  let items ← SavedItemRepository.list kind call.actorId
  match items.find? (call.wants normalized) with
  | some item => do
      let _ ← SaveIdempotency.complete (call.reservationKey kind)
        (sha256 (call.requestText kind normalized)) item.itemId
      return item
  | none => call.create sha256 uuid5 kind normalized

/-- What is done when the key was used before. -/
def replay (kind : SavedKind) (resultRef : String) : SaveTx (SavedItem kind) := do
  lift (require (!PyText.startsWith resultRef "pending:")
    (.idempotencyConflict kind.inProgress))
  match ← SavedItemRepository.get kind resultRef with
  | none => raise (.integrityViolation kind.missing)
  | some stored => return stored

def save (kind : SavedKind) : SaveTx (SavedItem kind) := do
  lift (call.authorize kind)
  let normalized ← lift (kind.normalize call.identifierType call.identifier)
  let reservation ← SaveIdempotency.reserve (call.reservationKey kind)
    (sha256 (call.requestText kind normalized)) call.pendingRef
  if reservation.resultRef ≠ call.pendingRef then
    replay kind reservation.resultRef
  else
    call.findOrCreate sha256 uuid5 kind normalized

/-- `save_monitoring` -/
def saveMonitoring : SaveTx (SavedItem .monitor) := call.save sha256 uuid5 .monitor

/-- `save_favorite` -/
def saveFavorite : SaveTx (SavedItem .favorite) := call.save sha256 uuid5 .favorite

end SaveCall

end ShemaPlatform
