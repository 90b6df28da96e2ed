/-
What calls that save items come to when they are made one after another: a book of the keys
that are bound and of the items that there are, and that the tables follow it.
-/
import ShemaPlatform.SavedItemRuns

namespace ShemaPlatform

open Calendar ReadCommitted ReadCommitted.Prog

/-- What a monitor keeps besides what a favorite has. -/
structure MonitorContent where
  status : MonitoringStatus
  frequencySeconds : ℤ
  nextCheckAt : Instant
  lastCheckedAt : Option Instant
  lastSnapshotId : Option String
  lastErrorCode : Option String
  lastErrorAt : Option Instant
  updatedAt : Instant
deriving DecidableEq

/-- An item without its generated id. -/
structure SavedContent where
  identity : SavedIdentity
  createdAt : Instant
  monitor : Option MonitorContent
deriving DecidableEq

namespace SavedContent

def ofItem : {kind : SavedKind} → SavedItem kind → SavedContent
  | .monitor, item =>
      { identity := SavedItem.identity item
        createdAt := SavedMonitor.createdAt item
        monitor := some
          { status := item.monitor.status
            frequencySeconds := item.monitor.frequencySeconds
            nextCheckAt := item.monitor.nextCheckAt
            lastCheckedAt := item.monitor.lastCheckedAt
            lastSnapshotId := item.monitor.lastSnapshotId
            lastErrorCode := item.monitor.lastErrorCode
            lastErrorAt := item.monitor.lastErrorAt
            updatedAt := item.updatedAt } }
  | .favorite, item => ⟨SavedItem.identity item, CounterpartyFavorite.createdAt item, none⟩

/-- An item as it is when it is made. -/
def new (kind : SavedKind) (identity : SavedIdentity) (createdAt : Instant) : SavedContent where
  identity := identity
  createdAt := createdAt
  monitor :=
    match kind with
    | .monitor => some ⟨.active, 86400, createdAt, none, none, none, none, createdAt⟩
    | .favorite => none

@[simp] theorem identity_ofItem {kind : SavedKind} (item : SavedItem kind) :
    (ofItem item).identity = item.identity := by
  cases kind <;> rfl

@[simp] theorem identity_new (kind : SavedKind) (identity : SavedIdentity)
    (createdAt : Instant) : (new kind identity createdAt).identity = identity := rfl

@[simp] theorem createdAt_new (kind : SavedKind) (identity : SavedIdentity)
    (createdAt : Instant) : (new kind identity createdAt).createdAt = createdAt := rfl

end SavedContent

namespace SaveRequest

/-- What is checked of a request before its key is looked at. -/
def enters (request : SaveRequest) : Except Failure String := do
  request.call.authorize request.kind
  request.normalized

/-- A request that binds its key when the key is free. -/
def accepted (request : SaveRequest) : Bool :=
  match request.enters with
  | .ok normalized => (request.call.newItem request.kind normalized).isOk
  | .error _ => false

def identity (request : SaveRequest) (normalized : String) : SavedIdentity :=
  request.call.identity normalized

/-- One call, from its first statement to its last. -/
def perform (sha256 uuid5 : String → String) (request : SaveRequest) (rows : SaveRows) :
    Except Failure SaveAnswer × SaveRows :=
  match (request.body sha256 uuid5).atomically () rows with
  | .ok (answer, rows') => (.ok answer, rows')
  | .error error => (.error error, rows)

end SaveRequest

/-- The texts of the requests that keys are bound to, and when items were made. -/
structure SavingBook where
  bound : String → Option String
  created : SavedKind → SavedIdentity → Option Instant

namespace SavingBook

def empty : SavingBook :=
  ⟨fun _ => none, fun _ _ => none⟩

variable (book : SavingBook) (request : SaveRequest)

/-- When the item of a request was made, if not now. -/
def createdAt (normalized : String) : Instant :=
  (book.created request.kind (request.identity normalized)).getD request.call.now

/-- Whether the key of a request lets it pass. -/
def admits (normalized : String) : Except Failure Unit :=
  match book.bound request.key with
  | some text => require (text == request.text normalized)
      (.idempotencyConflict "idempotency key reused with different request")
  | none => (request.call.newItem request.kind normalized).map fun _ => ()

def answer : Except Failure SavedContent := do
  let normalized ← request.enters
  book.admits request normalized
  return .new request.kind (request.identity normalized) (book.createdAt request normalized)

def bind (normalized : String) : SavingBook where
  bound := Function.update book.bound request.key (some (request.text normalized))
  created kind identity :=
    if kind = request.kind ∧ identity = request.identity normalized then
      some (book.createdAt request normalized)
    else book.created kind identity

theorem bound_bind_self (normalized : String) :
    (book.bind request normalized).bound request.key = some (request.text normalized) :=
  Function.update_self ..

theorem bound_bind_of_ne (normalized : String) {key : String} (hkey : request.key ≠ key) :
    (book.bind request normalized).bound key = book.bound key :=
  Function.update_of_ne hkey.symm ..

theorem created_bind (normalized : String) (kind : SavedKind) (identity : SavedIdentity) :
    (book.bind request normalized).created kind identity =
      if kind = request.kind ∧ identity = request.identity normalized then
        some (book.createdAt request normalized)
      else book.created kind identity := rfl

/-- The book after a request. -/
def after : SavingBook :=
  match request.enters with
  | .ok normalized => if (book.admits request normalized).isOk then book.bind request normalized
      else book
  | .error _ => book

variable {book request}

theorem answer_of_error {error : Failure} (h : request.enters = .error error) :
    book.answer request = .error error := by
  rw [answer, h]
  rfl

theorem after_of_error {error : Failure} (h : request.enters = .error error) :
    book.after request = book := by
  rw [after, h]

variable {normalized : String}

theorem answer_of_enters (h : request.enters = .ok normalized) :
    book.answer request = (book.admits request normalized).map fun _ =>
      .new request.kind (request.identity normalized) (book.createdAt request normalized) := by
  rw [answer, h]
  cases hadmits : book.admits request normalized with
  | ok passed =>
      change (book.admits request normalized >>= fun _ => _) = _
      rw [hadmits]
      rfl
  | error error =>
      change (book.admits request normalized >>= fun _ => _) = _
      rw [hadmits]
      rfl

theorem after_of_admits (h : request.enters = .ok normalized)
    (hadmits : book.admits request normalized = .ok ()) :
    book.after request = book.bind request normalized := by
  rw [after, h]
  simp only [hadmits]
  rfl

theorem after_of_refuses (h : request.enters = .ok normalized) {error : Failure}
    (hadmits : book.admits request normalized = .error error) :
    book.after request = book := by
  rw [after, h]
  simp only [hadmits]
  rfl

end SavingBook

section Requests

variable {request : SaveRequest} {call : SaveCall} {kind : SavedKind} {normalized : String}
  {item : SavedItem kind} {sha256 uuid5 : String → String} {rows : SaveRows}

theorem enters_eq_ok : request.enters = .ok normalized ↔
    request.call.authorize request.kind = .ok () ∧ request.normalized = .ok normalized := by
  simp only [SaveRequest.enters, bind_eq_ok]
  constructor
  · rintro ⟨_, hauthorized, hnormalized⟩
    exact ⟨hauthorized, hnormalized⟩
  · exact fun h => ⟨(), h⟩

theorem newItem_isOk : (∃ item, call.newItem kind normalized = .ok item) ↔
    PyText.blank call.actorId = false ∧ PyText.isdigit normalized = true := by
  cases kind with
  | monitor =>
      simp only [SaveCall.newItem, SaveCall.newMonitor, call.uuid.1, true_and]
      by_cases hactor : PyText.blank call.actorId = false
      · by_cases hdigits : PyText.isdigit normalized = true
        · simp [hactor, hdigits]
        · simp [hactor, hdigits]
      · simp [hactor]
  | favorite =>
      simp only [SaveCall.newItem, SaveCall.newFavorite, call.uuid.1, true_and]
      by_cases hactor : PyText.blank call.actorId = false
      · by_cases hdigits : PyText.isdigit normalized = true
        · simp [hactor, hdigits]
        · simp [hactor, hdigits]
      · simp [hactor]

theorem accepted_iff : request.accepted = true ↔ ∃ normalized, request.enters = .ok normalized ∧
    ∃ item, request.call.newItem request.kind normalized = .ok item := by
  rw [SaveRequest.accepted]
  cases request.enters with
  | ok normalized =>
      cases hitem : request.call.newItem request.kind normalized with
      | ok item => simp [hitem, Except.isOk, Except.toBool]
      | error error => simp [hitem, Except.isOk, Except.toBool]
  | error error => simp

theorem ofItem_newItem (h : call.newItem kind normalized = .ok item) :
    SavedContent.ofItem item = .new kind (call.identity normalized) call.now := by
  cases kind with
  | monitor =>
      simp only [SaveCall.newItem, SaveCall.newMonitor] at h
      split at h
      · split at h
        · obtain rfl := Except.ok.inj h
          rfl
        · cases h
      · cases h
  | favorite =>
      simp only [SaveCall.newItem, SaveCall.newFavorite] at h
      split at h
      · split at h
        · obtain rfl := Except.ok.inj h
          rfl
        · cases h
      · cases h

theorem execute_body : (request.body sha256 uuid5).execute () rows [] =
    ((request.call.save sha256 uuid5 request.kind).execute () rows []).map fun result =>
      (⟨request.kind, result.1⟩, result.2) := by
  rw [SaveRequest.body, execute_bind]
  cases (request.call.save sha256 uuid5 request.kind).execute () rows [] with
  | ok result => rfl
  | error error => rfl

theorem execute_save_refused {error : Failure} (h : request.enters = .error error) :
    (request.call.save sha256 uuid5 request.kind).execute () rows [] = .error error := by
  rw [SaveRequest.enters] at h
  rw [SaveCall.save, execute_bind]
  cases hauthorized : request.call.authorize request.kind with
  | error refused =>
      rw [hauthorized] at h
      exact congrArg Except.error (Except.error.inj h)
  | ok passed =>
      rw [hauthorized] at h
      have hnormalized : request.kind.normalize request.call.identifierType
          request.call.identifier = .error error := h
      simp only [execute_lift_ok, execute_bind, hnormalized, execute_lift_error]

end Requests

section Saved

variable {sha256 uuid5 : String → String} {call : SaveCall} {kind : SavedKind}
  {normalized : String} {item : SavedItem kind} {rows rows' : SaveRows}

/-- A call binds its key, and no other. -/
theorem Saved.binds (h : Saved sha256 uuid5 call kind normalized item rows rows')
    (hfree : rows.get (SaveKey.item kind call.itemId) = none) :
    (∃ record : IdempotencyRecord,
      rows'.get (SaveKey.idempotencyKey (call.reservationKey kind)) = some record ∧
        record.requestHash = sha256 (call.requestText kind normalized)) ∧
    ∀ key, call.reservationKey kind ≠ key →
      rows'.get (SaveKey.idempotencyKey key) = rows.get (SaveKey.idempotencyKey key) := by
  cases h with
  | replays record hrecord hhash hitem hrows =>
      exact ⟨⟨record, (hrows _).trans hrecord, hhash⟩, fun key _ => hrows _⟩
  | finds itemId hkey hitem hidentity hrows =>
      constructor
      · exact ⟨_, (hrows _).trans (Rows.get_cons_self _ _ _), rfl⟩
      · intro key hne
        rw [hrows, Rows.get_cons_ne (by simpa using hne)]
  | creates hcreates =>
      constructor
      · exact ⟨_, hcreates.get.2.2.1, rfl⟩
      · intro key hne
        rcases hcreates.cases (SaveKey.idempotencyKey key) with h | h | h | h | h | h
        · cases h
        · cases h
        · exact absurd (SaveKey.idempotencyKey.inj h).symm hne
        · cases h
        · cases h
        · exact h
  | clashes htaken hkeeps hrecords hitems => exact absurd hfree htaken

/-- A call writes at most the identity of its own item. -/
theorem Saved.identity_cases (h : Saved sha256 uuid5 call kind normalized item rows rows')
    (hfree : rows.get (SaveKey.item kind call.itemId) = none) (kind' : SavedKind)
    (identity : SavedIdentity) :
    rows'.get (SaveKey.identity kind' identity) = rows.get (SaveKey.identity kind' identity) ∨
      kind' = kind ∧ identity = item.identity := by
  cases h with
  | replays record hrecord hhash hitem hrows => exact Or.inl (hrows _)
  | finds itemId hkey hitem hidentity hrows =>
      rw [hrows, Rows.get_cons_ne (by simp)]
      exact Or.inl rfl
  | creates hcreates =>
      rcases hcreates.cases (SaveKey.identity kind' identity) with h | h | h | h | h | h
      · cases h
      · cases h
      · cases h
      · cases h
      · exact Or.inr (SaveKey.identity.inj h)
      · exact Or.inl h
  | clashes htaken hkeeps hrecords hitems => exact absurd hfree htaken

theorem Saved.audit_cases (h : Saved sha256 uuid5 call kind normalized item rows rows')
    (hfree : rows.get (SaveKey.item kind call.itemId) = none) {auditId : String}
    {record : AuditRecord} (hrecord : rows'.get (SaveKey.auditLog auditId) = some record) :
    rows.get (SaveKey.auditLog auditId) = some record ∨ auditId = call.auditId := by
  cases h with
  | replays record hrecord' hhash hitem hrows => exact Or.inl ((hrows _).symm.trans hrecord)
  | finds itemId hkey hitem hidentity hrows =>
      rw [hrows, Rows.get_cons_ne (by simp)] at hrecord
      exact Or.inl hrecord
  | creates hcreates => exact (hcreates.audit_cases hrecord).imp_right And.left
  | clashes htaken hkeeps hrecords hitems => exact absurd hfree htaken

theorem Saved.event_cases (h : Saved sha256 uuid5 call kind normalized item rows rows')
    (hfree : rows.get (SaveKey.item kind call.itemId) = none) {eventId : String}
    {event : OutboxEvent} (hevent : rows'.get (SaveKey.outboxEvent eventId) = some event) :
    rows.get (SaveKey.outboxEvent eventId) = some event ∨
      eventId = uuid5 (kind.eventName call.itemId) := by
  cases h with
  | replays record hrecord hhash hitem hrows => exact Or.inl ((hrows _).symm.trans hevent)
  | finds itemId hkey hitem hidentity hrows =>
      rw [hrows, Rows.get_cons_ne (by simp)] at hevent
      exact Or.inl hevent
  | creates hcreates =>
      rw [← (SaveCall.newItem_eq_ok hcreates.made).1]
      exact (hcreates.event_cases hevent).imp_right And.left
  | clashes htaken hkeeps hrecords hitems => exact absurd hfree htaken

end Saved

/-- A request that comes after these: the ids that it draws are new, and its text is not
confused with theirs. -/
structure SaveRequest.Follows (sha256 uuid5 : String → String) (past : List SaveRequest)
    (request : SaveRequest) : Prop where
  itemId : ∀ other ∈ past, other.call.itemId ≠ request.call.itemId
  auditId : ∀ other ∈ past, other.call.auditId ≠ request.call.auditId
  eventId : ∀ other ∈ past, uuid5 (other.kind.eventName other.call.itemId) ≠
    uuid5 (request.kind.eventName request.call.itemId)
  told : ∀ other ∈ past, other.Told sha256 request

/-- The tables as the book has them. -/
structure Kept (sha256 uuid5 : String → String) (past : List SaveRequest) (book : SavingBook)
    (rows : SaveRows) : Prop where
  ledger : SavedLedger sha256 uuid5 (· ∈ past) rows
  bound : ∀ key, (rows.get (SaveKey.idempotencyKey key)).map IdempotencyRecord.requestHash =
    (book.bound key).map sha256
  texts : ∀ key text, book.bound key = some text →
    ∃ request ∈ past, ∃ normalized, request.key = key ∧
      request.enters = .ok normalized ∧ text = request.text normalized
  made : ∀ kind identity createdAt, book.created kind identity = some createdAt →
    ∃ itemId, ∃ item : SavedItem kind, rows.get (SaveKey.item kind itemId) = some item ∧
      SavedContent.ofItem item = .new kind identity createdAt ∧
      PyText.blank identity.actorId = false ∧ PyText.isdigit identity.identifier = true
  absent : ∀ kind identity, book.created kind identity = none →
    rows.get (SaveKey.identity kind identity) = none
  audits : ∀ auditId (record : AuditRecord), rows.get (SaveKey.auditLog auditId) = some record →
    ∃ request ∈ past, request.call.auditId = auditId
  events : ∀ eventId (event : OutboxEvent),
    rows.get (SaveKey.outboxEvent eventId) = some event →
      ∃ request ∈ past, uuid5 (request.kind.eventName request.call.itemId) = eventId

namespace Kept

variable {sha256 uuid5 : String → String} {past : List SaveRequest} {book : SavingBook}
  {rows rows' : SaveRows} {request : SaveRequest} {normalized : String}

theorem nil : Kept sha256 uuid5 [] .empty [] where
  ledger := SavedLedger.nil
  bound _ := rfl
  texts _ _ h := by cases h
  made _ _ _ h := by cases h
  absent _ _ _ := rfl
  audits _ _ h := by cases h
  events _ _ h := by cases h

/-- An item is in the book as it was made. -/
theorem content (h : Kept sha256 uuid5 past book rows) {kind : SavedKind} {itemId : String}
    {item : SavedItem kind} (hitem : rows.get (SaveKey.item kind itemId) = some item) :
    ∃ createdAt, book.created kind item.identity = some createdAt ∧
      SavedContent.ofItem item = .new kind item.identity createdAt ∧
      PyText.blank item.identity.actorId = false ∧
      PyText.isdigit item.identity.identifier = true := by
  cases hcreated : book.created kind item.identity with
  | none =>
      have hindex := (h.ledger.owned kind itemId item hitem).1
      rw [h.absent kind _ hcreated] at hindex
      cases hindex
  | some createdAt =>
      obtain ⟨otherId, other, hother, hcontent, hvalid⟩ := h.made kind _ createdAt hcreated
      have hsame : item.identity = other.identity := by
        rw [← SavedContent.identity_ofItem other, hcontent, SavedContent.identity_new]
      obtain ⟨rfl, rfl⟩ := h.ledger.unique hitem hother hsame
      exact ⟨createdAt, rfl, hcontent, hvalid⟩

/-- A call that comes to an item of its own identity answers as the book says. -/
theorem content_of_identity (h : Kept sha256 uuid5 past book rows) {itemId : String}
    {item : SavedItem request.kind}
    (hitem : rows.get (SaveKey.item request.kind itemId) = some item)
    (hidentity : item.identity = request.identity normalized) :
    SavedContent.ofItem item = .new request.kind (request.identity normalized)
        (book.createdAt request normalized) ∧
      ∃ made, request.call.newItem request.kind normalized = .ok made := by
  obtain ⟨createdAt, hcreated, hcontent, hactor, hdigits⟩ := h.content hitem
  rw [hidentity] at hcreated hcontent hactor hdigits
  constructor
  · rw [SavingBook.createdAt, hcreated, Option.getD_some]
    exact hcontent
  · exact newItem_isOk.mpr ⟨hactor, hdigits⟩

/-- A call whose key is bound gets the item it was bound for, or is refused. -/
theorem execute_bound (h : Kept sha256 uuid5 past book rows)
    (hfollows : request.Follows sha256 uuid5 past)
    (henters : request.enters = .ok normalized) {text : String}
    (hbound : book.bound request.key = some text) :
    if text = request.text normalized then
      (∃ item, (request.call.save sha256 uuid5 request.kind).execute () rows [] =
          .ok (item, []) ∧
        SavedContent.ofItem item = .new request.kind (request.identity normalized)
          (book.createdAt request normalized)) ∧
        ∃ made, request.call.newItem request.kind normalized = .ok made
    else (request.call.save sha256 uuid5 request.kind).execute () rows [] =
      .error (.idempotencyConflict "idempotency key reused with different request") := by
  obtain ⟨hauthorized, hnormalized⟩ := enters_eq_ok.mp henters
  obtain ⟨record, hrecord, hhash⟩ : ∃ record : IdempotencyRecord,
      rows.get (SaveKey.idempotencyKey request.key) = some record ∧
        record.requestHash = sha256 text := by
    have hkey := h.bound request.key
    rw [hbound, Option.map_some] at hkey
    exact Option.map_eq_some_iff.mp hkey
  obtain ⟨bound, normalized', _, hkey, _, _, item, hitem, _⟩ := h.ledger.records _ _ hrecord
  obtain ⟨kind, call⟩ := bound
  obtain rfl : kind = request.kind := kind_of_reservationKey hkey
  have hrun : (request.call.save sha256 uuid5 request.kind).execute () rows [] =
      if record.requestHash = sha256 (request.text normalized) then .ok (item, [])
      else .error (.idempotencyConflict "idempotency key reused with different request") :=
    execute_save_bound hauthorized hnormalized hrecord (h.ledger.done _ _ hrecord) hitem
  by_cases htext : text = request.text normalized
  · rw [if_pos htext]
    rw [htext] at hhash
    rw [if_pos hhash] at hrun
    obtain ⟨found, hfound, hidentity⟩ := h.ledger.bound hfollows.told hnormalized hrecord hhash
    obtain ⟨hcontent, hmade⟩ := h.content_of_identity hfound hidentity
    obtain rfl := Option.some.inj (hitem.symm.trans hfound)
    exact ⟨⟨item, hrun, hcontent⟩, hmade⟩
  · rw [if_neg htext]
    rw [if_neg] at hrun
    · exact hrun
    · intro hsame
      obtain ⟨other, hother, normalized'', _, hother', rfl⟩ := h.texts _ _ hbound
      exact htext (hfollows.told other hother _ _ (enters_eq_ok.mp hother').2 hnormalized
        (hhash.symm.trans hsame))

/-- A call whose key is free gets an item unless none can be made. -/
theorem execute_free (h : Kept sha256 uuid5 past book rows)
    (hfollows : request.Follows sha256 uuid5 past)
    (henters : request.enters = .ok normalized) (hbound : book.bound request.key = none) :
    (∀ made, request.call.newItem request.kind normalized = .ok made →
      ∃ item own, (request.call.save sha256 uuid5 request.kind).execute () rows [] =
          .ok (item, own) ∧
        SavedContent.ofItem item = .new request.kind (request.identity normalized)
          (book.createdAt request normalized)) ∧
    ∀ error, request.call.newItem request.kind normalized = .error error →
      (request.call.save sha256 uuid5 request.kind).execute () rows [] = .error error := by
  obtain ⟨hauthorized, hnormalized⟩ := enters_eq_ok.mp henters
  have hfree : rows.get (SaveKey.idempotencyKey (request.call.reservationKey request.kind)) =
      none := by
    have hkey := h.bound request.key
    rw [hbound, Option.map_none, Option.map_eq_none_iff] at hkey
    exact hkey
  rw [execute_save_free hauthorized hnormalized hfree]
  cases hfound : ((SavedItemRepository.itemsOf request.kind request.call.actorId
      (request.call.reserving sha256 request.kind normalized ++ rows)).insertionSort
        SavedItem.latestFirst).find? (request.call.wants normalized) with
  | some item =>
      obtain ⟨⟨itemId, hstored⟩, hidentity⟩ := identity_of_found hfound
      rw [reserving_reserving.get (by simp)] at hstored
      obtain ⟨hcontent, made, hmade⟩ := h.content_of_identity hstored hidentity
      constructor
      · exact fun _ _ => ⟨item, _, execute_found hfound (blank_itemId item), hcontent⟩
      · intro error herror
        cases hmade.symm.trans herror
  | none =>
      constructor
      · intro made hmade
        obtain ⟨hid, hidentity⟩ := SaveCall.newItem_eq_ok hmade
        have hunowned : rows.get (SaveKey.identity request.kind made.identity) = none := by
          cases hindex : rows.get (SaveKey.identity request.kind made.identity) with
          | none => rfl
          | some itemId =>
              obtain ⟨item, hitem, hsame⟩ := h.ledger.identities _ _ _ hindex
              have := h.ledger.found hitem (hsame.trans hidentity)
              rw [hfound] at this
              cases this
        have hitem : rows.get (SaveKey.item request.kind made.itemId) = none := by
          rw [hid]
          exact h.ledger.fresh hfollows.itemId request.kind
        have haudit : rows.get (SaveKey.auditLog request.call.auditId) = none := by
          cases hrecord : rows.get (SaveKey.auditLog request.call.auditId) with
          | none => rfl
          | some record =>
              obtain ⟨other, hother, hsame⟩ := h.audits _ record hrecord
              exact absurd hsame (hfollows.auditId other hother)
        have hevent : rows.get (SaveKey.outboxEvent
            (uuid5 (request.kind.eventName made.itemId))) = none := by
          rw [hid]
          cases hrecord : rows.get (SaveKey.outboxEvent
              (uuid5 (request.kind.eventName request.call.itemId))) with
          | none => rfl
          | some event =>
              obtain ⟨other, hother, hsame⟩ := h.events _ event hrecord
              exact absurd hsame (hfollows.eventId other hother)
        obtain ⟨own, hown⟩ := execute_created hfound hmade hunowned hitem haudit hevent
        refine ⟨made, own, hown, ?_⟩
        have habsent : book.created request.kind (request.identity normalized) = none := by
          cases hcreated : book.created request.kind (request.identity normalized) with
          | none => rfl
          | some createdAt =>
              obtain ⟨itemId, item, hstored, hcontent, _⟩ := h.made _ _ _ hcreated
              have hindex := (h.ledger.owned _ _ _ hstored).1
              rw [← SavedContent.identity_ofItem, hcontent, SavedContent.identity_new,
                SaveRequest.identity, ← hidentity, hunowned] at hindex
              cases hindex
        rw [ofItem_newItem hmade, SavingBook.createdAt, habsent, Option.getD_none]
        rfl
      · exact fun error herror => execute_refused hfound herror

/-- The book after a call that answers. -/
theorem saved (h : Kept sha256 uuid5 past book rows)
    (hfollows : request.Follows sha256 uuid5 past)
    (henters : request.enters = .ok normalized)
    {item : SavedItem request.kind}
    (hsaved : Saved sha256 uuid5 request.call request.kind normalized item rows rows')
    (hcontent : SavedContent.ofItem item = .new request.kind (request.identity normalized)
      (book.createdAt request normalized))
    (hmade : ∃ made, request.call.newItem request.kind normalized = .ok made) :
    Kept sha256 uuid5 (past ++ [request]) (book.bind request normalized) rows' := by
  have hnormalized := (enters_eq_ok.mp henters).2
  have hfresh := h.ledger.fresh hfollows.itemId request.kind
  obtain ⟨⟨record, hrecord, hhash⟩, hothers⟩ := hsaved.binds hfresh
  obtain ⟨hitem, hidentity⟩ := h.ledger.answer hfollows.itemId hfollows.told hnormalized hsaved
  constructor
  · exact h.ledger.saved (fun other hother => List.mem_append_left _ hother)
      (List.mem_append_right _ (List.mem_singleton_self _)) hfollows.itemId hnormalized hsaved
  · intro key
    by_cases hkey : request.key = key
    · subst hkey
      rw [SavingBook.bound_bind_self]
      exact (congrArg _ hrecord).trans (congrArg some hhash)
    · rw [hothers key hkey, h.bound, SavingBook.bound_bind_of_ne _ _ _ hkey]
  · intro key text htext
    by_cases hkey : request.key = key
    · subst hkey
      rw [SavingBook.bound_bind_self] at htext
      exact ⟨request, List.mem_append_right _ (List.mem_singleton_self _), normalized, rfl,
        henters, (Option.some.inj htext).symm⟩
    · rw [SavingBook.bound_bind_of_ne _ _ _ hkey] at htext
      obtain ⟨other, hother, hrest⟩ := h.texts key text htext
      exact ⟨other, List.mem_append_left _ hother, hrest⟩
  · intro kind identity createdAt hcreated
    rw [SavingBook.created_bind] at hcreated
    split at hcreated
    next hsame =>
      obtain ⟨rfl, rfl⟩ := hsame
      obtain rfl := Option.some.inj hcreated
      exact ⟨_, item, hitem, hcontent, newItem_isOk.mp hmade⟩
    next hne =>
      obtain ⟨itemId, other, hother, hrest⟩ := h.made kind identity createdAt hcreated
      exact ⟨itemId, other, hsaved.keeps _ _ hother, hrest⟩
  · intro kind identity hcreated
    rw [SavingBook.created_bind] at hcreated
    split at hcreated
    next hsame => cases hcreated
    next hne =>
      rcases hsaved.identity_cases hfresh kind identity with hsame | ⟨rfl, rfl⟩
      · exact hsame.trans (h.absent kind identity hcreated)
      · exact absurd ⟨rfl, hidentity⟩ hne
  · intro auditId record hrecord
    rcases hsaved.audit_cases hfresh hrecord with hold | rfl
    · obtain ⟨other, hother, hsame⟩ := h.audits auditId record hold
      exact ⟨other, List.mem_append_left _ hother, hsame⟩
    · exact ⟨request, List.mem_append_right _ (List.mem_singleton_self _), rfl⟩
  · intro eventId event hevent
    rcases hsaved.event_cases hfresh hevent with hold | rfl
    · obtain ⟨other, hother, hsame⟩ := h.events eventId event hold
      exact ⟨other, List.mem_append_left _ hother, hsame⟩
    · exact ⟨request, List.mem_append_right _ (List.mem_singleton_self _), rfl⟩

theorem mono (h : Kept sha256 uuid5 past book rows) (request : SaveRequest) :
    Kept sha256 uuid5 (past ++ [request]) book rows := by
  constructor
  · apply h.ledger.congr (fun other hother => List.mem_append_left _ hother)
      h.ledger.toOrderly
    · exact fun _ _ => rfl
    · exact fun _ _ hrecord => Or.inl hrecord
  · exact h.bound
  · intro key text htext
    obtain ⟨other, hother, hrest⟩ := h.texts key text htext
    exact ⟨other, List.mem_append_left _ hother, hrest⟩
  · exact h.made
  · exact h.absent
  · intro auditId record hrecord
    obtain ⟨other, hother, hsame⟩ := h.audits auditId record hrecord
    exact ⟨other, List.mem_append_left _ hother, hsame⟩
  · intro eventId event hevent
    obtain ⟨other, hother, hsame⟩ := h.events eventId event hevent
    exact ⟨other, List.mem_append_left _ hother, hsame⟩

/-- What a call comes to by its transaction. -/
theorem of_execute_ok (h : Kept sha256 uuid5 past book rows)
    (hfollows : request.Follows sha256 uuid5 past)
    (henters : request.enters = .ok normalized)
    (hmade : ∃ made, request.call.newItem request.kind normalized = .ok made)
    {item : SavedItem request.kind} {own : SaveRows}
    (hrun : (request.call.save sha256 uuid5 request.kind).execute () rows [] = .ok (item, own))
    (hcontent : SavedContent.ofItem item = .new request.kind (request.identity normalized)
      (book.createdAt request normalized)) :
    request.perform sha256 uuid5 rows = (.ok ⟨request.kind, item⟩, own ++ rows) ∧
      Kept sha256 uuid5 (past ++ [request]) (book.bind request normalized) (own ++ rows) := by
  constructor
  · rw [SaveRequest.perform, atomically, execute_body, hrun]
    rfl
  · have hrule : (request.call.save sha256 uuid5 request.kind).atCommit
        (writeOnce Unit SaveRow) (fun item own world => ∃ normalized,
          request.kind.normalize request.call.identifierType request.call.identifier =
            .ok normalized ∧
          Saved sha256 uuid5 request.call request.kind normalized item world.rows
            (own ++ world.rows)) [] ⟨(), rows⟩ := atCommit_save h.ledger.done
    obtain ⟨normalized', hnormalized, hsaved⟩ := atCommit_execute hrule hrun
    obtain rfl := Except.ok.inj ((enters_eq_ok.mp henters).2.symm.trans hnormalized)
    exact h.saved hfollows henters hsaved hcontent hmade

theorem perform_error {error : Failure}
    (hrun : (request.call.save sha256 uuid5 request.kind).execute () rows [] = .error error) :
    request.perform sha256 uuid5 rows = (.error error, rows) := by
  rw [SaveRequest.perform, atomically, execute_body, hrun]
  rfl

/-- A call answers what the book says, and the tables follow it. -/
theorem perform (h : Kept sha256 uuid5 past book rows)
    (hfollows : request.Follows sha256 uuid5 past) :
    ((request.perform sha256 uuid5 rows).1.map fun answer => SavedContent.ofItem answer.2) =
        book.answer request ∧
      Kept sha256 uuid5 (past ++ [request]) (book.after request)
        (request.perform sha256 uuid5 rows).2 := by
  cases henters : request.enters with
  | error error =>
      rw [SavingBook.answer_of_error henters, SavingBook.after_of_error henters,
        perform_error (execute_save_refused henters)]
      exact ⟨rfl, h.mono request⟩
  | ok normalized =>
      -- the call passes or is refused just as its key is admitted
      have hpasses : ∀ {item : SavedItem request.kind} {own : SaveRows},
          book.admits request normalized = .ok () →
          (∃ made, request.call.newItem request.kind normalized = .ok made) →
          (request.call.save sha256 uuid5 request.kind).execute () rows [] = .ok (item, own) →
          SavedContent.ofItem item = .new request.kind (request.identity normalized)
            (book.createdAt request normalized) →
          ((request.perform sha256 uuid5 rows).1.map
              fun answer => SavedContent.ofItem answer.2) = book.answer request ∧
            Kept sha256 uuid5 (past ++ [request]) (book.after request)
              (request.perform sha256 uuid5 rows).2 := by
        intro item own hadmits hmade hrun hcontent
        obtain ⟨hperform, hkept⟩ := h.of_execute_ok hfollows henters hmade hrun hcontent
        rw [hperform, SavingBook.answer_of_enters henters,
          SavingBook.after_of_admits henters hadmits, hadmits]
        exact ⟨congrArg Except.ok hcontent, hkept⟩
      have hrefused : ∀ {error : Failure}, book.admits request normalized = .error error →
          (request.call.save sha256 uuid5 request.kind).execute () rows [] = .error error →
          ((request.perform sha256 uuid5 rows).1.map
              fun answer => SavedContent.ofItem answer.2) = book.answer request ∧
            Kept sha256 uuid5 (past ++ [request]) (book.after request)
              (request.perform sha256 uuid5 rows).2 := by
        intro error hadmits hrun
        rw [perform_error hrun, SavingBook.answer_of_enters henters,
          SavingBook.after_of_refuses henters hadmits, hadmits]
        exact ⟨rfl, h.mono request⟩
      cases hbound : book.bound request.key with
      | some text =>
          have hrun := h.execute_bound hfollows henters hbound
          by_cases htext : text = request.text normalized
          · rw [if_pos htext] at hrun
            obtain ⟨⟨item, hrun, hcontent⟩, hmade⟩ := hrun
            apply hpasses _ hmade hrun hcontent
            rw [SavingBook.admits, hbound, htext]
            exact require_eq_ok.mpr (beq_self_eq_true _)
          · rw [if_neg htext] at hrun
            apply hrefused _ hrun
            rw [SavingBook.admits, hbound]
            exact require_eq_error.mpr ⟨beq_eq_false_iff_ne.mpr htext, rfl⟩
      | none =>
          obtain ⟨hmakes, hfails⟩ := h.execute_free hfollows henters hbound
          cases hmade : request.call.newItem request.kind normalized with
          | ok made =>
              obtain ⟨item, own, hrun, hcontent⟩ := hmakes made hmade
              apply hpasses _ ⟨made, hmade⟩ hrun hcontent
              rw [SavingBook.admits, hbound, hmade]
              rfl
          | error error =>
              apply hrefused _ (hfails error hmade)
              rw [SavingBook.admits, hbound, hmade]
              rfl

end Kept

end ShemaPlatform
