/-
What the tables of saved items agree on after any number of calls: one item for an
identity, one event and one audit record for an item, and reservations of items that were
asked for.
-/
import ShemaPlatform.SavedItemAnswers

namespace ShemaPlatform

open Calendar ReadCommitted ReadCommitted.Prog

/-- A call of `save_monitoring` or of `save_favorite`. -/
structure SaveRequest where
  kind : SavedKind
  call : SaveCall

abbrev SaveAnswer := Σ kind, SavedItem kind

namespace SaveRequest

def normalized (request : SaveRequest) : Except Failure String :=
  request.kind.normalize request.call.identifierType request.call.identifier

def key (request : SaveRequest) : String := request.call.reservationKey request.kind

def text (request : SaveRequest) (normalized : String) : String :=
  request.call.requestText request.kind normalized

/-- Two requests whose texts the hash does not confuse. -/
def Told (sha256 : String → String) (request other : SaveRequest) : Prop :=
  ∀ normalized normalized', request.normalized = .ok normalized →
    other.normalized = .ok normalized' →
      sha256 (request.text normalized) = sha256 (other.text normalized') →
        request.text normalized = other.text normalized'

end SaveRequest

/-- The event that announces an item. -/
def OutboxEvent.Announces (event : OutboxEvent) (kind : SavedKind) (itemId : String) : Prop :=
  event.eventType = kind.label ++ ".created" ∧ event.aggregateType = kind.resourceType ∧
    event.aggregateId = itemId

/-- The audit record of an item. -/
def AuditRecord.Attests (record : AuditRecord) (kind : SavedKind) (itemId : String) : Prop :=
  record.action = kind.label ++ ".created" ∧ record.resourceType = kind.resourceType ∧
    record.resourceId = itemId

theorem label_inj {kind kind' : SavedKind}
    (h : kind.label ++ ".created" = kind'.label ++ ".created") : kind = kind' := by
  cases kind <;> cases kind' <;> first | rfl | exact absurd h (by decide)

/-- What calls rely on: no reservation is pending, and items are stored under their own
ids, which are no pending ones. -/
structure Orderly (rows : SaveRows) : Prop where
  done : AllDone rows
  items : ∀ (kind : SavedKind) itemId (item : SavedItem kind),
    rows.get (SaveKey.item kind itemId) = some item →
      item.itemId = itemId ∧ PyText.startsWith itemId "pending:" = false

section Saved

variable {sha256 uuid5 : String → String} {call : SaveCall} {kind : SavedKind}
  {normalized : String} {item : SavedItem kind} {rows rows' : SaveRows}

/-- What is written with a new item, row by row. -/
theorem Creates.get (h : Creates sha256 uuid5 call kind normalized item rows rows') :
    rows'.get (SaveKey.outboxEvent (uuid5 (kind.eventName item.itemId))) =
        some (call.outboxEvent uuid5 kind normalized item.itemId) ∧
      rows'.get (SaveKey.auditLog call.auditId) =
        some (call.auditRecord kind normalized item.itemId) ∧
      rows'.get (SaveKey.idempotencyKey (call.reservationKey kind)) =
        some (call.completed sha256 kind normalized item.itemId) ∧
      rows'.get (SaveKey.item kind item.itemId) = some item ∧
      rows'.get (SaveKey.identity kind item.identity) = some item.itemId := by
  simp [h.written, SaveCall.writes]

/-- Nothing else is written. -/
theorem Creates.cases (h : Creates sha256 uuid5 call kind normalized item rows rows')
    (key : SaveKey) : key = SaveKey.outboxEvent (uuid5 (kind.eventName item.itemId)) ∨
      key = SaveKey.auditLog call.auditId ∨
      key = SaveKey.idempotencyKey (call.reservationKey kind) ∨
      key = SaveKey.item kind item.itemId ∨ key = SaveKey.identity kind item.identity ∨
      rows'.get key = rows.get key := by
  by_cases hmem : key ∈ (call.writes sha256 uuid5 kind normalized item).keys
  · simp only [SaveCall.writes, Rows.keys_cons, Rows.keys_nil, List.mem_cons,
      List.not_mem_nil, or_false] at hmem
    tauto
  · rw [h.written, Rows.get_append_of_not_mem hmem]
    tauto

theorem Creates.item_cases (h : Creates sha256 uuid5 call kind normalized item rows rows')
    {kind' : SavedKind} {itemId : String} {item' : SavedItem kind'}
    (hitem : rows'.get (SaveKey.item kind' itemId) = some item') :
    rows.get (SaveKey.item kind' itemId) = some item' ∨
      (⟨kind', item'⟩ : SaveAnswer) = ⟨kind, item⟩ ∧ itemId = item.itemId := by
  rcases h.cases (SaveKey.item kind' itemId) with hkey | hkey | hkey | hkey | hkey | hsame
  · cases hkey
  · cases hkey
  · cases hkey
  · obtain ⟨rfl, rfl⟩ := SaveKey.item.inj hkey
    obtain rfl := Option.some.inj (h.get.2.2.2.1.symm.trans hitem)
    exact Or.inr ⟨rfl, rfl⟩
  · cases hkey
  · exact Or.inl (hsame.symm.trans hitem)

theorem Creates.identity_cases
    (h : Creates sha256 uuid5 call kind normalized item rows rows') {kind' : SavedKind}
    {identity : SavedIdentity} {itemId : String}
    (hidentity : rows'.get (SaveKey.identity kind' identity) = some itemId) :
    rows.get (SaveKey.identity kind' identity) = some itemId ∨
      kind' = kind ∧ identity = item.identity ∧ itemId = item.itemId := by
  rcases h.cases (SaveKey.identity kind' identity) with
    hkey | hkey | hkey | hkey | hkey | hsame
  · cases hkey
  · cases hkey
  · cases hkey
  · cases hkey
  · obtain ⟨rfl, rfl⟩ := SaveKey.identity.inj hkey
    exact Or.inr ⟨rfl, rfl, Option.some.inj (hidentity.symm.trans h.get.2.2.2.2)⟩
  · exact Or.inl (hsame.symm.trans hidentity)

theorem Creates.record_cases (h : Creates sha256 uuid5 call kind normalized item rows rows')
    {key : String} {record : IdempotencyRecord}
    (hrecord : rows'.get (SaveKey.idempotencyKey key) = some record) :
    rows.get (SaveKey.idempotencyKey key) = some record ∨
      key = call.reservationKey kind ∧
        record = call.completed sha256 kind normalized item.itemId := by
  rcases h.cases (SaveKey.idempotencyKey key) with hkey | hkey | hkey | hkey | hkey | hsame
  · cases hkey
  · cases hkey
  · obtain rfl := SaveKey.idempotencyKey.inj hkey
    exact Or.inr ⟨rfl, Option.some.inj (hrecord.symm.trans h.get.2.2.1)⟩
  · cases hkey
  · cases hkey
  · exact Or.inl (hsame.symm.trans hrecord)

theorem Creates.event_cases (h : Creates sha256 uuid5 call kind normalized item rows rows')
    {eventId : String} {event : OutboxEvent}
    (hevent : rows'.get (SaveKey.outboxEvent eventId) = some event) :
    rows.get (SaveKey.outboxEvent eventId) = some event ∨
      eventId = uuid5 (kind.eventName item.itemId) ∧
        event = call.outboxEvent uuid5 kind normalized item.itemId := by
  rcases h.cases (SaveKey.outboxEvent eventId) with hkey | hkey | hkey | hkey | hkey | hsame
  · obtain rfl := SaveKey.outboxEvent.inj hkey
    exact Or.inr ⟨rfl, Option.some.inj (hevent.symm.trans h.get.1)⟩
  · cases hkey
  · cases hkey
  · cases hkey
  · cases hkey
  · exact Or.inl (hsame.symm.trans hevent)

theorem Creates.audit_cases (h : Creates sha256 uuid5 call kind normalized item rows rows')
    {auditId : String} {record : AuditRecord}
    (hrecord : rows'.get (SaveKey.auditLog auditId) = some record) :
    rows.get (SaveKey.auditLog auditId) = some record ∨
      auditId = call.auditId ∧ record = call.auditRecord kind normalized item.itemId := by
  rcases h.cases (SaveKey.auditLog auditId) with hkey | hkey | hkey | hkey | hkey | hsame
  · cases hkey
  · obtain rfl := SaveKey.auditLog.inj hkey
    exact Or.inr ⟨rfl, Option.some.inj (hrecord.symm.trans h.get.2.1)⟩
  · cases hkey
  · cases hkey
  · cases hkey
  · exact Or.inl (hsame.symm.trans hrecord)

theorem Creates.keeps (h : Creates sha256 uuid5 call kind normalized item rows rows')
    (key : SaveKey) (row : SaveRow key) (hrow : rows.get key = some row) :
    rows'.get key = some row := by
  obtain ⟨hevent, _⟩ := h.get
  rcases h.cases key with rfl | rfl | rfl | rfl | rfl | hsame
  · rw [hevent, h.event row hrow]
  · cases h.auditFree.symm.trans hrow
  · cases h.keyFree.symm.trans hrow
  · cases h.itemFree.symm.trans hrow
  · cases h.identityFree.symm.trans hrow
  · rw [hsame, hrow]

theorem Saved.keeps (h : Saved sha256 uuid5 call kind normalized item rows rows')
    (key : SaveKey) (row : SaveRow key) (hrow : rows.get key = some row) :
    rows'.get key = some row := by
  cases h with
  | replays record hrecord hhash hitem hrows => rw [hrows, hrow]
  | finds itemId hfree hitem hidentity hrows =>
      rw [hrows, Rows.get_cons_ne]
      · exact hrow
      · rintro rfl
        cases hfree.symm.trans hrow
  | creates hcreates => exact hcreates.keeps key row hrow
  | clashes htaken hkeeps hrecords hitems => exact hkeeps key row hrow

/-- A call leaves the tables orderly. -/
theorem Saved.orderly (h : Saved sha256 uuid5 call kind normalized item rows rows')
    (horderly : Orderly rows) : Orderly rows' := by
  cases h with
  | replays record hrecord hhash hitem hrows =>
      constructor
      · exact fun key record hrecord => horderly.done key record ((hrows _).symm.trans hrecord)
      · exact fun kind itemId item hitem => horderly.items kind itemId item
          ((hrows _).symm.trans hitem)
  | finds itemId hfree hitem hidentity hrows =>
      constructor
      · intro key record hrecord
        rw [hrows] at hrecord
        by_cases hkey : call.reservationKey kind = key
        · subst hkey
          rw [Rows.get_cons_self] at hrecord
          obtain rfl := Option.some.inj hrecord
          have hid := horderly.items kind itemId item hitem
          rw [← hid.1] at hid
          exact hid.2
        · rw [Rows.get_cons_ne (by simpa using hkey)] at hrecord
          exact horderly.done key record hrecord
      · intro kind' itemId' item' hitem'
        rw [hrows, Rows.get_cons_ne (by simp)] at hitem'
        exact horderly.items kind' itemId' item' hitem'
  | creates hcreates =>
      have hid : item.itemId = call.itemId := (SaveCall.newItem_eq_ok hcreates.made).1
      constructor
      · intro key record hstored
        rcases hcreates.record_cases hstored with hold | ⟨_, rfl⟩
        · exact horderly.done key record hold
        · change PyText.startsWith item.itemId "pending:" = false
          rw [hid]
          exact call.uuid.2.1
      · intro kind' itemId' item' hstored
        rcases hcreates.item_cases hstored with hold | ⟨hsame, rfl⟩
        · exact horderly.items kind' itemId' item' hold
        · cases hsame
          rw [hid]
          exact ⟨rfl, call.uuid.2.1⟩
  | clashes htaken hkeeps hrecords hitems =>
      constructor
      · intro key record hrecord
        rcases hrecords key record hrecord with hold | hmine
        · exact horderly.done key record hold
        · rw [hmine]
          exact call.uuid.2.1
      · intro kind' itemId' item' hitem'
        rw [hitems] at hitem'
        exact horderly.items kind' itemId' item' hitem'

end Saved

/-- The tables after these requests. -/
structure SavedLedger (sha256 uuid5 : String → String) (past : SaveRequest → Prop)
    (rows : SaveRows) : Prop extends Orderly rows where
  owned : ∀ (kind : SavedKind) itemId (item : SavedItem kind),
    rows.get (SaveKey.item kind itemId) = some item →
      rows.get (SaveKey.identity kind item.identity) = some itemId ∧
        ∃ request, past request ∧ request.call.itemId = itemId
  identities : ∀ kind identity itemId, rows.get (SaveKey.identity kind identity) = some itemId →
    ∃ item : SavedItem kind, rows.get (SaveKey.item kind itemId) = some item ∧
      item.identity = identity
  records : ∀ key (record : IdempotencyRecord),
    rows.get (SaveKey.idempotencyKey key) = some record →
      ∃ request normalized, past request ∧ request.key = key ∧
        request.normalized = .ok normalized ∧
        record.requestHash = sha256 (request.text normalized) ∧
        ∃ item : SavedItem request.kind,
          rows.get (SaveKey.item request.kind record.resultRef) = some item ∧
            item.identity = request.call.identity normalized
  announced : ∀ (kind : SavedKind) itemId (item : SavedItem kind),
    rows.get (SaveKey.item kind itemId) = some item →
      ∃ event : OutboxEvent,
        rows.get (SaveKey.outboxEvent (uuid5 (kind.eventName itemId))) = some event ∧
          event.Announces kind itemId
  events : ∀ eventId (event : OutboxEvent),
    rows.get (SaveKey.outboxEvent eventId) = some event →
      ∃ kind, eventId = uuid5 (kind.eventName event.aggregateId) ∧
        event.Announces kind event.aggregateId ∧
        ∃ item : SavedItem kind, rows.get (SaveKey.item kind event.aggregateId) = some item
  attested : ∀ (kind : SavedKind) itemId (item : SavedItem kind),
    rows.get (SaveKey.item kind itemId) = some item →
      ∃ auditId, ∃ record : AuditRecord,
        rows.get (SaveKey.auditLog auditId) = some record ∧ record.Attests kind itemId ∧
        ∀ other (record' : AuditRecord), rows.get (SaveKey.auditLog other) = some record' →
          record'.Attests kind itemId → other = auditId
  audits : ∀ auditId (record : AuditRecord),
    rows.get (SaveKey.auditLog auditId) = some record →
      ∃ kind, record.Attests kind record.resourceId ∧
        ∃ item : SavedItem kind, rows.get (SaveKey.item kind record.resourceId) = some item

namespace SavedLedger

variable {sha256 uuid5 : String → String} {past : SaveRequest → Prop} {rows rows' : SaveRows}
  {call : SaveCall} {kind : SavedKind} {normalized : String} {item : SavedItem kind}

theorem nil : SavedLedger sha256 uuid5 past [] where
  done _ _ h := by cases h
  items _ _ _ h := by cases h
  owned _ _ _ h := by cases h
  identities _ _ _ h := by cases h
  records _ _ h := by cases h
  announced _ _ _ h := by cases h
  events _ _ h := by cases h
  attested _ _ _ h := by cases h
  audits _ _ h := by cases h

/-- An identity has one item. -/
theorem unique (h : SavedLedger sha256 uuid5 past rows) {itemId itemId' : String}
    {item' : SavedItem kind} (hitem : rows.get (SaveKey.item kind itemId) = some item)
    (hitem' : rows.get (SaveKey.item kind itemId') = some item')
    (hsame : item.identity = item'.identity) : itemId = itemId' ∧ item = item' := by
  have hidentity := (h.owned kind itemId item hitem).1
  rw [hsame] at hidentity
  obtain rfl := Option.some.inj (hidentity.symm.trans (h.owned kind itemId' item' hitem').1)
  exact ⟨rfl, Option.some.inj (hitem.symm.trans hitem')⟩

/-- No item has the id of a call that is new. -/
theorem fresh (h : SavedLedger sha256 uuid5 past rows)
    (hfresh : ∀ request, past request → request.call.itemId ≠ call.itemId)
    (kind : SavedKind) : rows.get (SaveKey.item kind call.itemId) = none := by
  cases hitem : rows.get (SaveKey.item kind call.itemId) with
  | none => rfl
  | some item =>
      obtain ⟨_, request, hpast, hid⟩ := h.owned kind _ item hitem
      exact absurd hid (hfresh request hpast)

/-- A reservation under the key of a request, with its hash, is of what it asks for. -/
theorem bound (h : SavedLedger sha256 uuid5 past rows) {record : IdempotencyRecord}
    (htold : ∀ request, past request → request.Told sha256 ⟨kind, call⟩)
    (hnormalized : kind.normalize call.identifierType call.identifier = .ok normalized)
    (hrecord : rows.get (SaveKey.idempotencyKey (call.reservationKey kind)) = some record)
    (hhash : record.requestHash = sha256 (call.requestText kind normalized)) :
    ∃ item : SavedItem kind, rows.get (SaveKey.item kind record.resultRef) = some item ∧
      item.identity = call.identity normalized := by
  obtain ⟨request, normalized', hpast, hkey, hsome, hhash', item, hitem, hidentity⟩ :=
    h.records _ record hrecord
  have htext := htold request hpast normalized' normalized hsome hnormalized
    (hhash'.symm.trans hhash)
  obtain ⟨hkind, hsame⟩ := same_request hkey htext
  obtain ⟨kind', call'⟩ := request
  obtain rfl : kind' = kind := hkind
  exact ⟨item, hitem, hidentity.trans hsame⟩

/-- A call answers with the item of its own identity. -/
theorem answer (h : SavedLedger sha256 uuid5 past rows)
    (hfresh : ∀ request, past request → request.call.itemId ≠ call.itemId)
    (htold : ∀ request, past request → request.Told sha256 ⟨kind, call⟩)
    (hnormalized : kind.normalize call.identifierType call.identifier = .ok normalized)
    (hsaved : Saved sha256 uuid5 call kind normalized item rows rows') :
    rows'.get (SaveKey.item kind item.itemId) = some item ∧
      item.identity = call.identity normalized := by
  cases hsaved with
  | replays record hrecord hhash hitem hrows =>
      obtain ⟨found, hfound, hidentity⟩ := h.bound htold hnormalized hrecord hhash
      obtain rfl := Option.some.inj (hitem.symm.trans hfound)
      rw [hrows, (h.items kind _ item hitem).1]
      exact ⟨hitem, hidentity⟩
  | finds itemId hfree hitem hidentity hrows =>
      rw [hrows, Rows.get_cons_ne (by simp), (h.items kind _ item hitem).1]
      exact ⟨hitem, hidentity⟩
  | creates hcreates =>
      exact ⟨hcreates.get.2.2.2.1, (SaveCall.newItem_eq_ok hcreates.made).2⟩
  | clashes htaken hkeeps hrecords hitems => exact absurd (h.fresh hfresh kind) htaken

/-- A call that answers from what is stored. -/
theorem congr {past' : SaveRequest → Prop} (h : SavedLedger sha256 uuid5 past rows)
    (hpast : ∀ request, past request → past' request) (horderly : Orderly rows')
    (hrows : ∀ key, (∀ text, key ≠ SaveKey.idempotencyKey text) → rows'.get key = rows.get key)
    (hrecords : ∀ key (record : IdempotencyRecord),
      rows'.get (SaveKey.idempotencyKey key) = some record →
        rows.get (SaveKey.idempotencyKey key) = some record ∨
        ∃ request normalized, past' request ∧ request.key = key ∧
          request.normalized = .ok normalized ∧
          record.requestHash = sha256 (request.text normalized) ∧
          ∃ item : SavedItem request.kind,
            rows.get (SaveKey.item request.kind record.resultRef) = some item ∧
              item.identity = request.call.identity normalized) :
    SavedLedger sha256 uuid5 past' rows' := by
  have hitems : ∀ kind itemId,
      rows'.get (SaveKey.item kind itemId) = rows.get (SaveKey.item kind itemId) :=
    fun kind itemId => hrows _ (by simp)
  have hidentities : ∀ kind identity,
      rows'.get (SaveKey.identity kind identity) = rows.get (SaveKey.identity kind identity) :=
    fun kind identity => hrows _ (by simp)
  have hevents : ∀ eventId,
      rows'.get (SaveKey.outboxEvent eventId) = rows.get (SaveKey.outboxEvent eventId) :=
    fun eventId => hrows _ (by simp)
  have haudits : ∀ auditId,
      rows'.get (SaveKey.auditLog auditId) = rows.get (SaveKey.auditLog auditId) :=
    fun auditId => hrows _ (by simp)
  constructor
  · exact horderly
  · intro kind itemId item hitem
    rw [hitems] at hitem
    rw [hidentities]
    obtain ⟨hidentity, request, hrequest, hid⟩ := h.owned kind itemId item hitem
    exact ⟨hidentity, request, hpast request hrequest, hid⟩
  · intro kind identity itemId hidentity
    rw [hidentities] at hidentity
    rw [hitems]
    exact h.identities kind identity itemId hidentity
  · intro key record hrecord
    rcases hrecords key record hrecord with hold | ⟨request, normalized, hnew⟩
    · obtain ⟨request, normalized, hrequest, hrest⟩ := h.records key record hold
      refine ⟨request, normalized, hpast request hrequest, ?_⟩
      rw [hitems]
      exact hrest
    · refine ⟨request, normalized, ?_⟩
      rw [hitems]
      exact hnew
  · intro kind itemId item hitem
    rw [hitems] at hitem
    rw [hevents]
    exact h.announced kind itemId item hitem
  · intro eventId event hevent
    rw [hevents] at hevent
    obtain ⟨kind, hrest⟩ := h.events eventId event hevent
    refine ⟨kind, ?_⟩
    rw [hitems]
    exact hrest
  · intro kind itemId item hitem
    rw [hitems] at hitem
    simp only [haudits]
    exact h.attested kind itemId item hitem
  · intro auditId record hrecord
    rw [haudits] at hrecord
    obtain ⟨kind, hrest⟩ := h.audits auditId record hrecord
    refine ⟨kind, ?_⟩
    rw [hitems]
    exact hrest

/-- A call that makes an item. -/
theorem created {past' : SaveRequest → Prop} (h : SavedLedger sha256 uuid5 past rows)
    (hpast : ∀ request, past request → past' request) (hnow : past' ⟨kind, call⟩)
    (hnormalized : kind.normalize call.identifierType call.identifier = .ok normalized)
    (horderly : Orderly rows')
    (hcreates : Creates sha256 uuid5 call kind normalized item rows rows') :
    SavedLedger sha256 uuid5 past' rows' := by
  obtain ⟨hevent, haudit, hrecord, hitem, hidentity⟩ := hcreates.get
  obtain ⟨hid, hmine⟩ := SaveCall.newItem_eq_ok hcreates.made
  have hannounces : (call.outboxEvent uuid5 kind normalized item.itemId).Announces kind
      item.itemId := ⟨rfl, rfl, rfl⟩
  have hattests : (call.auditRecord kind normalized item.itemId).Attests kind item.itemId :=
    ⟨rfl, rfl, rfl⟩
  constructor
  · exact horderly
  · intro kind' itemId item' hstored
    rcases hcreates.item_cases hstored with hold | ⟨hsame, rfl⟩
    · obtain ⟨hidentity', request, hrequest, hid'⟩ := h.owned kind' itemId item' hold
      exact ⟨hcreates.keeps _ _ hidentity', request, hpast request hrequest, hid'⟩
    · cases hsame
      exact ⟨hidentity, _, hnow, hid.symm⟩
  · intro kind' identity itemId hstored
    rcases hcreates.identity_cases hstored with hold | ⟨rfl, rfl, rfl⟩
    · obtain ⟨item', hitem', hsame⟩ := h.identities kind' identity itemId hold
      exact ⟨item', hcreates.keeps _ _ hitem', hsame⟩
    · exact ⟨item, hitem, rfl⟩
  · intro key record hstored
    rcases hcreates.record_cases hstored with hold | ⟨rfl, rfl⟩
    · obtain ⟨request, normalized', hrequest, hkey, hsome, hhash, item', hitem', hsame⟩ :=
        h.records key record hold
      exact ⟨request, normalized', hpast request hrequest, hkey, hsome, hhash, item',
        hcreates.keeps _ _ hitem', hsame⟩
    · exact ⟨⟨kind, call⟩, normalized, hnow, rfl, hnormalized, rfl, item, hitem, hmine⟩
  · intro kind' itemId item' hstored
    rcases hcreates.item_cases hstored with hold | ⟨hsame, rfl⟩
    · obtain ⟨event, hevent', hannounced⟩ := h.announced kind' itemId item' hold
      exact ⟨event, hcreates.keeps _ _ hevent', hannounced⟩
    · cases hsame
      exact ⟨_, hevent, hannounces⟩
  · intro eventId event hstored
    rcases hcreates.event_cases hstored with hold | ⟨rfl, rfl⟩
    · obtain ⟨kind', hname, hannounced, item', hitem'⟩ := h.events eventId event hold
      exact ⟨kind', hname, hannounced, item', hcreates.keeps _ _ hitem'⟩
    · exact ⟨kind, rfl, hannounces, item, hitem⟩
  · intro kind' itemId item' hstored
    rcases hcreates.item_cases hstored with hold | ⟨hsame, rfl⟩
    · obtain ⟨auditId, record, hrecord', hattested, hone⟩ := h.attested kind' itemId item' hold
      refine ⟨auditId, record, hcreates.keeps _ _ hrecord', hattested, ?_⟩
      intro other record' hother hattested'
      rcases hcreates.audit_cases hother with hearlier | ⟨rfl, rfl⟩
      · exact hone other record' hearlier hattested'
      · obtain rfl := label_inj hattested'.1
        obtain rfl : item.itemId = itemId := hattested'.2.2
        cases hcreates.itemFree.symm.trans hold
    · cases hsame
      refine ⟨call.auditId, _, haudit, hattests, ?_⟩
      intro other record' hother hattested'
      rcases hcreates.audit_cases hother with hearlier | ⟨rfl, rfl⟩
      · obtain ⟨kind', hattests', item', hitem'⟩ := h.audits other record' hearlier
        obtain rfl := label_inj (hattests'.1.symm.trans hattested'.1)
        rw [hattested'.2.2] at hitem'
        cases hcreates.itemFree.symm.trans hitem'
      · rfl
  · intro auditId record hstored
    rcases hcreates.audit_cases hstored with hold | ⟨rfl, rfl⟩
    · obtain ⟨kind', hattested, item', hitem'⟩ := h.audits auditId record hold
      exact ⟨kind', hattested, item', hcreates.keeps _ _ hitem'⟩
    · exact ⟨kind, hattests, item, hitem⟩

/-- The tables after one more request. -/
theorem saved {past' : SaveRequest → Prop} (h : SavedLedger sha256 uuid5 past rows)
    (hpast : ∀ request, past request → past' request) (hnow : past' ⟨kind, call⟩)
    (hfresh : ∀ request, past request → request.call.itemId ≠ call.itemId)
    (hnormalized : kind.normalize call.identifierType call.identifier = .ok normalized)
    (hsaved : Saved sha256 uuid5 call kind normalized item rows rows') :
    SavedLedger sha256 uuid5 past' rows' := by
  have horderly := hsaved.orderly h.toOrderly
  cases hsaved with
  | replays record hrecord hhash hitem hrows =>
      apply h.congr hpast horderly
      · exact fun key _ => hrows key
      · exact fun key record hrecord => Or.inl ((hrows _).symm.trans hrecord)
  | finds itemId hfree hitem hidentity hrows =>
      apply h.congr hpast horderly
      · exact fun key hkey => (hrows key).trans (Rows.get_cons_ne (hkey _).symm _ _)
      · intro key record hrecord
        rw [hrows] at hrecord
        by_cases hkey : call.reservationKey kind = key
        · subst hkey
          rw [Rows.get_cons_self] at hrecord
          obtain rfl := Option.some.inj hrecord
          right
          refine ⟨⟨kind, call⟩, normalized, hnow, rfl, hnormalized, rfl, item, ?_, hidentity⟩
          rw [← (h.items kind itemId item hitem).1] at hitem
          exact hitem
        · rw [Rows.get_cons_ne (by simpa using hkey)] at hrecord
          exact Or.inl hrecord
  | creates hcreates => exact h.created hpast hnow hnormalized horderly hcreates
  | clashes htaken hkeeps hrecords hitems => exact absurd (h.fresh hfresh kind) htaken

end SavedLedger

end ShemaPlatform
