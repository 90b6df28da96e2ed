/-
What a call that saves an item does while others do the same: it answers from its key,
from the items of its actor, or with a new item.
-/
import ShemaPlatform.RaisedRun
import ShemaPlatform.SavedItems

namespace ShemaPlatform

open Calendar ReadCommitted ReadCommitted.Prog

abbrev SaveWorld := World Unit SaveRow

/-- The error of a call that another one has got ahead of. -/
def SavedKind.lost : SavedKind → Failure
  | .monitor => .idempotencyConflict "counterparty monitor already exists"
  | .favorite => .integrityViolation "favorite disappeared after insert"

section Requests

/-- Two texts that begin with the same name, or else go on with two different marks. -/
theorem append_inj_of_marks {α : Type} {a b x y u v : List α} {c d : α} (hne : c ≠ d)
    (hfirst : a ++ c :: x = b ++ c :: y) (hsecond : a ++ d :: u = b ++ d :: v) : a = b := by
  induction a generalizing b with
  | nil =>
      cases b with
      | nil => rfl
      | cons head rest =>
          have hc := (List.cons.inj hfirst).1
          have hd := (List.cons.inj hsecond).1
          exact absurd (hc.trans hd.symm) hne
  | cons head rest ih =>
      cases b with
      | nil =>
          have hc := (List.cons.inj hfirst).1
          have hd := (List.cons.inj hsecond).1
          exact absurd (hc.symm.trans hd) hne
      | cons head' rest' =>
          obtain ⟨rfl, hrest⟩ := List.cons.inj hfirst
          rw [ih hrest (List.cons.inj hsecond).2]

theorem value_append_inj {identifierType identifierType' : CounterpartyIdentifierType}
    {x y : List Char} (h : identifierType.value.toList ++ '|' :: x =
      identifierType'.value.toList ++ '|' :: y) : identifierType = identifierType' ∧ x = y := by
  cases identifierType <;> cases identifierType' <;>
    simp_all [CounterpartyIdentifierType.value]

variable {call call' : SaveCall} {kind kind' : SavedKind} {normalized normalized' : String}

theorem toList_reservationKey : (call.reservationKey kind).toList =
    kind.label.toList ++ ':' :: (call.actorId.toList ++ ':' :: call.idempotencyKey.toList) := by
  simp [SaveCall.reservationKey, toString, String.toList_append]

theorem toList_requestText : (call.requestText kind normalized).toList =
    kind.label.toList ++ '|' :: (call.actorId.toList ++
      '|' :: (call.identifierType.value.toList ++ '|' :: normalized.toList)) := by
  simp [SaveCall.requestText]

/-- The key tells the kind. -/
theorem kind_of_reservationKey (h : call.reservationKey kind = call'.reservationKey kind') :
    kind = kind' := by
  have hlists := congrArg String.toList h
  rw [toList_reservationKey, toList_reservationKey] at hlists
  cases kind <;> cases kind' <;> simp_all [SavedKind.label]

/-- Key and request together tell the item that was asked for, though neither tells the
actor. -/
theorem same_request (hkey : call.reservationKey kind = call'.reservationKey kind')
    (htext : call.requestText kind normalized = call'.requestText kind' normalized') :
    kind = kind' ∧ call.identity normalized = call'.identity normalized' := by
  obtain rfl := kind_of_reservationKey hkey
  have hkeys := congrArg String.toList hkey
  have htexts := congrArg String.toList htext
  rw [toList_reservationKey, toList_reservationKey] at hkeys
  rw [toList_requestText, toList_requestText] at htexts
  have hafter := (List.cons.inj (List.append_cancel_left hkeys)).2
  have hrest := (List.cons.inj (List.append_cancel_left htexts)).2
  have hactor := append_inj_of_marks (by decide) hafter hrest
  rw [hactor] at hrest
  have hparts := (List.cons.inj (List.append_cancel_left hrest)).2
  obtain ⟨htype, hnormalized⟩ := value_append_inj hparts
  constructor
  · rfl
  · rw [SaveCall.identity, SaveCall.identity, String.toList_injective hactor, htype,
      String.toList_injective hnormalized]

end Requests

section Statements

variable {own : SaveRows} {world : SaveWorld} {key requestHash resultRef : String}
  {kind : SavedKind} {item : SavedItem kind}

/-- A log of reservations only. -/
def Reserving (own : SaveRows) : Prop :=
  own.Only fun key => ∃ text, key = .idempotencyKey text

theorem Reserving.get (h : Reserving own) {other : SaveKey}
    (hother : ∀ text, other ≠ .idempotencyKey text) (rows : SaveRows) :
    Rows.get (own ++ rows) other = rows.get other :=
  Rows.Only.get_append h (fun ⟨text, htext⟩ => hother text htext) rows

theorem atCommit_reserve {post : IdempotencyRecord → SaveRows → SaveWorld → Prop}
    (hnew : world.rows.get (SaveKey.idempotencyKey key) = none →
      post ⟨key, requestHash, resultRef⟩
        [⟨SaveKey.idempotencyKey key, some ⟨key, requestHash, resultRef⟩⟩] world)
    (hold : ∀ record : IdempotencyRecord,
      world.rows.get (SaveKey.idempotencyKey key) = some record →
        record.requestHash = requestHash → post record [] world) :
    (SaveIdempotency.reserve key requestHash resultRef).atCommit (writeOnce Unit SaveRow)
      post [] world := by
  rw [SaveIdempotency.reserve, atCommit_bind, atCommit_insertNew]
  constructor
  · intro _ _ _ _
    rw [if_neg Bool.false_ne_true, atCommit_bind, atCommit_select]
    intro earlier hearlier
    cases hrow : Rows.get ([] ++ earlier.rows) (SaveKey.idempotencyKey key) with
    | none => trivial
    | some record =>
        rw [atCommit_bind, atCommit_lift]
        intro _ hmatch
        exact hold record (hearlier.evolved _ _ hrow) (beq_iff_eq.mp (require_eq_ok.mp hmatch))
  · intro hnone
    rw [if_pos rfl]
    exact hnew hnone

/-- A reservation of one's own is completed. -/
theorem atCommit_complete {pending : IdempotencyRecord}
    {post : IdempotencyRecord → SaveRows → SaveWorld → Prop}
    (hpending : Rows.get own (SaveKey.idempotencyKey key) = some pending)
    (hhash : pending.requestHash = requestHash)
    (hstarts : PyText.startsWith pending.resultRef "pending:" = true)
    (h : post { pending with resultRef }
      (⟨SaveKey.idempotencyKey key, some { pending with resultRef }⟩ ::
        ⟨SaveKey.idempotencyKey key, some pending⟩ :: own) world) :
    (SaveIdempotency.complete key requestHash resultRef).atCommit (writeOnce Unit SaveRow)
      post own world := by
  have hmine : ∀ rows : SaveRows, Rows.get (own ++ rows) (SaveKey.idempotencyKey key) =
      some pending := by
    intro rows
    rw [Rows.get_append_of_mem (Rows.mem_keys_of_get hpending), hpending]
  rw [SaveIdempotency.complete, atCommit_bind, atCommit_lift]
  intro _ _
  rw [atCommit_bind, atCommit_selectForUpdate]
  constructor
  · intro earlier _ hnone
    rw [hmine] at hnone
    cases hnone
  · intro row hrow
    obtain rfl := Option.some.inj ((hmine _).symm.trans hrow)
    rw [atCommit_bind, atCommit_lift]
    intro _ _
    have hopen : (!(pending.resultRef == "" ||
        PyText.startsWith pending.resultRef "pending:")) = false := by
      rw [hstarts, Bool.or_true]
      rfl
    rw [hopen, if_neg Bool.false_ne_true, atCommit_bind, atCommit_updateWhere]
    constructor
    · intro earlier _ hnone
      rw [List.cons_append, Rows.get_cons_self, Option.bind_some, if_pos hhash] at hnone
      cases hnone
    · intro row row' hrow hchange
      rw [List.cons_append, Rows.get_cons_self] at hrow
      obtain rfl := Option.some.inj hrow
      rw [if_pos hhash] at hchange
      obtain rfl := Option.some.inj hchange
      exact h

theorem atCommit_audit {record : AuditRecord} {post : Unit → SaveRows → SaveWorld → Prop}
    (h : Rows.get (own ++ world.rows) (SaveKey.auditLog record.auditId) = none →
      post () (⟨SaveKey.auditLog record.auditId, some record⟩ :: own) world) :
    (SaveAudits.append record).atCommit (writeOnce Unit SaveRow) post own world := by
  rw [SaveAudits.append, atCommit_bind, atCommit_lift]
  intro checked hchecked
  obtain rfl := AuditRecord.new_eq_ok hchecked
  rw [atCommit_insert]
  exact h

theorem atCommit_outbox {event : OutboxEvent}
    {post : OutboxEvent → SaveRows → SaveWorld → Prop}
    (hnew : Rows.get (own ++ world.rows) (SaveKey.outboxEvent event.eventId) = none →
      post event (⟨SaveKey.outboxEvent event.eventId, some event⟩ :: own) world)
    (hold : Rows.get (own ++ world.rows) (SaveKey.outboxEvent event.eventId) = some event →
      post event own world) :
    (SaveOutbox.append event).atCommit (writeOnce Unit SaveRow) post own world := by
  rw [SaveOutbox.append, atCommit_bind, atCommit_insertNew]
  constructor
  · intro _ _ _ _
    rw [if_neg Bool.false_ne_true, atCommit_bind, atCommit_select]
    intro earlier hearlier
    cases hrow : Rows.get (own ++ earlier.rows) (SaveKey.outboxEvent event.eventId) with
    | none => trivial
    | some existing =>
        rw [atCommit_bind, atCommit_lift]
        intro _ hmatch
        have hsame : existing = event := beq_iff_eq.mp (require_eq_ok.mp hmatch)
        rw [hsame] at hrow ⊢
        exact hold (hearlier.get_append hrow)
  · intro hnone
    rw [if_pos rfl]
    exact hnew hnone

/-- What the items of an actor are. -/
theorem lists_items (kind : SavedKind) : Rows.Lists (SaveKey.item kind)
    (fun _ (row : SavedItem kind) => row) (SavedItemRepository.entry kind) := by
  constructor
  · intro index row
    cases kind with
    | monitor => rfl
    | favorite => rfl
  · rintro ⟨key, row⟩ index found hentry
    cases key with
    | item kind' itemId =>
        cases kind <;> cases kind'
        · obtain ⟨rfl, _⟩ := Prod.mk.inj (Option.some.inj hentry)
          rfl
        · cases hentry
        · cases hentry
        · obtain ⟨rfl, _⟩ := Prod.mk.inj (Option.some.inj hentry)
          rfl
    | _ => cases kind <;> cases hentry

theorem mem_itemsOf {actorId : String} {rows : SaveRows} :
    item ∈ SavedItemRepository.itemsOf kind actorId rows ↔
      (∃ itemId, rows.get (SaveKey.item kind itemId) = some item) ∧
        item.identity.actorId = actorId := by
  rw [SavedItemRepository.itemsOf, List.mem_filter, List.mem_map, beq_iff_eq]
  apply and_congr_left
  intro _
  constructor
  · rintro ⟨⟨itemId, row⟩, hmem, rfl⟩
    obtain ⟨stored, hstored, rfl⟩ := (lists_items kind).mem_iff.mp hmem
    exact ⟨itemId, hstored⟩
  · rintro ⟨itemId, hitem⟩
    exact ⟨(itemId, item), (lists_items kind).mem_iff.mpr ⟨item, hitem, rfl⟩, rfl⟩

end Statements

section Add

variable {own : SaveRows} {world : SaveWorld} {kind : SavedKind} {item : SavedItem kind}
  {duplicate : Failure} {rest : Option (SavedItem kind) → SaveTx Unit}

theorem atCommit_insertItem {post : Unit → SaveRows → SaveWorld → Prop} (hown : Reserving own)
    (hnew : world.rows.get (SaveKey.identity kind item.identity) = none →
      world.rows.get (SaveKey.item kind item.itemId) = none →
        (rest (some item)).atCommit (writeOnce Unit SaveRow) post
          (⟨SaveKey.item kind item.itemId, some item⟩ ::
            ⟨SaveKey.identity kind item.identity, some item.itemId⟩ :: own) world)
    (htaken : ∀ found : Option (SavedItem kind),
      (∀ stored, found = some stored →
        world.rows.get (SaveKey.item kind item.itemId) = some stored) →
      (rest found).atCommit (writeOnce Unit SaveRow) post own world) :
    (SavedItemRepository.insertItem kind item duplicate >>= fun _ =>
      SavedItemRepository.get kind item.itemId >>= rest).atCommit (writeOnce Unit SaveRow)
      post own world := by
  rw [atCommit_bind, SavedItemRepository.insertItem, atCommit_bind, atCommit_insertNew]
  constructor
  · intro _ _ _ _
    rw [if_neg Bool.false_ne_true, atCommit_pure, atCommit_bind, SavedItemRepository.get,
      atCommit_select]
    intro earlier hearlier
    apply htaken
    intro stored hstored
    rw [hown.get (by simp)] at hstored
    exact hearlier.evolved _ _ hstored
  · intro hidentity
    rw [if_pos rfl, atCommit_insert]
    intro hitem
    rw [hown.get (by simp)] at hidentity
    rw [List.cons_append, Rows.get_cons_ne (by simp), hown.get (by simp)] at hitem
    rw [atCommit_bind, SavedItemRepository.get, atCommit_select]
    intro earlier _
    rw [List.cons_append, Rows.get_cons_self]
    exact hnew hidentity hitem

/-- An item is added where its identity is free, or it is there already. -/
theorem atCommit_addItem {post : Unit → SaveRows → SaveWorld → Prop} (hown : Reserving own)
    (hnew : world.rows.get (SaveKey.identity kind item.identity) = none →
      world.rows.get (SaveKey.item kind item.itemId) = none →
        post () (⟨SaveKey.item kind item.itemId, some item⟩ ::
          ⟨SaveKey.identity kind item.identity, some item.itemId⟩ :: own) world)
    (hsame : world.rows.get (SaveKey.item kind item.itemId) = some item → post () own world) :
    (SavedItemRepository.add kind item).atCommit (writeOnce Unit SaveRow) post own world := by
  cases kind with
  | monitor =>
      apply atCommit_insertItem hown
      · intro hidentity hitem
        rw [atCommit_lift]
        exact fun _ _ => hnew hidentity hitem
      · rintro (_ | stored) hfound
        · rw [atCommit_bind, atCommit_select]
          intro earlier _
          cases Rows.get (own ++ earlier.rows) (SaveKey.identity .monitor item.identity) with
          | none => trivial
          | some existing => trivial
        · rw [atCommit_lift]
          intro _ hmatch
          have hstored := of_decide_eq_true (require_eq_ok.mp hmatch)
          exact hsame (hfound item (congrArg some hstored))
  | favorite =>
      apply atCommit_insertItem hown
      · intro hidentity hitem
        rw [atCommit_lift]
        exact fun _ _ => hnew hidentity hitem
      · rintro (_ | stored) hfound
        · trivial
        · rw [atCommit_lift]
          intro _ hmatch
          have hstored := of_decide_eq_true (require_eq_ok.mp hmatch)
          exact hsame (hfound item (congrArg some hstored))

end Add

section Call

variable {sha256 uuid5 : String → String} {call : SaveCall} {kind : SavedKind}
  {normalized : String} {item : SavedItem kind}

theorem SaveCall.newItem_eq_ok (h : call.newItem kind normalized = .ok item) :
    item.itemId = call.itemId ∧ item.identity = call.identity normalized := by
  cases kind with
  | monitor =>
      simp only [SaveCall.newItem, SaveCall.newMonitor] at h
      split at h
      · split at h
        · obtain rfl := Except.ok.inj h
          exact ⟨rfl, rfl⟩
        · cases h
      · cases h
  | favorite =>
      simp only [SaveCall.newItem, SaveCall.newFavorite] at h
      split at h
      · split at h
        · obtain rfl := Except.ok.inj h
          exact ⟨rfl, rfl⟩
        · cases h
      · cases h

variable (sha256 uuid5 call kind normalized item)

/-- The completed reservation of a call. -/
def SaveCall.completed (itemId : String) : IdempotencyRecord :=
  ⟨call.reservationKey kind, sha256 (call.requestText kind normalized), itemId⟩

/-- What is written with a new item. -/
def SaveCall.writes : SaveRows :=
  [⟨SaveKey.outboxEvent (uuid5 (kind.eventName item.itemId)),
      some (call.outboxEvent uuid5 kind normalized item.itemId)⟩,
    ⟨SaveKey.auditLog call.auditId, some (call.auditRecord kind normalized item.itemId)⟩,
    ⟨SaveKey.idempotencyKey (call.reservationKey kind),
      some (call.completed sha256 kind normalized item.itemId)⟩,
    ⟨SaveKey.item kind item.itemId, some item⟩,
    ⟨SaveKey.identity kind item.identity, some item.itemId⟩]

/-- A new item is stored with its reservation, its audit record and its event. -/
structure Creates (rows rows' : SaveRows) : Prop where
  made : call.newItem kind normalized = .ok item
  keyFree : rows.get (SaveKey.idempotencyKey (call.reservationKey kind)) = none
  identityFree : rows.get (SaveKey.identity kind item.identity) = none
  itemFree : rows.get (SaveKey.item kind item.itemId) = none
  auditFree : rows.get (SaveKey.auditLog call.auditId) = none
  event : ∀ event : OutboxEvent,
    rows.get (SaveKey.outboxEvent (uuid5 (kind.eventName item.itemId))) = some event →
      event = call.outboxEvent uuid5 kind normalized item.itemId
  written : ∀ key, rows'.get key =
    Rows.get (call.writes sha256 uuid5 kind normalized item ++ rows) key

/-- What a call that returns has done. -/
inductive Saved (rows rows' : SaveRows) : Prop where
  | replays (record : IdempotencyRecord)
      (hrecord : rows.get (SaveKey.idempotencyKey (call.reservationKey kind)) = some record)
      (hhash : record.requestHash = sha256 (call.requestText kind normalized))
      (hitem : rows.get (SaveKey.item kind record.resultRef) = some item)
      (hrows : ∀ key, rows'.get key = rows.get key)
  | finds (itemId : String)
      (hfree : rows.get (SaveKey.idempotencyKey (call.reservationKey kind)) = none)
      (hitem : rows.get (SaveKey.item kind itemId) = some item)
      (hidentity : item.identity = call.identity normalized)
      (hrows : ∀ key, rows'.get key =
        Rows.get (⟨SaveKey.idempotencyKey (call.reservationKey kind),
          some (call.completed sha256 kind normalized item.itemId)⟩ :: rows) key)
  | creates (h : Creates sha256 uuid5 call kind normalized item rows rows')
  | clashes (htaken : rows.get (SaveKey.item kind call.itemId) ≠ none)
      (hkeeps : ∀ key row, rows.get key = some row → rows'.get key = some row)
      (hrecords : ∀ (key : String) (record : IdempotencyRecord),
        rows'.get (SaveKey.idempotencyKey key) = some record →
          rows.get (SaveKey.idempotencyKey key) = some record ∨ record.resultRef = call.itemId)
      (hitems : ∀ (kind : SavedKind) itemId,
        rows'.get (SaveKey.item kind itemId) = rows.get (SaveKey.item kind itemId))

end Call

section Save

variable {sha256 uuid5 : String → String} {call : SaveCall} {kind : SavedKind}
  {normalized : String} {item : SavedItem kind} {world : SaveWorld}

/-- The reservation that a call begins with. -/
def SaveCall.pending (sha256 : String → String) (call : SaveCall) (kind : SavedKind)
    (normalized : String) : IdempotencyRecord :=
  ⟨call.reservationKey kind, sha256 (call.requestText kind normalized), call.pendingRef⟩

def SaveCall.reserving (sha256 : String → String) (call : SaveCall) (kind : SavedKind)
    (normalized : String) : SaveRows :=
  [⟨SaveKey.idempotencyKey (call.reservationKey kind),
    some (call.pending sha256 kind normalized)⟩]

theorem reserving_reserving : Reserving (call.reserving sha256 kind normalized) := by
  rw [Reserving, SaveCall.reserving, Rows.only_cons]
  exact ⟨⟨_, rfl⟩, Rows.only_nil⟩

theorem startsWith_pendingRef : PyText.startsWith call.pendingRef "pending:" = true := by
  simp [PyText.startsWith, SaveCall.pendingRef, toString, String.toList_append]

/-- The reservation of a call is completed before whatever it writes next. -/
theorem atCommit_complete_pending {own : SaveRows} {resultRef : String}
    {post : IdempotencyRecord → SaveRows → SaveWorld → Prop}
    (hpending : Rows.get own (SaveKey.idempotencyKey (call.reservationKey kind)) =
      some (call.pending sha256 kind normalized))
    (h : ∀ record, post record
      (⟨SaveKey.idempotencyKey (call.reservationKey kind),
          some (call.completed sha256 kind normalized resultRef)⟩ ::
        ⟨SaveKey.idempotencyKey (call.reservationKey kind),
          some (call.pending sha256 kind normalized)⟩ :: own) world) :
    (SaveIdempotency.complete (call.reservationKey kind)
      (sha256 (call.requestText kind normalized)) resultRef).atCommit (writeOnce Unit SaveRow)
      post own world :=
  atCommit_complete hpending rfl startsWith_pendingRef (h _)

/-- Beneath a later version of its row a reservation is not seen. -/
theorem get_reserving {below rows : SaveRows} {record : IdempotencyRecord} (key : SaveKey) :
    Rows.get (⟨SaveKey.idempotencyKey (call.reservationKey kind), some record⟩ ::
      ⟨SaveKey.idempotencyKey (call.reservationKey kind),
        some (call.pending sha256 kind normalized)⟩ ::
      (below ++ (call.reserving sha256 kind normalized ++ rows))) key =
    Rows.get (⟨SaveKey.idempotencyKey (call.reservationKey kind), some record⟩ ::
      (below ++ rows)) key := by
  by_cases hkey : SaveKey.idempotencyKey (call.reservationKey kind) = key
  · subst hkey
    rw [Rows.get_cons_self, Rows.get_cons_self]
  · rw [Rows.get_cons_ne hkey, Rows.get_cons_ne hkey, Rows.get_cons_ne hkey]
    apply Rows.get_append_congr
    exact Rows.get_cons_ne hkey _ _

theorem atCommit_create
    (hfree : world.rows.get (SaveKey.idempotencyKey (call.reservationKey kind)) = none) :
    (call.create sha256 uuid5 kind normalized).atCommit (writeOnce Unit SaveRow)
      (fun item own world => Saved sha256 uuid5 call kind normalized item world.rows
        (own ++ world.rows)) (call.reserving sha256 kind normalized) world := by
  rw [SaveCall.create, atCommit_bind, atCommit_lift]
  intro item hitem
  obtain ⟨hid, hidentity⟩ := SaveCall.newItem_eq_ok hitem
  rw [atCommit_bind]
  apply atCommit_addItem reserving_reserving
  · intro hidentityFree hitemFree
    rw [atCommit_bind]
    apply atCommit_complete_pending
    · rw [Rows.get_cons_ne (by simp), Rows.get_cons_ne (by simp)]
      exact Rows.get_cons_self _ _ _
    · intro _
      rw [atCommit_bind]
      apply atCommit_audit
      intro hauditFree
      have hauditFree : world.rows.get (SaveKey.auditLog call.auditId) = none := by
        simpa [SaveCall.reserving, SaveCall.auditRecord] using hauditFree
      have hcreates : ∀ own : SaveRows, (∀ event : OutboxEvent,
          world.rows.get (SaveKey.outboxEvent (uuid5 (kind.eventName item.itemId))) =
            some event → event = call.outboxEvent uuid5 kind normalized item.itemId) →
          (∀ key, Rows.get (own ++ world.rows) key =
            Rows.get (call.writes sha256 uuid5 kind normalized item ++ world.rows) key) →
          Saved sha256 uuid5 call kind normalized item world.rows (own ++ world.rows) :=
        fun own hevent hrows => .creates
          ⟨hitem, hfree, hidentityFree, hitemFree, hauditFree, hevent, hrows⟩
      have hbelow := @get_reserving sha256 call kind normalized
        [⟨SaveKey.item kind item.itemId, some item⟩,
          ⟨SaveKey.identity kind item.identity, some item.itemId⟩] world.rows
        (call.completed sha256 kind normalized item.itemId)
      rw [atCommit_bind]
      apply atCommit_outbox
      · intro heventFree
        apply hcreates
        · intro event hevent
          simp [SaveCall.reserving, SaveCall.outboxEvent, hevent] at heventFree
        · intro key
          exact Rows.get_append_congr [_, _] (hbelow key)
      · intro hevent
        have hevent : world.rows.get (SaveKey.outboxEvent (uuid5 (kind.eventName item.itemId))) =
            some (call.outboxEvent uuid5 kind normalized item.itemId) := by
          simpa [SaveCall.reserving, SaveCall.outboxEvent] using hevent
        apply hcreates
        · intro event hevent'
          exact (Option.some.inj (hevent.symm.trans hevent')).symm
        · intro key
          by_cases hkey : SaveKey.outboxEvent (uuid5 (kind.eventName item.itemId)) = key
          · subst hkey
            simpa [SaveCall.reserving, SaveCall.writes] using hevent
          · exact (Rows.get_append_congr [_] (hbelow key)).trans
              (Rows.get_cons_ne hkey _ _).symm
  · intro htaken
    rw [atCommit_bind]
    apply atCommit_complete_pending
    · exact Rows.get_cons_self _ _ _
    · intro _
      rw [atCommit_bind]
      apply atCommit_audit
      intro hauditFree
      have hauditFree : world.rows.get (SaveKey.auditLog call.auditId) = none := by
        simpa [SaveCall.reserving, SaveCall.auditRecord] using hauditFree
      have hclashes : ∀ own : SaveRows, (∀ key ∈ own.keys, world.rows.get key = none) →
          (∀ key, SaveKey.outboxEvent (uuid5 (kind.eventName item.itemId)) ≠ key →
            Rows.get (own ++ world.rows) key = Rows.get (⟨SaveKey.auditLog call.auditId,
              some (call.auditRecord kind normalized item.itemId)⟩ ::
              ⟨SaveKey.idempotencyKey (call.reservationKey kind),
                some (call.completed sha256 kind normalized item.itemId)⟩ :: world.rows) key) →
          Saved sha256 uuid5 call kind normalized item world.rows (own ++ world.rows) := by
        intro own hown hwritten
        apply Saved.clashes
        · rw [← hid, htaken]
          exact Option.some_ne_none item
        · exact Rows.keeps_of_free hown
        · intro key record hrecord
          rw [hwritten _ (by simp), Rows.get_cons_ne (by simp)] at hrecord
          by_cases hkey : call.reservationKey kind = key
          · subst hkey
            rw [Rows.get_cons_self] at hrecord
            obtain rfl := Option.some.inj hrecord
            exact Or.inr hid
          · rw [Rows.get_cons_ne (by simpa using hkey)] at hrecord
            exact Or.inl hrecord
        · intro kind' itemId
          rw [hwritten _ (by simp), Rows.get_cons_ne (by simp), Rows.get_cons_ne (by simp)]
      have hbelow := @get_reserving sha256 call kind normalized [] world.rows
        (call.completed sha256 kind normalized item.itemId)
      rw [atCommit_bind]
      apply atCommit_outbox
      · intro heventFree
        have heventFree : world.rows.get (SaveKey.outboxEvent
            (uuid5 (kind.eventName item.itemId))) = none := by
          simpa [SaveCall.reserving, SaveCall.outboxEvent] using heventFree
        apply hclashes
        · intro key hkey
          simp only [SaveCall.reserving, SaveCall.auditRecord, SaveCall.outboxEvent,
            Rows.keys_cons, Rows.keys_nil, List.mem_cons, List.not_mem_nil, or_false] at hkey
          rcases hkey with rfl | rfl | rfl | rfl | rfl
          · exact heventFree
          · exact hauditFree
          · exact hfree
          · exact hfree
          · exact hfree
        · intro key hkey
          exact (Rows.get_cons_ne hkey _ _).trans (Rows.get_append_congr [_] (hbelow key))
      · intro _
        apply hclashes
        · intro key hkey
          simp only [SaveCall.reserving, SaveCall.auditRecord, Rows.keys_cons, Rows.keys_nil,
            List.mem_cons, List.not_mem_nil, or_false] at hkey
          rcases hkey with rfl | rfl | rfl | rfl
          · exact hauditFree
          · exact hfree
          · exact hfree
          · exact hfree
        · intro key _
          exact Rows.get_append_congr [_] (hbelow key)

/-- No reservation is stored that is not completed. -/
def AllDone (rows : SaveRows) : Prop :=
  ∀ (key : String) (record : IdempotencyRecord),
    rows.get (SaveKey.idempotencyKey key) = some record →
      PyText.startsWith record.resultRef "pending:" = false

theorem AllDone.ne_pendingRef {rows : SaveRows} (h : AllDone rows) {key : String}
    {record : IdempotencyRecord} (hrecord : rows.get (SaveKey.idempotencyKey key) = some record) :
    record.resultRef ≠ call.pendingRef := by
  intro hsame
  have hdone := h key record hrecord
  rw [hsame, startsWith_pendingRef] at hdone
  cases hdone

theorem identity_of_found {rows : SaveRows}
    (h : ((SavedItemRepository.itemsOf kind call.actorId rows).insertionSort
      SavedItem.latestFirst).find? (call.wants normalized) = some item) :
    (∃ itemId, rows.get (SaveKey.item kind itemId) = some item) ∧
      item.identity = call.identity normalized := by
  have hwants := List.find?_some h
  rw [SaveCall.wants, Bool.and_eq_true, beq_iff_eq, beq_iff_eq] at hwants
  have hmem := (List.mem_insertionSort _).mp (List.mem_of_find?_eq_some h)
  obtain ⟨hstored, hactor⟩ := mem_itemsOf.mp hmem
  constructor
  · exact hstored
  · rw [SaveCall.identity, ← hactor, ← hwants.1, ← hwants.2]

/-- What a call that saves an item does while others commit. -/
theorem atCommit_save (hdone : AllDone world.rows) :
    (call.save sha256 uuid5 kind).atCommit (writeOnce Unit SaveRow)
      (fun item own world => ∃ normalized,
        kind.normalize call.identifierType call.identifier = .ok normalized ∧
          Saved sha256 uuid5 call kind normalized item world.rows (own ++ world.rows))
      [] world := by
  rw [SaveCall.save, atCommit_bind, atCommit_lift]
  intro _ _
  rw [atCommit_bind, atCommit_lift]
  intro normalized hnormalized
  rw [atCommit_bind]
  apply atCommit_reserve
  · intro hfree
    rw [if_neg (not_not.mpr rfl), SaveCall.findOrCreate, atCommit_bind, SavedItemRepository.list,
      atCommit_scan]
    intro earlier hearlier
    cases hfound : ((SavedItemRepository.itemsOf kind call.actorId
        (call.reserving sha256 kind normalized ++ earlier.rows)).insertionSort
          SavedItem.latestFirst).find? (call.wants normalized) with
    | none =>
        unfold SaveCall.reserving SaveCall.pending at hfound
        simp only [hfound]
        apply atCommit_mono _ (atCommit_create hfree)
        exact fun item own hsaved => ⟨normalized, hnormalized, hsaved⟩
    | some item =>
        obtain ⟨⟨itemId, hitem⟩, hidentity⟩ := identity_of_found hfound
        unfold SaveCall.reserving SaveCall.pending at hfound
        simp only [hfound]
        rw [reserving_reserving.get (by simp)] at hitem
        rw [atCommit_bind]
        apply atCommit_complete_pending
        · exact Rows.get_cons_self _ _ _
        · intro _
          refine ⟨normalized, hnormalized, .finds itemId hfree
            (hearlier.evolved _ _ hitem) hidentity fun key => ?_⟩
          exact @get_reserving sha256 call kind normalized [] world.rows
            (call.completed sha256 kind normalized item.itemId) key
  · intro record hrecord hhash
    rw [if_pos (hdone.ne_pendingRef hrecord), SaveCall.replay, atCommit_bind, atCommit_lift]
    intro _ _
    rw [atCommit_bind, SavedItemRepository.get, atCommit_select]
    intro earlier hearlier
    cases hitem : Rows.get ([] ++ earlier.rows) (SaveKey.item kind record.resultRef) with
    | none => trivial
    | some item =>
        exact ⟨normalized, hnormalized, .replays record hrecord hhash
          (hearlier.evolved _ _ hitem) fun _ => rfl⟩

/-- What a call that has lost its race has found: somebody else's item of its own
identity, while its key was free. -/
structure Loses (call : SaveCall) (kind : SavedKind) (rows : SaveRows) : Prop where
  authorized : call.authorize kind = .ok ()
  keyFree : rows.get (SaveKey.idempotencyKey (call.reservationKey kind)) = none
  taken : ∃ normalized, kind.normalize call.identifierType call.identifier = .ok normalized ∧
    rows.get (SaveKey.identity kind (call.identity normalized)) ≠ none

theorem Failure.IsValueError.ne_lost {error : Failure} (h : error.IsValueError) :
    error ≠ kind.lost := by
  obtain ⟨message, rfl⟩ := h
  cases kind <;> exact Failure.noConfusion

theorem normalize_ne_lost {identifierType : CounterpartyIdentifierType} {identifier : String}
    {error : Failure} (h : kind.normalize identifierType identifier = .error error) :
    error ≠ kind.lost := by
  cases kind with
  | monitor => exact (validate_raises h).ne_lost
  | favorite => cases h

theorem newItem_raises {error : Failure} (h : call.newItem kind normalized = .error error) :
    error.IsValueError := by
  cases kind with
  | monitor =>
      simp only [SaveCall.newItem, SaveCall.newMonitor] at h
      split at h
      · split at h
        · cases h
        · exact ⟨_, (Except.error.inj h).symm⟩
      · exact ⟨_, (Except.error.inj h).symm⟩
  | favorite =>
      simp only [SaveCall.newItem, SaveCall.newFavorite] at h
      split at h
      · split at h
        · cases h
        · exact ⟨_, (Except.error.inj h).symm⟩
      · exact ⟨_, (Except.error.inj h).symm⟩

theorem avoids_require {condition : Bool} {error : Failure} (h : error ≠ kind.lost) :
    (lift (require condition error) : SaveTx Unit).Avoids (· = kind.lost) := by
  apply avoids_lift
  intro raised hraised
  rw [← (require_eq_error.mp hraised).2]
  exact h

theorem avoids_raise {α : Type} {error : Failure} (h : error ≠ kind.lost) :
    (raise error : SaveTx α).Avoids (· = kind.lost) := h

theorem avoids_reserve {key requestHash resultRef : String} :
    (SaveIdempotency.reserve key requestHash resultRef).Avoids (· = kind.lost) := by
  apply avoids_bind
  · exact fun _ => trivial
  · rintro (_ | _)
    · apply avoids_bind
      · exact avoids_select _
      · rintro (_ | existing)
        · exact avoids_raise (by cases kind <;> decide)
        · apply avoids_bind
          · apply avoids_require
            cases kind <;> decide
          · exact fun _ => trivial
    · trivial

theorem avoids_complete {key requestHash resultRef : String} :
    (SaveIdempotency.complete key requestHash resultRef).Avoids (· = kind.lost) := by
  apply avoids_bind
  · apply avoids_require
    cases kind <;> decide
  · intro _
    apply avoids_bind
    · exact fun _ => trivial
    · rintro (_ | existing)
      · exact avoids_raise (by cases kind <;> decide)
      · apply avoids_bind
        · apply avoids_require
          cases kind <;> decide
        · intro _
          split
          · trivial
          · apply avoids_bind
            · exact fun _ => trivial
            · rintro (_ | updated)
              · exact avoids_raise (by cases kind <;> decide)
              · trivial

theorem avoids_audit {record : AuditRecord} :
    (SaveAudits.append record).Avoids (· = kind.lost) := by
  apply avoids_bind
  · apply avoids_lift
    intro error herror
    apply Failure.IsValueError.ne_lost
    simp only [AuditRecord.new, bind_eq_error, require_eq_error] at herror
    rcases herror with ⟨_, rfl⟩ | ⟨_, _, ⟨_, rfl⟩ | ⟨_, _, ⟨_, rfl⟩ | ⟨_, _, h⟩⟩⟩
    · exact ⟨_, rfl⟩
    · exact ⟨_, rfl⟩
    · exact ⟨_, rfl⟩
    · cases h
  · rintro record (_ | stored)
    · trivial
    · exact avoids_raise (by cases kind <;> decide)

theorem avoids_outbox {event : OutboxEvent} :
    (SaveOutbox.append event).Avoids (· = kind.lost) := by
  apply avoids_bind
  · exact fun _ => trivial
  · rintro (_ | _)
    · apply avoids_bind
      · exact avoids_select _
      · rintro (_ | existing)
        · exact avoids_raise (by cases kind <;> decide)
        · apply avoids_bind
          · apply avoids_require
            cases kind <;> decide
          · exact fun _ => trivial
    · trivial

section Lost

variable {α β : Type} {own : SaveRows} {holds : SaveWorld → Prop} {p : SaveTx α}

theorem atRaise_avoiding (hp : p.Avoids (· = kind.lost)) :
    p.atRaise (writeOnce Unit SaveRow)
      (fun error _ world => error = kind.lost → holds world) own world :=
  atRaise_of_avoids hp fun _ _ hne hlost => absurd hlost hne

/-- What loses a race in its first part, if at all. -/
theorem atRaise_bind_avoiding {rest : α → SaveTx β}
    (hp : p.atRaise (writeOnce Unit SaveRow)
      (fun error _ world => error = kind.lost → holds world) own world)
    (hrest : ∀ result, (rest result).Avoids (· = kind.lost)) :
    (p >>= rest).atRaise (writeOnce Unit SaveRow)
      (fun error _ world => error = kind.lost → holds world) own world :=
  atRaise_bind_of_avoids hp hrest fun _ _ hne hlost => absurd hlost hne

end Lost

/-- An item that cannot be added has its identity taken. -/
theorem atRaise_add {own : SaveRows} {holds : SaveWorld → Prop} (hown : Reserving own)
    (h : world.rows.get (SaveKey.identity kind item.identity) ≠ none → holds world) :
    (SavedItemRepository.add kind item).atRaise (writeOnce Unit SaveRow)
      (fun error _ world => error = kind.lost → holds world) own world := by
  have hinsert : ∀ (duplicate : Failure) (rest : Option (SavedItem kind) → SaveTx Unit),
      duplicate ≠ kind.lost →
      ((rest (some item)).Avoids (· = kind.lost)) →
      (SavedItemRepository.insertItem kind item duplicate >>= fun _ =>
        SavedItemRepository.get kind item.itemId >>= rest).atRaise (writeOnce Unit SaveRow)
        (fun error _ world => error = kind.lost → holds world) own world := by
    intro duplicate rest hduplicate hrest
    rw [atRaise_bind, SavedItemRepository.insertItem]
    constructor
    · apply atRaise_avoiding
      apply avoids_bind
      · exact fun _ => trivial
      · rintro (_ | _)
        · trivial
        · rintro (_ | stored)
          · trivial
          · exact hduplicate
    · rw [atCommit_bind, atCommit_insertNew]
      constructor
      · intro earlier existing hearlier hexisting
        rw [hown.get (by simp)] at hexisting
        have htaken := hearlier.evolved _ _ hexisting
        rw [if_neg Bool.false_ne_true, atCommit_pure]
        apply atRaise_of_forall
        exact fun _ _ _ => h (by rw [htaken]; exact Option.some_ne_none _)
      · intro _
        rw [if_pos rfl, atCommit_insert]
        intro _
        rw [atRaise_bind]
        constructor
        · exact fun _ _ => trivial
        · rw [SavedItemRepository.get, atCommit_select]
          intro earlier _
          rw [List.cons_append, Rows.get_cons_self]
          exact atRaise_avoiding hrest
  have hsame : ∀ error : Failure, (lift (require (decide (item = item)) error) :
      SaveTx Unit).Avoids (· = kind.lost) := by
    intro error
    rw [decide_eq_true rfl]
    trivial
  cases kind with
  | monitor => exact hinsert _ _ (by decide) (hsame _)
  | favorite => exact hinsert _ _ (by decide) (hsame _)

/-- A call that raises the error of a lost race has lost one. -/
theorem atRaise_save (hdone : AllDone world.rows) :
    (call.save sha256 uuid5 kind).atRaise (writeOnce Unit SaveRow)
      (fun error _ world => error = kind.lost → Loses call kind world.rows) [] world := by
  rw [SaveCall.save, atRaise_bind, atRaise_lift, atCommit_lift]
  constructor
  · intro error herror hlost
    rw [SaveCall.authorize, RBACAuthorizer.require, require_eq_error] at herror
    rw [← herror.2] at hlost
    cases kind <;> cases hlost
  intro _ hauthorized
  rw [atRaise_bind, atRaise_lift, atCommit_lift]
  constructor
  · exact fun error herror hlost => absurd hlost (normalize_ne_lost herror)
  intro normalized hnormalized
  rw [atRaise_bind]
  constructor
  · exact atRaise_avoiding avoids_reserve
  apply atCommit_reserve
  · intro hfree
    rw [if_neg (not_not.mpr rfl), SaveCall.findOrCreate, atRaise_bind]
    constructor
    · exact fun _ _ => trivial
    rw [SavedItemRepository.list, atCommit_scan]
    intro earlier _
    split
    · exact atRaise_avoiding (avoids_bind avoids_complete fun _ => trivial)
    · rw [SaveCall.create, atRaise_bind, atRaise_lift, atCommit_lift]
      constructor
      · exact fun error herror hlost => absurd hlost ((newItem_raises herror).ne_lost)
      intro item hitem
      apply atRaise_bind_avoiding
      · apply atRaise_add reserving_reserving
        intro htaken
        rw [(SaveCall.newItem_eq_ok hitem).2] at htaken
        exact ⟨hauthorized, hfree, normalized, hnormalized, htaken⟩
      · intro _
        apply avoids_bind avoids_complete
        intro _
        apply avoids_bind avoids_audit
        intro _
        exact avoids_bind avoids_outbox fun _ => trivial
  · intro record hrecord _
    rw [if_pos (hdone.ne_pendingRef hrecord)]
    apply atRaise_avoiding
    apply avoids_bind
    · apply avoids_require
      cases kind <;> decide
    · intro _
      apply avoids_bind
      · exact avoids_select _
      · rintro (_ | stored)
        · exact avoids_raise (by cases kind <;> decide)
        · trivial

end Save

end ShemaPlatform
