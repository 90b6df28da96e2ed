/-
What a call that saves an item answers when it runs alone.
-/
import ShemaPlatform.SavedItemRules

namespace ShemaPlatform

open Calendar ReadCommitted ReadCommitted.Prog

section Statements

variable {own rows : SaveRows} {key requestHash resultRef : String} {kind : SavedKind}
  {item : SavedItem kind} {record pending : IdempotencyRecord}

theorem execute_reserve_new (hfree : rows.get (SaveKey.idempotencyKey key) = none) :
    (SaveIdempotency.reserve key requestHash resultRef).execute () rows [] =
      .ok (⟨key, requestHash, resultRef⟩,
        [⟨SaveKey.idempotencyKey key, some ⟨key, requestHash, resultRef⟩⟩]) := by
  rw [SaveIdempotency.reserve, execute_bind, execute_insertNew, List.nil_append, hfree]
  rfl

theorem execute_reserve_old (hrecord : rows.get (SaveKey.idempotencyKey key) = some record) :
    (SaveIdempotency.reserve key requestHash resultRef).execute () rows [] =
      if record.requestHash = requestHash then .ok (record, [])
      else .error (.idempotencyConflict "idempotency key reused with different request") := by
  rw [SaveIdempotency.reserve, execute_bind, execute_insertNew, List.nil_append, hrecord]
  simp only [Option.isNone_some, Bool.false_eq_true, if_false, execute_bind, execute_select,
    List.nil_append, hrecord]
  by_cases hsame : record.requestHash = requestHash
  · simp [hsame, require]
  · simp [hsame, require]

theorem execute_complete (hpending : Rows.get own (SaveKey.idempotencyKey key) = some pending)
    (hhash : pending.requestHash = requestHash)
    (hstarts : PyText.startsWith pending.resultRef "pending:" = true)
    (hblank : PyText.blank resultRef = false) :
    (SaveIdempotency.complete key requestHash resultRef).execute () rows own =
      .ok ({ pending with resultRef },
        ⟨SaveKey.idempotencyKey key, some { pending with resultRef }⟩ ::
          ⟨SaveKey.idempotencyKey key, some pending⟩ :: own) := by
  have hmine : Rows.get (own ++ rows) (SaveKey.idempotencyKey key) = some pending := by
    rw [Rows.get_append_of_mem (Rows.mem_keys_of_get hpending), hpending]
  have hselect : (selectForUpdate (SaveKey.idempotencyKey key) :
      SaveTx (Option IdempotencyRecord)).execute () rows own =
        .ok (some pending, ⟨SaveKey.idempotencyKey key, some pending⟩ :: own) := by
    simp [selectForUpdate, execute, hmine]
  simp [SaveIdempotency.complete, execute_bind, hselect, require, hblank, hhash, hstarts,
    execute_updateWhere]

theorem execute_add (hown : Reserving own)
    (hidentity : rows.get (SaveKey.identity kind item.identity) = none)
    (hitem : rows.get (SaveKey.item kind item.itemId) = none) :
    (SavedItemRepository.add kind item).execute () rows own =
      .ok ((), ⟨SaveKey.item kind item.itemId, some item⟩ ::
        ⟨SaveKey.identity kind item.identity, some item.itemId⟩ :: own) := by
  have hinsert : ∀ duplicate : Failure,
      (SavedItemRepository.insertItem kind item duplicate).execute () rows own =
        .ok ((), ⟨SaveKey.item kind item.itemId, some item⟩ ::
          ⟨SaveKey.identity kind item.identity, some item.itemId⟩ :: own) := by
    intro duplicate
    rw [SavedItemRepository.insertItem, execute_bind, execute_insertNew, hown.get (by simp),
      hidentity]
    apply execute_insert_eq_ok.mpr
    constructor
    · rw [List.cons_append, Rows.get_cons_ne (by simp), hown.get (by simp), hitem]
    · rfl
  cases kind with
  | monitor =>
      rw [SavedItemRepository.add, SavedItemRepository.addMonitor, execute_bind, hinsert]
      simp [SavedItemRepository.get, execute_bind, require]
  | favorite =>
      rw [SavedItemRepository.add, SavedItemRepository.addFavorite, execute_bind, hinsert]
      simp [SavedItemRepository.get, execute_bind, require]

theorem execute_audit {record : AuditRecord} (hnew : record.new = .ok record)
    (hfree : Rows.get (own ++ rows) (SaveKey.auditLog record.auditId) = none) :
    (SaveAudits.append record).execute () rows own =
      .ok ((), ⟨SaveKey.auditLog record.auditId, some record⟩ :: own) := by
  rw [SaveAudits.append, hnew, execute_bind, execute_lift_ok]
  exact execute_insert_eq_ok.mpr ⟨hfree, rfl⟩

theorem execute_outbox {event : OutboxEvent}
    (hfree : Rows.get (own ++ rows) (SaveKey.outboxEvent event.eventId) = none) :
    (SaveOutbox.append event).execute () rows own =
      .ok (event, ⟨SaveKey.outboxEvent event.eventId, some event⟩ :: own) := by
  rw [SaveOutbox.append, execute_bind, execute_insertNew, hfree]
  rfl

end Statements

section Save

variable {sha256 uuid5 : String → String} {rows : SaveRows} {call : SaveCall}
  {kind : SavedKind} {normalized : String} {item : SavedItem kind}
  {record : IdempotencyRecord}

/-- A call whose key is bound answers what its key says. -/
theorem execute_save_bound (hauthorized : call.authorize kind = .ok ())
    (hnormalized : kind.normalize call.identifierType call.identifier = .ok normalized)
    (hrecord : rows.get (SaveKey.idempotencyKey (call.reservationKey kind)) = some record)
    (hdone : PyText.startsWith record.resultRef "pending:" = false)
    (hitem : rows.get (SaveKey.item kind record.resultRef) = some item) :
    (call.save sha256 uuid5 kind).execute () rows [] =
      if record.requestHash = sha256 (call.requestText kind normalized) then .ok (item, [])
      else .error (.idempotencyConflict "idempotency key reused with different request") := by
  have hmine : record.resultRef ≠ call.pendingRef := by
    intro hsame
    rw [hsame, startsWith_pendingRef] at hdone
    cases hdone
  rw [SaveCall.save, execute_bind, hauthorized, execute_lift_ok]
  simp only [execute_bind, hnormalized, execute_lift_ok, execute_reserve_old hrecord]
  by_cases hsame : record.requestHash = sha256 (call.requestText kind normalized)
  · simp [hsame, hmine, SaveCall.replay, execute_bind, require, hdone, SavedItemRepository.get,
      hitem]
  · simp [hsame]

/-- A call whose key is free looks among the items of its actor. -/
theorem execute_save_free (hauthorized : call.authorize kind = .ok ())
    (hnormalized : kind.normalize call.identifierType call.identifier = .ok normalized)
    (hfree : rows.get (SaveKey.idempotencyKey (call.reservationKey kind)) = none) :
    (call.save sha256 uuid5 kind).execute () rows [] =
      (call.findOrCreate sha256 uuid5 kind normalized).execute () rows
        (call.reserving sha256 kind normalized) := by
  rw [SaveCall.save, execute_bind, hauthorized, execute_lift_ok]
  simp only [execute_bind, hnormalized, execute_lift_ok, execute_reserve_new hfree]
  rw [if_neg (not_not.mpr rfl)]
  rfl

theorem execute_complete_pending {own : SaveRows} {resultRef : String}
    (hpending : Rows.get own (SaveKey.idempotencyKey (call.reservationKey kind)) =
      some (call.pending sha256 kind normalized))
    (hblank : PyText.blank resultRef = false) :
    (SaveIdempotency.complete (call.reservationKey kind)
      (sha256 (call.requestText kind normalized)) resultRef).execute () rows own =
      .ok (call.completed sha256 kind normalized resultRef,
        ⟨SaveKey.idempotencyKey (call.reservationKey kind),
            some (call.completed sha256 kind normalized resultRef)⟩ ::
          ⟨SaveKey.idempotencyKey (call.reservationKey kind),
            some (call.pending sha256 kind normalized)⟩ :: own) :=
  execute_complete hpending rfl startsWith_pendingRef hblank

theorem execute_found (hfound : ((SavedItemRepository.itemsOf kind call.actorId
      (call.reserving sha256 kind normalized ++ rows)).insertionSort
        SavedItem.latestFirst).find? (call.wants normalized) = some item)
    (hblank : PyText.blank item.itemId = false) :
    (call.findOrCreate sha256 uuid5 kind normalized).execute () rows
      (call.reserving sha256 kind normalized) =
      .ok (item, ⟨SaveKey.idempotencyKey (call.reservationKey kind),
          some (call.completed sha256 kind normalized item.itemId)⟩ ::
        ⟨SaveKey.idempotencyKey (call.reservationKey kind),
          some (call.pending sha256 kind normalized)⟩ ::
        call.reserving sha256 kind normalized) := by
  have hpending : Rows.get (call.reserving sha256 kind normalized)
      (SaveKey.idempotencyKey (call.reservationKey kind)) =
        some (call.pending sha256 kind normalized) := Rows.get_cons_self _ _ _
  rw [SaveCall.findOrCreate, execute_bind, SavedItemRepository.list, execute_scan]
  simp only [hfound, execute_bind]
  rw [execute_complete_pending hpending hblank]
  rfl

theorem auditRecord_new (hactor : PyText.blank call.actorId = false) (itemId : String) :
    (call.auditRecord kind normalized itemId).new =
      .ok (call.auditRecord kind normalized itemId) := by
  have hblanks : PyText.blank (kind.label ++ ".created") = false ∧
      PyText.blank kind.resourceType = false ∧ PyText.blank "success" = false := by
    cases kind <;> decide
  simp [AuditRecord.new, SaveCall.auditRecord, require, call.uuid.2.2, hactor, hblanks]
  rfl

theorem actor_of_made (h : call.newItem kind normalized = .ok item) :
    PyText.blank call.actorId = false := by
  have hvalid : ∀ {kind : SavedKind} (item : SavedItem kind),
      PyText.blank item.identity.actorId = false := by
    rintro (_ | _) item
    · exact item.monitor.valid.2.1
    · exact item.valid.2.1
  have hactor := hvalid item
  rw [(SaveCall.newItem_eq_ok h).2] at hactor
  exact hactor

/-- A call that finds nothing makes its item. -/
theorem execute_created (hfound : ((SavedItemRepository.itemsOf kind call.actorId
      (call.reserving sha256 kind normalized ++ rows)).insertionSort
        SavedItem.latestFirst).find? (call.wants normalized) = none)
    (hmade : call.newItem kind normalized = .ok item)
    (hidentity : rows.get (SaveKey.identity kind item.identity) = none)
    (hitem : rows.get (SaveKey.item kind item.itemId) = none)
    (haudit : rows.get (SaveKey.auditLog call.auditId) = none)
    (hevent : rows.get (SaveKey.outboxEvent (uuid5 (kind.eventName item.itemId))) = none) :
    ∃ own, (call.findOrCreate sha256 uuid5 kind normalized).execute () rows
      (call.reserving sha256 kind normalized) = .ok (item, own) := by
  have hreserving : Rows.get (call.reserving sha256 kind normalized)
      (SaveKey.idempotencyKey (call.reservationKey kind)) =
        some (call.pending sha256 kind normalized) := Rows.get_cons_self _ _ _
  have hpending : Rows.get (⟨SaveKey.item kind item.itemId, some item⟩ ::
      ⟨SaveKey.identity kind item.identity, some item.itemId⟩ ::
      call.reserving sha256 kind normalized)
      (SaveKey.idempotencyKey (call.reservationKey kind)) =
        some (call.pending sha256 kind normalized) := by
    rw [Rows.get_cons_ne (by simp), Rows.get_cons_ne (by simp), hreserving]
  have hblank : PyText.blank item.itemId = false := by
    rw [(SaveCall.newItem_eq_ok hmade).1]
    exact call.uuid.1
  rw [SaveCall.findOrCreate, execute_bind, SavedItemRepository.list, execute_scan]
  simp only [hfound, SaveCall.create, execute_bind, hmade, execute_lift_ok,
    execute_add reserving_reserving hidentity hitem, execute_complete_pending hpending hblank]
  rw [execute_audit (auditRecord_new (actor_of_made hmade) _)]
  · simp only
    rw [execute_outbox]
    · exact ⟨_, rfl⟩
    · simpa [SaveCall.reserving, SaveCall.outboxEvent] using hevent
  · simpa [SaveCall.reserving, SaveCall.auditRecord] using haudit

/-- A call whose item cannot be made raises. -/
theorem execute_refused {error : Failure} (hfound : ((SavedItemRepository.itemsOf kind
      call.actorId (call.reserving sha256 kind normalized ++ rows)).insertionSort
        SavedItem.latestFirst).find? (call.wants normalized) = none)
    (hmade : call.newItem kind normalized = .error error) :
    (call.findOrCreate sha256 uuid5 kind normalized).execute () rows
      (call.reserving sha256 kind normalized) = .error error := by
  rw [SaveCall.findOrCreate, execute_bind, SavedItemRepository.list, execute_scan]
  simp only [hfound, SaveCall.create, execute_bind, hmade]
  rfl

end Save

end ShemaPlatform
