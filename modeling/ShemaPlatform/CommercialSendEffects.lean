/-
What each transaction of a send does at its commit, whoever else has committed while it
ran.
-/
import ShemaPlatform.CommercialSendWorkflow
import ShemaPlatform.RepositoryRules

namespace ShemaPlatform

open Calendar ReadCommitted ReadCommitted.Prog
open RepeatOrderService (clock)

namespace CommercialSend

/-- How sends develop the database: the log only grows, an action leaves the statuses of
a send for good, a key stays bound to its request, and an event stays. -/
structure SendEvolves (rows rows' : Rows Row) : Prop where
  log : rows <:+ rows'
  action : ∀ actionId (row : CommercialAction),
    rows.get (Key.commercialAction actionId) = some row →
      ∃ row' : CommercialAction, rows'.get (Key.commercialAction actionId) = some row' ∧
        (row.status ≠ .ready → row.status ≠ .sending → row' = row)
  record : ∀ key (record : IdempotencyRecord),
    rows.get (Key.idempotencyKey key) = some record →
      ∃ record' : IdempotencyRecord, rows'.get (Key.idempotencyKey key) = some record' ∧
        record'.requestHash = record.requestHash
  event : ∀ eventId (event : OutboxEvent),
    rows.get (Key.outboxEvent eventId) = some event →
      rows'.get (Key.outboxEvent eventId) = some event

theorem SendEvolves.refl (rows : Rows Row) : SendEvolves rows rows :=
  ⟨List.suffix_refl rows, fun _ row h => ⟨row, h, fun _ _ => rfl⟩,
    fun _ record h => ⟨record, h, rfl⟩, fun _ _ h => h⟩

theorem SendEvolves.trans {rows rows' rows'' : Rows Row} (h : SendEvolves rows rows')
    (h' : SendEvolves rows' rows'') : SendEvolves rows rows'' := by
  constructor
  · exact h.log.trans h'.log
  · intro actionId row hrow
    rcases h.action actionId row hrow with ⟨row', hrow', hkept⟩
    rcases h'.action actionId row' hrow' with ⟨row'', hrow'', hkept'⟩
    use row'', hrow''
    intro hready hsending
    obtain rfl := hkept hready hsending
    exact hkept' hready hsending
  · intro key record hrecord
    rcases h.record key record hrecord with ⟨record', hrecord', hsame⟩
    rcases h'.record key record' hrecord' with ⟨record'', hrecord'', hsame'⟩
    exact ⟨record'', hrecord'', hsame'.trans hsame⟩
  · intro eventId event hevent
    exact h'.event eventId event (h.event eventId event hevent)

def sendEvolution : Evolution Instant Row where
  rel world world' := SendEvolves world.rows world'.rows
  refl world := .refl world.rows
  trans := SendEvolves.trans

/-- The reservation of a key that a claim has made, or has found. -/
inductive Reserves (sha256 : String → String) (call : CommercialSend) (rows : Rows Row) :
    Rows Row → Prop where
  | makes (hnone : rows.get (Key.idempotencyKey call.idempotencyKey) = none) :
      Reserves sha256 call rows [⟨Key.idempotencyKey call.idempotencyKey,
        some ⟨call.idempotencyKey, call.requestHash sha256, pendingRef call.actionId⟩⟩]
  | finds (record : IdempotencyRecord)
      (hrecord : rows.get (Key.idempotencyKey call.idempotencyKey) = some record)
      (hhash : record.requestHash = call.requestHash sha256) : Reserves sha256 call rows []

/-- The record that a completion has found, and what it has left under the key. -/
inductive Completes (sha256 : String → String) (call : CommercialSend)
    (externalMessageId : String) (rows : Rows Row) : String → Rows Row → Prop where
  | finds (record : IdempotencyRecord)
      (hrecord : rows.get (Key.idempotencyKey call.idempotencyKey) = some record)
      (hhash : record.requestHash = call.requestHash sha256)
      (hfinal : Idempotency.pending record = false) :
      Completes sha256 call externalMessageId rows record.resultRef
        [⟨Key.idempotencyKey call.idempotencyKey, some record⟩]
  | makes (record : IdempotencyRecord)
      (hrecord : rows.get (Key.idempotencyKey call.idempotencyKey) = some record)
      (hhash : record.requestHash = call.requestHash sha256)
      (hpending : Idempotency.pending record = true) :
      Completes sha256 call externalMessageId rows externalMessageId
        [⟨Key.idempotencyKey call.idempotencyKey,
            some { record with resultRef := externalMessageId }⟩,
          ⟨Key.idempotencyKey call.idempotencyKey, some record⟩]

/-- What an append has left of its event. -/
inductive Announces (event : OutboxEvent) (rows : Rows Row) : Rows Row → Prop where
  | appends (hnone : rows.get (Key.outboxEvent event.eventId) = none) :
      Announces event rows [⟨Key.outboxEvent event.eventId, some event⟩]
  | finds (hevent : rows.get (Key.outboxEvent event.eventId) = some event) :
      Announces event rows []

/-- Keys of the records kept beside the actions. -/
def Beside : Key → Prop
  | .auditLog _ => True
  | .quarantineRecord _ => True
  | _ => False

/-- The effect of each transaction at its commit; a result that is returned at once has been
read from an earlier log. -/
inductive Effect (sha256 uuid5 : String → String) (call : CommercialSend)
    (rows : Rows Row) : Stage → Stage → Rows Row → Prop where
  | replays (now : Instant) (record : IdempotencyRecord) (result : CommunicationSendResult)
      (hlog : ⟨Key.idempotencyKey call.idempotencyKey, some record⟩ ∈ rows)
      (hhash : record.requestHash = call.requestHash sha256)
      (hfinal : PyText.startsWith record.resultRef "pending:" = false)
      (hresult : result.externalMessageId = record.resultRef)
      (hsent : ∃ row : CommercialAction,
        rows.get (Key.commercialAction call.actionId) = some row ∧ row.status = .sent) :
      Effect sha256 uuid5 call rows (.started now) (.returned result) []
  | claims (now : Instant) (row : CommercialAction) (reserved : Rows Row)
      (hreserved : Reserves sha256 call rows reserved)
      (hrow : rows.get (Key.commercialAction call.actionId) = some row)
      (hclaimable : CommercialActions.claimable now row = true) :
      Effect sha256 uuid5 call rows (.started now)
        (.sending (CommercialActions.claimed call.workerId (leaseUntil now) row))
        (⟨Key.commercialAction call.actionId,
          some (CommercialActions.claimed call.workerId (leaseUntil now) row)⟩ :: reserved)
  | agrees (result answer : CommunicationSendResult) (resultRef : String)
      (completed : Rows Row)
      (hcompleted : Completes sha256 call result.externalMessageId rows resultRef completed)
      (hsent : ∃ row : CommercialAction,
        rows.get (Key.commercialAction call.actionId) = some row ∧ row.status = .sent)
      (hsame : resultRef = result.externalMessageId)
      (hanswer : answer.externalMessageId = resultRef) :
      Effect sha256 uuid5 call rows (.answered result) (.returned answer) completed
  | completes (result : CommunicationSendResult) (resultRef : String) (row : CommercialAction)
      (now : Instant) (completed announced beside : Rows Row) (event : OutboxEvent)
      (hcompleted : Completes sha256 call result.externalMessageId rows resultRef completed)
      (hrow : rows.get (Key.commercialAction call.actionId) = some row)
      (hreserved : CommercialActions.reservedBy call.workerId now row = true)
      (htype : event.eventType = "commercial_action.sent")
      (haggregate : event.aggregateId = call.actionId)
      (hannounced : Announces event rows announced) (hbeside : beside.Only Beside) :
      Effect sha256 uuid5 call rows (.answered result) (.returned result)
        (beside ++ (announced ++ ⟨Key.commercialAction call.actionId,
          some (CommercialActions.released .sent row)⟩ :: completed))
  | fails (error : Failure) (row : CommercialAction) (now : Instant)
      (announced beside beside' : Rows Row) (event : OutboxEvent)
      (hrow : rows.get (Key.commercialAction call.actionId) = some row)
      (hreserved : CommercialActions.reservedBy call.workerId now row = true)
      (htype : event.eventType = "commercial_action.external_effect_unknown")
      (hannounced : Announces event rows announced) (hbeside : beside.Only Beside)
      (hbeside' : beside'.Only Beside) :
      Effect sha256 uuid5 call rows .unknown (.raised error)
        (beside ++ (announced ++ (beside' ++ [⟨Key.commercialAction call.actionId,
          some (CommercialActions.released .failed row)⟩])))
  | reports (error : Failure) (announced beside beside' : Rows Row) (event : OutboxEvent)
      (htype : event.eventType = "commercial_action.external_effect_unknown")
      (hannounced : Announces event rows announced) (hbeside : beside.Only Beside)
      (hbeside' : beside'.Only Beside) :
      Effect sha256 uuid5 call rows .unknown (.raised error)
        (beside ++ (announced ++ beside'))

variable {sha256 uuid5 : String → String} {call : CommercialSend} {own : Rows Row}
  {world : World Instant Row} {now : Instant}

theorem atCommit_claimForSend {post : Stage → Rows Row → World Instant Row → Prop}
    (h : ∀ row : CommercialAction,
      Rows.get (own ++ world.rows) (Key.commercialAction call.actionId) = some row →
        CommercialActions.claimable now row = true →
          post (.sending (CommercialActions.claimed call.workerId (leaseUntil now) row))
            (⟨Key.commercialAction call.actionId,
              some (CommercialActions.claimed call.workerId (leaseUntil now) row)⟩ :: own)
            world) :
    (claimForSend call now).atCommit sendEvolution post own world := by
  rw [claimForSend, atCommit_bind, CommercialActions.claimForSend, atCommit_bind,
    atCommit_require]
  intro _
  rw [atCommit_bind, atCommit_require]
  intro _
  rw [atCommit_bind, CommercialActions.get, atCommit_select]
  intro earlier _
  split
  · trivial
  · rw [atCommit_bind, atCommit_require]
    intro _
    rw [atCommit_bind, atCommit_lift]
    intro _ _
    rw [atCommit_bind, atCommit_updateWhere]
    constructor
    · intro later _ _
      rw [atCommit_bind, atCommit_select]
      intro _ _
      trivial
    · intro row row' hrow hrow'
      cases hclaimable : CommercialActions.claimable now row with
      | false => simp [hclaimable] at hrow'
      | true =>
          simp only [hclaimable, ↓reduceIte, Option.some.injEq] at hrow'
          subst hrow'
          rw [atCommit_bind, atCommit_lift]
          intro _ _
          exact h row hrow hclaimable

/-- What a claim of the action leaves, once its key is reserved. -/
theorem atCommit_claims {reserved : Rows Row}
    (hreserved : Reserves sha256 call world.rows reserved) :
    (claimForSend call now).atCommit sendEvolution (fun after own world =>
      Effect sha256 uuid5 call world.rows (.started now) after own) reserved world := by
  apply atCommit_claimForSend
  intro row hrow hclaimable
  apply Effect.claims now row reserved hreserved _ hclaimable
  cases hreserved with
  | makes hnone => simpa using hrow
  | finds record hrecord hhash => exact hrow

theorem existingResult_eq_ok {existing : IdempotencyRecord} {action : CommercialAction}
    {found : Option CommunicationSendResult}
    (h : call.existingResult sha256 existing action = .ok found) :
    existing.requestHash = call.requestHash sha256 ∧
      ∀ result, found = some result → action.status = .sent ∧
        PyText.startsWith existing.resultRef "pending:" = false ∧
        result.externalMessageId = existing.resultRef := by
  simp only [existingResult, bind_eq_ok, require_eq_ok, beq_iff_eq] at h
  rcases h with ⟨_, hhash, h⟩
  constructor
  · exact hhash
  · split at h
    · simp only [bind_eq_ok, require_eq_ok, pure_eq_ok] at h
      rcases h with ⟨_, _, rfl⟩
      intro _ hresult
      cases hresult
    · rename_i hfinal
      simp only [bind_eq_ok, require_eq_ok, beq_iff_eq, pure_eq_ok] at h
      rcases h with ⟨_, hsent, rfl⟩
      intro result hresult
      obtain rfl := Option.some.inj hresult
      exact ⟨hsent, by simpa using hfinal, rfl⟩

theorem atCommit_claim : (claim sha256 call now).atCommit sendEvolution
    (fun after own world =>
      Effect sha256 uuid5 call world.rows (.started now) after own) [] world := by
  rw [claim, atCommit_bind, Idempotency.get, atCommit_select]
  intro first hfirst
  rw [atCommit_bind, CommercialActions.get, atCommit_select]
  intro second hsecond
  cases haction : Rows.get ([] ++ second.rows) (Key.commercialAction call.actionId) with
  | none => trivial
  | some action =>
      simp only [atCommit_bind, atCommit_lift]
      intro _ _ _ _
      cases hexisting : Rows.get ([] ++ first.rows)
          (Key.idempotencyKey call.idempotencyKey) with
      | none =>
          simp only [atCommit_bind]
          apply Idempotency.atCommit_reserve
          · intro hnone
            exact atCommit_claims (.makes hnone)
          · intro earlier record hearlier hrecord hhash
            rcases hearlier.evolved.record _ _ hrecord with ⟨record', hrecord', hsame⟩
            exact atCommit_claims (.finds record' hrecord' (hsame.trans hhash))
      | some record =>
          simp only [atCommit_bind, atCommit_lift]
          intro found hfound
          rcases existingResult_eq_ok hfound with ⟨hhash, hanswers⟩
          rcases hfirst.evolved.record _ _ hexisting with ⟨record', hrecord', hsame⟩
          cases found with
          | none => exact atCommit_claims (.finds record' hrecord' (hsame.trans hhash))
          | some result =>
              rcases hanswers result rfl with ⟨hstatus, hfinal, hresult⟩
              rcases hsecond.evolved.action _ _ haction with ⟨row, hrow, hkept⟩
              obtain rfl := hkept (by rw [hstatus]; decide) (by rw [hstatus]; decide)
              have hlog : ⟨Key.idempotencyKey call.idempotencyKey, some record⟩ ∈
                  world.rows :=
                hfirst.evolved.log.subset (Rows.mem_of_get hexisting)
              exact .replays now record result hlog hhash hfinal hresult ⟨row, hrow, hstatus⟩

theorem atCommit_completes {externalMessageId : String}
    {post : IdempotencyRecord → Rows Row → World Instant Row → Prop}
    (h : ∀ (record : IdempotencyRecord) completed,
      Completes sha256 call externalMessageId world.rows record.resultRef completed →
        post record completed world) :
    (Idempotency.complete call.idempotencyKey (call.requestHash sha256)
      externalMessageId).atCommit sendEvolution post [] world := by
  rw [Idempotency.complete, atCommit_bind, atCommit_require]
  intro _
  rw [atCommit_bind, atCommit_selectForUpdate]
  constructor
  · intro _ _ _
    trivial
  · intro record hrecord
    simp only [atCommit_bind, atCommit_require, beq_iff_eq]
    intro hhash
    split
    · rename_i hfinal
      exact h record _ (.finds record hrecord hhash (by simpa using hfinal))
    · rename_i hpending
      rw [atCommit_bind, atCommit_updateWhere]
      constructor
      · intro _ _ _
        trivial
      · intro row row' hrow hrow'
        simp only [List.cons_append, List.nil_append, Rows.get_cons_self,
          Option.some.injEq] at hrow
        subst hrow
        rw [if_pos hhash] at hrow'
        obtain rfl := Option.some.inj hrow'
        exact h { record with resultRef := externalMessageId } _
          (.makes record hrecord hhash (by simpa using hpending))

/-- No completion touches the actions or the events. -/
theorem Completes.only {externalMessageId resultRef : String} {rows completed : Rows Row}
    (h : Completes sha256 call externalMessageId rows resultRef completed) :
    completed.Only fun key => key = Key.idempotencyKey call.idempotencyKey := by
  cases h with
  | finds => simp
  | makes => simp

/-- An append after rows that are no events. -/
theorem atCommit_announces {event : OutboxEvent}
    {post : OutboxEvent → Rows Row → World Instant Row → Prop}
    (hown : ∀ rows, Rows.get (own ++ rows) (Key.outboxEvent event.eventId) =
      Rows.get rows (Key.outboxEvent event.eventId))
    (h : ∀ announced, Announces event world.rows announced →
      post event (announced ++ own) world) :
    (Outbox.append event).atCommit sendEvolution post own world := by
  apply Outbox.atCommit_append
  · intro hnone
    rw [hown] at hnone
    exact h _ (.appends hnone)
  · intro earlier hearlier hevent
    rw [hown] at hevent
    exact h _ (.finds (hearlier.evolved.event _ _ hevent))

theorem atCommit_recordSent {sent : CommercialAction} {resultRef : String}
    {post : Unit → Rows Row → World Instant Row → Prop}
    (hown : ∀ eventId rows, Rows.get (own ++ rows) (Key.outboxEvent eventId) =
      Rows.get rows (Key.outboxEvent eventId))
    (h : ∀ event announced (beside : Rows Row), event.eventType = "commercial_action.sent" →
      event.aggregateId = call.actionId → Announces event world.rows announced →
        beside.Only Beside → post () (beside ++ (announced ++ own)) world) :
    (recordSent uuid5 call sent resultRef).atCommit sendEvolution post own world := by
  rw [recordSent, atCommit_bind, clock, atCommit_observe]
  intro earlier _
  rw [atCommit_bind]
  apply atCommit_announces (hown _)
  intro announced hannounced
  apply Audits.atCommit_append
  intro _
  exact h _ announced [_] rfl rfl hannounced
    (Rows.only_cons.mpr ⟨trivial, Rows.only_nil⟩)

theorem atCommit_complete {result : CommunicationSendResult} :
    (complete sha256 uuid5 call result).atCommit sendEvolution (fun after own world =>
      Effect sha256 uuid5 call world.rows (.answered result) after own) [] world := by
  rw [complete, atCommit_bind]
  apply atCommit_completes
  intro record completed hcompleted
  have hfree : ∀ (key : Key) rows, key ≠ Key.idempotencyKey call.idempotencyKey →
      Rows.get (completed ++ rows) key = Rows.get rows key :=
    fun key rows hne => hcompleted.only.get_append hne rows
  rw [atCommit_bind, CommercialActions.get, atCommit_select]
  intro earlier hearlier
  rw [hfree _ _ (by simp)]
  cases hcurrent : Rows.get earlier.rows (Key.commercialAction call.actionId) with
  | none => trivial
  | some current =>
      rcases hearlier.evolved.action _ _ hcurrent with ⟨row, hrow, hkept⟩
      by_cases hsent : current.status = .sent
      · simp only [hsent, ↓reduceIte, atCommit_bind, atCommit_require, beq_iff_eq]
        intro hsame
        obtain rfl := hkept (by rw [hsent]; decide) (by rw [hsent]; decide)
        exact .agrees result _ record.resultRef completed hcompleted ⟨row, hrow, hsent⟩
          hsame rfl
      · simp only [hsent, ↓reduceIte, atCommit_bind, atCommit_require]
        intro _
        rw [clock, atCommit_observe]
        intro moment _
        rw [CommercialActions.completeSend, atCommit_bind, atCommit_require]
        intro _
        rw [atCommit_bind, atCommit_updateWhere]
        constructor
        · intro _ _ _
          trivial
        · intro found found' hfound hfound'
          rw [hfree _ _ (by simp)] at hfound
          cases hreserved : CommercialActions.reservedBy call.workerId (id moment.env) found with
          | false =>
              simp only [hreserved, Bool.false_eq_true, ↓reduceIte, reduceCtorEq] at hfound'
          | true =>
              simp only [hreserved, ↓reduceIte, Option.some.injEq] at hfound'
              subst hfound'
              apply atCommit_recordSent
              · intro eventId rows
                rw [List.cons_append, Rows.get_cons_ne (by simp), hfree _ _ (by simp)]
              · intro event announced beside htype haggregate hannounced hbeside
                exact .completes result record.resultRef found _ completed announced beside
                  event hcompleted hfound hreserved htype haggregate hannounced hbeside

theorem atCommit_recordUnknown {current : CommercialAction} {reasonCode : String}
    {post : Unit → Rows Row → World Instant Row → Prop}
    (hown : ∀ eventId rows, Rows.get (own ++ rows) (Key.outboxEvent eventId) =
      Rows.get rows (Key.outboxEvent eventId))
    (h : ∀ event announced (beside beside' : Rows Row),
      event.eventType = "commercial_action.external_effect_unknown" →
        Announces event world.rows announced → beside.Only Beside → beside'.Only Beside →
          post () (beside ++ (announced ++ (beside' ++ own))) world) :
    (recordUnknown sha256 uuid5 call current reasonCode).atCommit sendEvolution post own
      world := by
  rw [recordUnknown, atCommit_bind, Quarantine.add, atCommit_insert]
  intro _
  rw [atCommit_bind, clock, atCommit_observe]
  intro earlier _
  rw [atCommit_bind]
  apply atCommit_announces
  · intro rows
    rw [List.cons_append, Rows.get_cons_ne (by simp), hown]
  · intro announced hannounced
    apply Audits.atCommit_append
    intro _
    exact h _ announced [_] [_] rfl hannounced (Rows.only_cons.mpr ⟨trivial, Rows.only_nil⟩)
      (Rows.only_cons.mpr ⟨trivial, Rows.only_nil⟩)

theorem atCommit_quarantine : (quarantine sha256 uuid5 call).atCommit sendEvolution
    (fun after own world => Effect sha256 uuid5 call world.rows .unknown after own) []
      world := by
  rw [quarantine, atCommit_bind, clock, atCommit_observe]
  intro moment _
  rw [atCommit_bind, CommercialActions.failExternalEffect, atCommit_bind, atCommit_require]
  intro _
  rw [atCommit_updateWhere]
  constructor
  · intro _ _ _
    rw [atCommit_bind, CommercialActions.get, atCommit_select]
    intro later _
    split
    · trivial
    · rw [atCommit_bind]
      apply atCommit_recordUnknown
      · exact fun _ _ => rfl
      · intro event announced beside beside' htype hannounced hbeside hbeside'
        rw [List.append_nil]
        exact .reports _ announced beside beside' event htype hannounced hbeside hbeside'
  · intro row row' hrow hrow'
    cases hreserved : CommercialActions.reservedBy call.workerId (id moment.env) row with
    | false => simp only [hreserved, Bool.false_eq_true, ↓reduceIte, reduceCtorEq] at hrow'
    | true =>
        simp only [hreserved, ↓reduceIte, Option.some.injEq] at hrow'
        subst hrow'
        rw [atCommit_bind, CommercialActions.get, atCommit_select]
        intro later _
        split
        · trivial
        · rw [atCommit_bind]
          apply atCommit_recordUnknown
          · intro eventId rows
            rw [List.cons_append, Rows.get_cons_ne (by simp)]
            rfl
          · intro event announced beside beside' htype hannounced hbeside hbeside'
            exact .fails _ row _ announced beside beside' event hrow hreserved htype hannounced
              hbeside hbeside'

section Rows

variable {before after : Stage} {rows : Rows Row}

theorem Announces.only {event : OutboxEvent} {announced : Rows Row}
    (h : Announces event rows announced) :
    announced.Only fun key => key = Key.outboxEvent event.eventId := by
  cases h with
  | appends => simp
  | finds => simp

theorem Reserves.only {reserved : Rows Row} (h : Reserves sha256 call rows reserved) :
    reserved.Only fun key => key = Key.idempotencyKey call.idempotencyKey := by
  cases h with
  | makes => simp
  | finds => simp

/-- Keys of actions and of reservations. -/
def Principal : Key → Prop
  | .commercialAction _ => True
  | .idempotencyKey _ => True
  | _ => False

theorem get_beside {beside : Rows Row} (hbeside : beside.Only Beside) {key : Key}
    (hkey : Principal key) (base : Rows Row) :
    Rows.get (beside ++ base) key = Rows.get base key := by
  have hnot : ¬ Beside key := by
    cases key <;> first | exact hkey.elim | exact fun h => h
  exact hbeside.get_append hnot base

/-- What is recorded beside leaves actions and reservations alone. -/
theorem get_recorded {event : OutboxEvent} {announced beside rest : Rows Row}
    (hannounced : Announces event rows announced) (hbeside : beside.Only Beside) {key : Key}
    (hkey : Principal key) (base : Rows Row) :
    Rows.get (beside ++ (announced ++ rest) ++ base) key = Rows.get (rest ++ base) key := by
  have hother : key ≠ Key.outboxEvent event.eventId := by
    rintro rfl
    exact hkey
  rw [List.append_assoc, List.append_assoc, get_beside hbeside hkey,
    hannounced.only.get_append hother]

/-- What becomes of the action of a call. -/
inductive Moves (call : CommercialSend) (before after : Stage) :
    Option CommercialAction → Option CommercialAction → Prop where
  | stays (row : Option CommercialAction) (hafter : ∀ action, after ≠ .sending action) :
      Moves call before after row row
  | claims (now : Instant) (row : CommercialAction) (hbefore : before = .started now)
      (hafter : after = .sending (CommercialActions.claimed call.workerId (leaseUntil now) row))
      (hclaimable : CommercialActions.claimable now row = true) :
      Moves call before after (some row)
        (some (CommercialActions.claimed call.workerId (leaseUntil now) row))
  | completes (result : CommunicationSendResult) (now : Instant) (row : CommercialAction)
      (hbefore : before = .answered result)
      (hreserved : CommercialActions.reservedBy call.workerId now row = true) :
      Moves call before after (some row) (some (CommercialActions.released .sent row))
  | fails (now : Instant) (row : CommercialAction) (hbefore : before = .unknown)
      (hreserved : CommercialActions.reservedBy call.workerId now row = true) :
      Moves call before after (some row) (some (CommercialActions.released .failed row))

theorem Effect.moves (h : Effect sha256 uuid5 call rows before after own) :
    Moves call before after (rows.get (Key.commercialAction call.actionId))
      (Rows.get (own ++ rows) (Key.commercialAction call.actionId)) := by
  have hprincipal : Principal (Key.commercialAction call.actionId) := trivial
  cases h with
  | replays now record result hlog hhash hfinal hresult hsent =>
      exact .stays _ fun _ h => by cases h
  | claims now row reserved hreserved hrow hclaimable =>
      rw [hrow, List.cons_append, Rows.get_cons_self]
      exact .claims now row rfl rfl hclaimable
  | agrees result answer resultRef completed hcompleted hsent hsame hanswer =>
      rw [hcompleted.only.get_append (by simp)]
      exact .stays _ fun _ h => by cases h
  | completes result resultRef row now completed announced beside event hcompleted hrow
      hreserved htype haggregate hannounced hbeside =>
      rw [get_recorded hannounced hbeside hprincipal, List.cons_append, Rows.get_cons_self, hrow]
      exact .completes result now row rfl hreserved
  | fails error row now announced beside beside' event hrow hreserved htype hannounced hbeside
      hbeside' =>
      rw [get_recorded hannounced hbeside hprincipal, List.append_assoc,
        get_beside hbeside' hprincipal, List.cons_append, Rows.get_cons_self, hrow]
      exact .fails now row rfl hreserved
  | reports error announced beside beside' event htype hannounced hbeside hbeside' =>
      rw [get_recorded hannounced hbeside hprincipal, get_beside hbeside' hprincipal]
      exact .stays _ fun _ h => by cases h

/-- No other action is touched. -/
theorem Effect.action_other (h : Effect sha256 uuid5 call rows before after own)
    {actionId : String} (hne : call.actionId ≠ actionId) :
    Rows.get (own ++ rows) (Key.commercialAction actionId) =
      rows.get (Key.commercialAction actionId) := by
  have hprincipal : Principal (Key.commercialAction actionId) := trivial
  have hkey : Key.commercialAction call.actionId ≠ Key.commercialAction actionId :=
    fun h => hne (Key.commercialAction.inj h)
  cases h with
  | replays now record result hlog hhash hfinal hresult hsent => rfl
  | claims now row reserved hreserved hrow hclaimable =>
      rw [List.cons_append, Rows.get_cons_ne hkey, hreserved.only.get_append (by simp)]
  | agrees result answer resultRef completed hcompleted hsent hsame hanswer =>
      exact hcompleted.only.get_append (by simp) _
  | completes result resultRef row now completed announced beside event hcompleted hrow
      hreserved htype haggregate hannounced hbeside =>
      rw [get_recorded hannounced hbeside hprincipal, List.cons_append, Rows.get_cons_ne hkey,
        hcompleted.only.get_append (by simp)]
  | fails error row now announced beside beside' event hrow hreserved htype hannounced hbeside
      hbeside' =>
      rw [get_recorded hannounced hbeside hprincipal, List.append_assoc,
        get_beside hbeside' hprincipal, List.cons_append, Rows.get_cons_ne hkey]
      rfl
  | reports error announced beside beside' event htype hannounced hbeside hbeside' =>
      rw [get_recorded hannounced hbeside hprincipal, get_beside hbeside' hprincipal]

/-- What becomes of the record under the key of a call. -/
inductive RecordMoves (sha256 : String → String) (call : CommercialSend) (before : Stage) :
    Option IdempotencyRecord → Option IdempotencyRecord → Prop where
  | stays (record : Option IdempotencyRecord) : RecordMoves sha256 call before record record
  | reserves : RecordMoves sha256 call before none
      (some ⟨call.idempotencyKey, call.requestHash sha256, pendingRef call.actionId⟩)
  | completes (result : CommunicationSendResult) (record : IdempotencyRecord)
      (hbefore : before = .answered result)
      (hhash : record.requestHash = call.requestHash sha256)
      (hpending : Idempotency.pending record = true) :
      RecordMoves sha256 call before (some record)
        (some { record with resultRef := result.externalMessageId })

theorem Completes.moves {result : CommunicationSendResult} {resultRef : String}
    {completed : Rows Row}
    (h : Completes sha256 call result.externalMessageId rows resultRef completed) :
    RecordMoves sha256 call (.answered result)
      (rows.get (Key.idempotencyKey call.idempotencyKey))
      (Rows.get (completed ++ rows) (Key.idempotencyKey call.idempotencyKey)) := by
  cases h with
  | finds record hrecord hhash hfinal =>
      rw [List.cons_append, Rows.get_cons_self, hrecord]
      exact .stays _
  | makes record hrecord hhash hpending =>
      rw [List.cons_append, Rows.get_cons_self, hrecord]
      exact .completes result record rfl hhash hpending

theorem Effect.record_moves (h : Effect sha256 uuid5 call rows before after own) :
    RecordMoves sha256 call before (rows.get (Key.idempotencyKey call.idempotencyKey))
      (Rows.get (own ++ rows) (Key.idempotencyKey call.idempotencyKey)) := by
  have hprincipal : Principal (Key.idempotencyKey call.idempotencyKey) := trivial
  cases h with
  | replays now record result hlog hhash hfinal hresult hsent => exact .stays _
  | claims now row reserved hreserved hrow hclaimable =>
      rw [List.cons_append, Rows.get_cons_ne (by simp)]
      cases hreserved with
      | makes hnone =>
          rw [hnone, List.cons_append, Rows.get_cons_self]
          exact .reserves
      | finds record hrecord hhash => exact .stays _
  | agrees result answer resultRef completed hcompleted hsent hsame hanswer =>
      exact hcompleted.moves
  | completes result resultRef row now completed announced beside event hcompleted hrow
      hreserved htype haggregate hannounced hbeside =>
      rw [get_recorded hannounced hbeside hprincipal, List.cons_append, Rows.get_cons_ne (by simp)]
      exact hcompleted.moves
  | fails error row now announced beside beside' event hrow hreserved htype hannounced hbeside
      hbeside' =>
      rw [get_recorded hannounced hbeside hprincipal, List.append_assoc,
        get_beside hbeside' hprincipal, List.cons_append, Rows.get_cons_ne (by simp)]
      exact .stays _
  | reports error announced beside beside' event htype hannounced hbeside hbeside' =>
      rw [get_recorded hannounced hbeside hprincipal, get_beside hbeside' hprincipal]
      exact .stays _

/-- No other key is touched. -/
theorem Effect.record_other (h : Effect sha256 uuid5 call rows before after own)
    {key : String} (hne : key ≠ call.idempotencyKey) :
    Rows.get (own ++ rows) (Key.idempotencyKey key) = rows.get (Key.idempotencyKey key) := by
  have hprincipal : Principal (Key.idempotencyKey key) := trivial
  have hkey : Key.idempotencyKey key ≠ Key.idempotencyKey call.idempotencyKey :=
    fun h => hne (Key.idempotencyKey.inj h)
  cases h with
  | replays now record result hlog hhash hfinal hresult hsent => rfl
  | claims now row reserved hreserved hrow hclaimable =>
      rw [List.cons_append, Rows.get_cons_ne (by simp), hreserved.only.get_append hkey]
  | agrees result answer resultRef completed hcompleted hsent hsame hanswer =>
      exact hcompleted.only.get_append hkey _
  | completes result resultRef row now completed announced beside event hcompleted hrow
      hreserved htype haggregate hannounced hbeside =>
      rw [get_recorded hannounced hbeside hprincipal, List.cons_append, Rows.get_cons_ne (by simp),
        hcompleted.only.get_append hkey]
  | fails error row now announced beside beside' event hrow hreserved htype hannounced hbeside
      hbeside' =>
      rw [get_recorded hannounced hbeside hprincipal, List.append_assoc,
        get_beside hbeside' hprincipal, List.cons_append, Rows.get_cons_ne (by simp)]
      rfl
  | reports error announced beside beside' event htype hannounced hbeside hbeside' =>
      rw [get_recorded hannounced hbeside hprincipal, get_beside hbeside' hprincipal]

/-- Events are found where they were appended. -/
theorem get_event {event : OutboxEvent} {announced beside rest : Rows Row}
    (hannounced : Announces event rows announced) (hbeside : beside.Only Beside)
    {base : Rows Row} (eventId : String)
    (hrest : Rows.get (rest ++ base) (Key.outboxEvent eventId) =
      base.get (Key.outboxEvent eventId)) :
    Rows.get (beside ++ (announced ++ rest) ++ base) (Key.outboxEvent eventId) =
      Rows.get (announced ++ base) (Key.outboxEvent eventId) := by
  have hnot : ¬ Beside (Key.outboxEvent eventId) := fun h => h
  rw [List.append_assoc, List.append_assoc, hbeside.get_append hnot]
  cases hannounced with
  | finds => exact hrest
  | appends =>
      by_cases hsame : Key.outboxEvent event.eventId = Key.outboxEvent eventId
      · obtain rfl := Key.outboxEvent.inj hsame
        rw [List.cons_append, Rows.get_cons_self, List.cons_append, Rows.get_cons_self]
      · rw [List.cons_append, Rows.get_cons_ne hsame, List.cons_append, Rows.get_cons_ne hsame]
        exact hrest

theorem Announces.get {event : OutboxEvent} {announced : Rows Row}
    (h : Announces event rows announced) :
    Rows.get (announced ++ rows) (Key.outboxEvent event.eventId) = some event := by
  cases h with
  | appends => rw [List.cons_append, Rows.get_cons_self]
  | finds hevent => exact hevent

theorem Announces.get_other {event : OutboxEvent} {announced : Rows Row}
    (h : Announces event rows announced) {eventId : String} (hne : eventId ≠ event.eventId) :
    Rows.get (announced ++ rows) (Key.outboxEvent eventId) =
      rows.get (Key.outboxEvent eventId) :=
  h.only.get_append (fun hkey => hne (Key.outboxEvent.inj hkey)) rows

theorem Announces.earlier {event : OutboxEvent} {announced : Rows Row}
    (h : Announces event rows announced) :
    rows.get (Key.outboxEvent event.eventId) = none ∨
      rows.get (Key.outboxEvent event.eventId) = some event := by
  cases h with
  | appends hnone => exact Or.inl hnone
  | finds hevent => exact Or.inr hevent

/-- The event that a commit appends, if it appends one. -/
inductive EventMoves (call : CommercialSend) (before : Stage) (rows rows' : Rows Row) :
    Prop where
  | stays (hsame : ∀ eventId, rows'.get (Key.outboxEvent eventId) =
      rows.get (Key.outboxEvent eventId))
      (hunsent : ∀ row : CommercialAction,
        rows'.get (Key.commercialAction call.actionId) = some row → row.status = .sent →
          rows.get (Key.commercialAction call.actionId) = some row)
  | sends (now : Instant) (row : CommercialAction) (event : OutboxEvent)
      (announced : Rows Row)
      (hrow : rows.get (Key.commercialAction call.actionId) = some row)
      (hreserved : CommercialActions.reservedBy call.workerId now row = true)
      (hrow' : rows'.get (Key.commercialAction call.actionId) =
        some (CommercialActions.released .sent row))
      (htype : event.eventType = "commercial_action.sent")
      (haggregate : event.aggregateId = call.actionId)
      (hannounced : Announces event rows announced)
      (hget : ∀ eventId, rows'.get (Key.outboxEvent eventId) =
        Rows.get (announced ++ rows) (Key.outboxEvent eventId))
  | reports (event : OutboxEvent) (announced : Rows Row)
      (hunsent : ∀ row : CommercialAction,
        rows'.get (Key.commercialAction call.actionId) = some row → row.status = .sent →
          rows.get (Key.commercialAction call.actionId) = some row)
      (htype : event.eventType = "commercial_action.external_effect_unknown")
      (hannounced : Announces event rows announced)
      (hget : ∀ eventId, rows'.get (Key.outboxEvent eventId) =
        Rows.get (announced ++ rows) (Key.outboxEvent eventId))

theorem Effect.event_moves (h : Effect sha256 uuid5 call rows before after own) :
    EventMoves call before rows (own ++ rows) := by
  have hprincipal : Principal (Key.commercialAction call.actionId) := trivial
  cases h with
  | replays now record result hlog hhash hfinal hresult hsent =>
      exact .stays (fun _ => rfl) fun _ h _ => h
  | claims now row reserved hreserved hrow hclaimable =>
      apply EventMoves.stays
      · intro eventId
        rw [List.cons_append, Rows.get_cons_ne (by simp), hreserved.only.get_append (by simp)]
      · intro row' hrow' hsent
        rw [List.cons_append, Rows.get_cons_self] at hrow'
        obtain rfl := Option.some.inj hrow'
        cases hsent
  | agrees result answer resultRef completed hcompleted hsent hsame hanswer =>
      apply EventMoves.stays
      · exact fun eventId => hcompleted.only.get_append (by simp) rows
      · intro row' hrow' _
        rw [hcompleted.only.get_append (by simp)] at hrow'
        exact hrow'
  | completes result resultRef row now completed announced beside event hcompleted hrow
      hreserved htype haggregate hannounced hbeside =>
      apply EventMoves.sends now row event announced hrow hreserved _ htype haggregate
        hannounced
      · intro eventId
        apply get_event hannounced hbeside
        rw [List.cons_append, Rows.get_cons_ne (by simp), hcompleted.only.get_append (by simp)]
      · rw [get_recorded hannounced hbeside hprincipal, List.cons_append, Rows.get_cons_self]
  | fails error row now announced beside beside' event hrow hreserved htype hannounced hbeside
      hbeside' =>
      apply EventMoves.reports event announced _ htype hannounced
      · intro eventId
        have hnot : ¬ Beside (Key.outboxEvent eventId) := fun h => h
        apply get_event hannounced hbeside
        rw [List.append_assoc, hbeside'.get_append hnot, List.cons_append,
          Rows.get_cons_ne (by simp)]
        rfl
      · intro row' hrow' hsent
        rw [get_recorded hannounced hbeside hprincipal, List.append_assoc,
          get_beside hbeside' hprincipal, List.cons_append, Rows.get_cons_self] at hrow'
        obtain rfl := Option.some.inj hrow'
        cases hsent
  | reports error announced beside beside' event htype hannounced hbeside hbeside' =>
      apply EventMoves.reports event announced _ htype hannounced
      · intro eventId
        have hnot : ¬ Beside (Key.outboxEvent eventId) := fun h => h
        apply get_event hannounced hbeside
        exact hbeside'.get_append hnot rows
      · intro row' hrow' _
        rw [get_recorded hannounced hbeside hprincipal, get_beside hbeside' hprincipal] at hrow'
        exact hrow'

theorem EventMoves.keeps {rows' : Rows Row} (h : EventMoves call before rows rows')
    {eventId : String} {event : OutboxEvent}
    (hevent : rows.get (Key.outboxEvent eventId) = some event) :
    rows'.get (Key.outboxEvent eventId) = some event := by
  have hkept : ∀ added announced, Announces added rows announced →
      Rows.get (announced ++ rows) (Key.outboxEvent eventId) = some event := by
    intro added announced hannounced
    by_cases hsame : eventId = added.eventId
    · subst hsame
      rcases hannounced.earlier with hnone | hsome
      · rw [hnone] at hevent
        cases hevent
      · rw [hannounced.get, ← hsome, hevent]
    · rw [hannounced.get_other hsame, hevent]
  cases h with
  | stays hsame _ => rw [hsame, hevent]
  | sends now row added announced _ _ _ _ _ hannounced hget =>
      rw [hget]
      exact hkept added announced hannounced
  | reports added announced _ _ hannounced hget =>
      rw [hget]
      exact hkept added announced hannounced

theorem status_of_claimable {row : CommercialAction}
    (h : CommercialActions.claimable now row = true) :
    row.status = .ready ∨ row.status = .sending := by
  simp only [CommercialActions.claimable, Bool.or_eq_true, Bool.and_eq_true, beq_iff_eq] at h
  rcases h with hready | ⟨hsending, _⟩
  · exact Or.inl hready
  · exact Or.inr hsending

/-- An action is there after a move if it was there before, and it is the same unless it
could be sent. -/
theorem Moves.keeps {row row' : Option CommercialAction} (h : Moves call before after row row')
    {action : CommercialAction} (hrow : row = some action) :
    ∃ action', row' = some action' ∧
      (action.status ≠ .ready → action.status ≠ .sending → action' = action) := by
  cases h with
  | stays _ _ => exact ⟨action, hrow, fun _ _ => rfl⟩
  | claims now found _ _ hclaimable =>
      obtain rfl := Option.some.inj hrow
      use CommercialActions.claimed call.workerId (leaseUntil now) found, rfl
      intro hready hsending
      rcases status_of_claimable hclaimable with h | h
      · exact absurd h hready
      · exact absurd h hsending
  | completes result now found _ hreserved =>
      obtain rfl := Option.some.inj hrow
      exact ⟨_, rfl, fun _ hsending =>
        absurd (CommercialActions.status_of_reservedBy hreserved) hsending⟩
  | fails now found _ hreserved =>
      obtain rfl := Option.some.inj hrow
      exact ⟨_, rfl, fun _ hsending =>
        absurd (CommercialActions.status_of_reservedBy hreserved) hsending⟩

theorem RecordMoves.keeps {row row' : Option IdempotencyRecord}
    (h : RecordMoves sha256 call before row row') {record : IdempotencyRecord}
    (hrow : row = some record) :
    ∃ record', row' = some record' ∧ record'.requestHash = record.requestHash := by
  cases h with
  | stays _ => exact ⟨record, hrow, rfl⟩
  | reserves => cases hrow
  | completes result found _ _ _ =>
      obtain rfl := Option.some.inj hrow
      exact ⟨_, rfl, rfl⟩

theorem Effect.evolves (h : Effect sha256 uuid5 call rows before after own) :
    SendEvolves rows (own ++ rows) := by
  constructor
  · exact List.suffix_append _ _
  · intro actionId row hrow
    by_cases hsame : call.actionId = actionId
    · subst hsame
      exact h.moves.keeps hrow
    · exact ⟨row, by rw [h.action_other hsame, hrow], fun _ _ => rfl⟩
  · intro key record hrecord
    by_cases hsame : key = call.idempotencyKey
    · subst hsame
      exact h.record_moves.keeps hrecord
    · exact ⟨record, by rw [h.record_other hsame, hrecord], rfl⟩
  · intro eventId event hevent
    exact h.event_moves.keeps hevent

end Rows

/-- Every commit has one of the effects. -/
def sends (sha256 uuid5 : String → String) (authorizer : RBACAuthorizer) :
    Certificate (flow sha256 uuid5 authorizer) sendEvolution where
  knows _ _ := True
  does before after own world := after.call = before.call ∧
    Effect sha256 uuid5 before.call world.rows before.stage after.stage own
  stable _ _ := trivial
  code_ok {session p world} hcode _ := by
    obtain ⟨body, hbody, rfl⟩ := Option.map_eq_some_iff.mp hcode
    rw [atCommit_bind]
    have hmeets : body.atCommit sendEvolution (fun after own world =>
        Effect sha256 uuid5 session.call world.rows session.stage after own) [] world := by
      cases hstage : session.stage with
      | started now =>
          rw [hstage] at hbody
          obtain rfl := Option.some.inj hbody
          exact atCommit_claim
      | answered result =>
          rw [hstage] at hbody
          obtain rfl := Option.some.inj hbody
          exact atCommit_complete
      | unknown =>
          rw [hstage] at hbody
          obtain rfl := Option.some.inj hbody
          exact atCommit_quarantine
      | _ => simp [hstage, transaction] at hbody
    exact atCommit_mono (fun after own heffect => ⟨rfl, heffect⟩) hmeets
  commit_ok h _ := ⟨h.2.evolves, trivial⟩
  recover_ok _ _ := trivial
  outside_ok h _ := by
    obtain ⟨rfl, _⟩ := h
    exact ⟨.refl _, trivial⟩
  drift_ok _ := .refl _

end CommercialSend

end ShemaPlatform
