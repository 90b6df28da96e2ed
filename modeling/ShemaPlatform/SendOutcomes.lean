/-
What a send leaves in the database, over any interleaving of calls: one event for an
action that was sent, and under each key the result that the gateway gave.
-/
import ShemaPlatform.RaisedRun
import ShemaPlatform.SendLeases

namespace ShemaPlatform

open Calendar Histories ReadCommitted

namespace CommercialSend

variable {ι : Type} {sha256 uuid5 : String → String} {call : CommercialSend}
  {rows own : Rows Row} {before after : Stage}

/-- An outbox event that says the action was sent. -/
def SentEvent (rows : Rows Row) (actionId eventId : String) : Prop :=
  ∃ event : OutboxEvent, rows.get (Key.outboxEvent eventId) = some event ∧
    event.eventType = "commercial_action.sent" ∧ event.aggregateId = actionId

/-- One event says so of each action that was sent, and none of any other. -/
structure Announced (rows : Rows Row) : Prop where
  once : ∀ actionId (row : CommercialAction),
    rows.get (Key.commercialAction actionId) = some row → row.status = .sent →
      ∃! eventId, SentEvent rows actionId eventId
  none : ∀ actionId (row : CommercialAction),
    rows.get (Key.commercialAction actionId) = some row → row.status ≠ .sent →
      ∀ eventId, ¬ SentEvent rows actionId eventId

/-- No send makes an action. -/
theorem Effect.action_back (h : Effect sha256 uuid5 call rows before after own)
    {actionId : String} {row' : CommercialAction}
    (hrow' : Rows.get (own ++ rows) (Key.commercialAction actionId) = some row') :
    ∃ row : CommercialAction, rows.get (Key.commercialAction actionId) = some row := by
  by_cases hsame : call.actionId = actionId
  · subst hsame
    have hmoves := h.moves
    rw [hrow'] at hmoves
    generalize rows.get (Key.commercialAction call.actionId) = found at hmoves
    cases hmoves with
    | stays _ _ => exact ⟨row', rfl⟩
    | claims now row _ _ _ => exact ⟨row, rfl⟩
    | completes result now row _ _ => exact ⟨row, rfl⟩
    | fails now row _ _ => exact ⟨row, rfl⟩
  · rw [h.action_other hsame] at hrow'
    exact ⟨row', hrow'⟩

theorem SentEvent.of_get_eq {rows' : Rows Row} {actionId eventId : String}
    (hsame : rows'.get (Key.outboxEvent eventId) = rows.get (Key.outboxEvent eventId)) :
    SentEvent rows' actionId eventId ↔ SentEvent rows actionId eventId := by
  rw [SentEvent, SentEvent, hsame]

theorem SendEvolves.event_sent {rows' : Rows Row} (h : SendEvolves rows rows')
    {actionId eventId : String} (hevent : SentEvent rows actionId eventId) :
    SentEvent rows' actionId eventId := by
  rcases hevent with ⟨event, hget, hsent⟩
  exact ⟨event, h.event _ _ hget, hsent⟩

/-- What an append adds to the events of an action. -/
theorem Announces.sentEvent {event : OutboxEvent} {announced rows' : Rows Row}
    (h : Announces event rows announced)
    (hget : ∀ eventId, rows'.get (Key.outboxEvent eventId) =
      Rows.get (announced ++ rows) (Key.outboxEvent eventId)) (actionId eventId : String) :
    SentEvent rows' actionId eventId ↔ SentEvent rows actionId eventId ∨
      eventId = event.eventId ∧ event.eventType = "commercial_action.sent" ∧
        event.aggregateId = actionId := by
  by_cases hsame : eventId = event.eventId
  · subst hsame
    have hnew : rows'.get (Key.outboxEvent event.eventId) = some event := by
      rw [hget, h.get]
    constructor
    · rintro ⟨found, hfound, htype, haggregate⟩
      obtain rfl := Option.some.inj (hnew.symm.trans hfound)
      exact Or.inr ⟨rfl, htype, haggregate⟩
    · rintro (⟨found, hfound, htype, haggregate⟩ | ⟨_, htype, haggregate⟩)
      · rcases h.earlier with hnone | hsome
        · rw [hnone] at hfound
          cases hfound
        · exact ⟨found, by rw [hnew, ← hsome, hfound], htype, haggregate⟩
      · exact ⟨event, hnew, htype, haggregate⟩
  · rw [SentEvent.of_get_eq ((hget eventId).trans (h.get_other hsame))]
    simp [hsame]

/-- A commit that sends nothing leaves what was sent as it was. -/
theorem Effect.sent_iff (h : Effect sha256 uuid5 call rows before after own)
    (hunsent : ∀ row : CommercialAction,
      Rows.get (own ++ rows) (Key.commercialAction call.actionId) = some row →
        row.status = .sent → rows.get (Key.commercialAction call.actionId) = some row)
    {actionId : String} {row row' : CommercialAction}
    (hrow : rows.get (Key.commercialAction actionId) = some row)
    (hrow' : Rows.get (own ++ rows) (Key.commercialAction actionId) = some row') :
    row'.status = .sent ↔ row.status = .sent := by
  by_cases hsame : call.actionId = actionId
  · subst hsame
    constructor
    · intro hsent
      obtain rfl := Option.some.inj (hrow.symm.trans (hunsent row' hrow' hsent))
      exact hsent
    · intro hsent
      rcases h.evolves.action _ _ hrow with ⟨kept, hkept, hfinal⟩
      obtain rfl := hfinal (by rw [hsent]; decide) (by rw [hsent]; decide)
      obtain rfl := Option.some.inj (hrow'.symm.trans hkept)
      exact hsent
  · rw [h.action_other hsame] at hrow'
    obtain rfl := Option.some.inj (hrow.symm.trans hrow')
    rfl

/-- The same events and the same actions sent. -/
theorem Announced.of_same (hannounced : Announced rows)
    (h : Effect sha256 uuid5 call rows before after own)
    (hunsent : ∀ row : CommercialAction,
      Rows.get (own ++ rows) (Key.commercialAction call.actionId) = some row →
        row.status = .sent → rows.get (Key.commercialAction call.actionId) = some row)
    (hevents : ∀ actionId eventId, SentEvent (own ++ rows) actionId eventId ↔
      SentEvent rows actionId eventId) : Announced (own ++ rows) := by
  constructor
  · intro actionId row' hrow' hsent
    rcases h.action_back hrow' with ⟨row, hrow⟩
    simp only [hevents]
    exact hannounced.once actionId row hrow ((h.sent_iff hunsent hrow hrow').mp hsent)
  · intro actionId row' hrow' hsent
    rcases h.action_back hrow' with ⟨row, hrow⟩
    simp only [hevents]
    apply hannounced.none actionId row hrow
    exact fun hrowsent => hsent ((h.sent_iff hunsent hrow hrow').mpr hrowsent)

/-- The commit that completes a send adds the one event of its action. -/
theorem Effect.announced (h : Effect sha256 uuid5 call rows before after own)
    (hannounced : Announced rows) : Announced (own ++ rows) := by
  cases h.event_moves with
  | stays hsame hunsent =>
      exact hannounced.of_same h hunsent fun actionId eventId => SentEvent.of_get_eq (hsame eventId)
  | reports event announced hunsent htype hannounces hget =>
      apply hannounced.of_same h hunsent
      intro actionId eventId
      rw [hannounces.sentEvent hget, htype]
      simp
  | sends now row event announced hrow hreserved hrow' htype haggregate hannounces hget =>
      have hsending := CommercialActions.status_of_reservedBy hreserved
      have hbefore := hannounced.none _ row hrow (by rw [hsending]; decide)
      have hevents := hannounces.sentEvent hget
      rw [haggregate] at hevents
      constructor
      · intro actionId found hfound hsent
        by_cases hsame : call.actionId = actionId
        · subst hsame
          use event.eventId
          constructor
          · exact (hevents _ _).mpr (Or.inr ⟨rfl, htype, rfl⟩)
          · intro eventId hevent
            rcases (hevents _ _).mp hevent with hold | ⟨rfl, _⟩
            · exact absurd hold (hbefore eventId)
            · rfl
        · rw [h.action_other hsame] at hfound
          simpa [hevents, hsame] using hannounced.once actionId found hfound hsent
      · intro actionId found hfound hsent
        by_cases hsame : call.actionId = actionId
        · subst hsame
          obtain rfl := Option.some.inj (hrow'.symm.trans hfound)
          exact absurd rfl hsent
        · rw [h.action_other hsame] at hfound
          simpa [hevents, hsame] using hannounced.none actionId found hfound hsent

section Final

variable [DecidableEq ι] {authorizer : RBACAuthorizer} {first last : SendSys ι}
  {events : List (SendEvent ι)}

theorem announced_of_run (hgood : (sends sha256 uuid5 authorizer).Good first)
    (hannounced : Announced first.world.rows)
    (hrun : Run (flow sha256 uuid5 authorizer) first events last) :
    Announced last.world.rows := by
  apply (sends sha256 uuid5 authorizer).run_induction
    (fun world _ _ => Announced world.rows) hgood hannounced _ _ _ _ hrun
  · exact fun _ hdoes h => hdoes.2.announced h
  · exact fun _ h => h
  · exact fun _ _ h => h
  · exact fun _ h => h

/-- An action that has left the statuses of a send is not reserved again. -/
theorem unreserved_of_run (hgood : (sends sha256 uuid5 authorizer).Good first)
    {actionId : String} {row : CommercialAction}
    (hrow : first.world.rows.get (Key.commercialAction actionId) = some row)
    (hready : row.status ≠ .ready) (hsending : row.status ≠ .sending)
    (hrun : Run (flow sha256 uuid5 authorizer) first events last) :
    last.world.rows.get (Key.commercialAction actionId) = some row ∧
      reservations actionId events = [] := by
  apply (sends sha256 uuid5 authorizer).run_induction
    (fun world _ events => world.rows.get (Key.commercialAction actionId) = some row ∧
      reservations actionId events = []) hgood ⟨hrow, rfl⟩ _ _ _ _ hrun
  · intro world session events client after own _ hdoes hkept
    rcases hdoes with ⟨hcall, heffect⟩
    constructor
    · rcases heffect.evolves.action actionId row hkept.1 with ⟨row', hrow', hsame⟩
      rw [World.commit, hrow', hsame hready hsending]
    · by_cases hafter : ∃ action, after.stage = .sending action
      · rcases hafter with ⟨action, hafter⟩
        rw [hafter] at heffect
        rcases heffect.sending with ⟨now, found, hbefore, hfound, hclaimable, _⟩
        have hother : (session client).call.actionId ≠ actionId := by
          rintro rfl
          obtain rfl := Option.some.inj (hkept.1.symm.trans hfound)
          rcases status_of_claimable hclaimable with hstatus | hstatus
          · exact hready hstatus
          · exact hsending hstatus
        rw [reservations_concat, hkept.2, reservation, hbefore, hafter]
        simp [reservedAt, hother]
      · rw [reservations_of_none
          (reservation_eq_none fun action hstage => hafter ⟨action, hstage⟩)]
        exact hkept.2
  · intro world session events client error _ hkept
    exact ⟨hkept.1, by rw [reservations_of_none rfl, hkept.2]⟩
  · intro world session events client action after env _ _ hkept
    exact ⟨hkept.1, by rw [reservations_of_none rfl, hkept.2]⟩
  · exact fun _ hkept => hkept

/-- Whatever sends are called, however they interleave, fail and crash: one event says of
each action that was sent that it was, none of any other; and an action that was sent, or
whose send has failed, is as it was ever after, is not reserved again, and no event is
added for it. -/
theorem sent_once (sha256 uuid5 : String → String) (authorizer : RBACAuthorizer)
    {world : World Instant Row} {session : ι → Session} {middle : SendSys ι}
    {earlier later : List (SendEvent ι)} (hannounced : Announced world.rows)
    (hearlier : Run (flow sha256 uuid5 authorizer) (Sys.start world session) earlier middle)
    (hlater : Run (flow sha256 uuid5 authorizer) middle later last) :
    Announced last.world.rows ∧ ∀ actionId (row : CommercialAction),
      middle.world.rows.get (Key.commercialAction actionId) = some row →
        row.status ≠ .ready → row.status ≠ .sending →
          last.world.rows.get (Key.commercialAction actionId) = some row ∧
          reservations actionId later = [] ∧
          ∀ eventId, SentEvent last.world.rows actionId eventId ↔
            SentEvent middle.world.rows actionId eventId := by
  have hstart : (sends sha256 uuid5 authorizer).Good (Sys.start world session) :=
    Certificate.Good.start world session fun _ => trivial
  have hgood := hstart.run hearlier
  have hmiddle := announced_of_run hstart hannounced hearlier
  have hlast := announced_of_run hgood hmiddle hlater
  constructor
  · exact hlast
  · intro actionId row hrow hready hsending
    rcases unreserved_of_run hgood hrow hready hsending hlater with ⟨hrow', hnone⟩
    use hrow', hnone
    intro eventId
    have hkept : ∀ {eventId}, SentEvent middle.world.rows actionId eventId →
        SentEvent last.world.rows actionId eventId :=
      fun hevent => SendEvolves.event_sent (hgood.evolves_run hlater) hevent
    constructor
    · intro hevent
      by_cases hsent : row.status = .sent
      · rcases hmiddle.once actionId row hrow hsent with ⟨only, honly, _⟩
        rwa [(hlast.once actionId row hrow' hsent).unique hevent (hkept honly)]
      · exact absurd hevent (hlast.none actionId row hrow' hsent eventId)
    · exact hkept

end Final

section Results

/-- The gateway has answered a send of the action and the body of a call with this id. -/
def AnsweredWith (events : List (SendEvent ι)) (call : CommercialSend)
    (externalMessageId : String) : Prop :=
  ∃ client before result after, .acted client before (.sends (.ok result)) after ∈ events ∧
    before.call.actionId = call.actionId ∧ before.call.body = call.body ∧
      result.externalMessageId = externalMessageId

theorem AnsweredWith.append {events recorded : List (SendEvent ι)}
    {externalMessageId : String} (h : AnsweredWith events call externalMessageId) :
    AnsweredWith (events ++ recorded) call externalMessageId := by
  rcases h with ⟨client, before, result, after, hmem, hsame⟩
  exact ⟨client, before, result, after, List.mem_append_left _ hmem, hsame⟩

/-- A call of the same action and body is answered with the same. -/
theorem AnsweredWith.congr {events : List (SendEvent ι)} {call' : CommercialSend}
    {externalMessageId : String} (h : AnsweredWith events call' externalMessageId)
    (hsame : call.actionId = call'.actionId ∧ call.body = call'.body) :
    AnsweredWith events call externalMessageId := by
  rcases h with ⟨client, before, result, after, hmem, hid, hbody, hresult⟩
  exact ⟨client, before, result, after, hmem, hid.trans hsame.1.symm,
    hbody.trans hsame.2.symm, hresult⟩

theorem not_mem_of_only {kind : Key → Prop} {written : Rows Row} (h : written.Only kind)
    {key : Key} (hkey : ¬ kind key) {row : Option (Row key)} : ⟨key, row⟩ ∉ written := by
  intro hmem
  exact hkey (h key (List.mem_map.mpr ⟨_, hmem, rfl⟩))

/-- What a completion writes under its key. -/
theorem Completes.entry {result : CommunicationSendResult} {resultRef key : String}
    {completed : Rows Row} {record : IdempotencyRecord}
    (h : Completes sha256 call result.externalMessageId rows resultRef completed)
    (hmem : ⟨Key.idempotencyKey key, some record⟩ ∈ completed) :
    key = call.idempotencyKey ∧ record.requestHash = call.requestHash sha256 ∧
      (⟨Key.idempotencyKey key, some record⟩ ∈ rows ∨
        record.resultRef = result.externalMessageId) := by
  cases h with
  | finds found hfound hhash hfinal =>
      obtain hsame := List.mem_singleton.mp hmem
      cases hsame
      exact ⟨rfl, hhash, Or.inl (Rows.mem_of_get hfound)⟩
  | makes found hfound hhash hpending =>
      rcases List.mem_cons.mp hmem with hsame | hmem
      · cases hsame
        exact ⟨rfl, hhash, Or.inr rfl⟩
      · obtain hsame := List.mem_singleton.mp hmem
        cases hsame
        exact ⟨rfl, hhash, Or.inl (Rows.mem_of_get hfound)⟩

/-- What a commit writes under a key. -/
theorem Effect.entry (h : Effect sha256 uuid5 call rows before after own) {key : String}
    {record : IdempotencyRecord} (hmem : ⟨Key.idempotencyKey key, some record⟩ ∈ own) :
    key = call.idempotencyKey ∧ record.requestHash = call.requestHash sha256 ∧
      (record.resultRef = pendingRef call.actionId ∨
        ⟨Key.idempotencyKey key, some record⟩ ∈ rows ∨
        ∃ result, before = .answered result ∧
          record.resultRef = result.externalMessageId) ∧
      ∃ row : CommercialAction, rows.get (Key.commercialAction call.actionId) = some row := by
  have hkept : ¬ Beside (Key.idempotencyKey key) := fun h => h
  have hrecorded : ∀ {event announced} {beside rest : Rows Row},
      Announces event rows announced → beside.Only Beside →
        ⟨Key.idempotencyKey key, some record⟩ ∈ beside ++ (announced ++ rest) →
          ⟨Key.idempotencyKey key, some record⟩ ∈ rest := by
    intro event announced beside rest hannounced hbeside hmem
    rcases List.mem_append.mp hmem with hmem | hmem
    · exact absurd hmem (not_mem_of_only hbeside hkept)
    · rcases List.mem_append.mp hmem with hmem | hmem
      · exact absurd hmem (not_mem_of_only hannounced.only (by simp))
      · exact hmem
  cases h with
  | replays now found result hlog hhash hfinal hresult hsent => cases hmem
  | claims now row reserved hreserved hrow hclaimable =>
      rcases List.mem_cons.mp hmem with hsame | hmem
      · cases hsame
      · cases hreserved with
        | makes hnone =>
            obtain hsame := List.mem_singleton.mp hmem
            cases hsame
            exact ⟨rfl, rfl, Or.inl rfl, row, hrow⟩
        | finds found hfound hhash => cases hmem
  | agrees result answer resultRef completed hcompleted hsent hsame hanswer =>
      rcases hcompleted.entry hmem with ⟨hkey, hhash, hold | hnew⟩
      · exact ⟨hkey, hhash, Or.inr (Or.inl hold), hsent.choose, hsent.choose_spec.1⟩
      · exact ⟨hkey, hhash, Or.inr (Or.inr ⟨result, rfl, hnew⟩), hsent.choose,
          hsent.choose_spec.1⟩
  | completes result resultRef row now completed announced beside event hcompleted hrow
      hreserved htype haggregate hannounced hbeside =>
      rcases List.mem_cons.mp (hrecorded hannounced hbeside hmem) with hsame | hmem
      · cases hsame
      · rcases hcompleted.entry hmem with ⟨hkey, hhash, hold | hnew⟩
        · exact ⟨hkey, hhash, Or.inr (Or.inl hold), row, hrow⟩
        · exact ⟨hkey, hhash, Or.inr (Or.inr ⟨result, rfl, hnew⟩), row, hrow⟩
  | fails error row now announced beside beside' event hrow hreserved htype hannounced hbeside
      hbeside' =>
      rcases List.mem_append.mp (hrecorded hannounced hbeside hmem) with hmem | hmem
      · exact absurd hmem (not_mem_of_only hbeside' hkept)
      · obtain hsame := List.mem_singleton.mp hmem
        cases hsame
  | reports error announced beside beside' event htype hannounced hbeside hbeside' =>
      rw [← List.append_nil beside'] at hmem
      rcases List.mem_append.mp (hrecorded hannounced hbeside hmem) with hmem | hmem
      · exact absurd hmem (not_mem_of_only hbeside' hkept)
      · cases hmem

/-- Once a call is answered, its next commit leaves its action sent. -/
theorem Effect.sent_of_answered {result : CommunicationSendResult}
    (h : Effect sha256 uuid5 call rows (.answered result) after own) :
    ∃ row : CommercialAction,
      Rows.get (own ++ rows) (Key.commercialAction call.actionId) = some row ∧
        row.status = .sent := by
  cases h with
  | agrees result answer resultRef completed hcompleted hsent hsame hanswer =>
      rcases hsent with ⟨row, hrow, hsent⟩
      exact ⟨row, by rw [hcompleted.only.get_append (by simp), hrow], hsent⟩
  | completes result resultRef row now completed announced beside event hcompleted hrow
      hreserved htype haggregate hannounced hbeside =>
      have hprincipal : Principal (Key.commercialAction call.actionId) := trivial
      use CommercialActions.released .sent row
      rw [get_recorded hannounced hbeside hprincipal, List.cons_append, Rows.get_cons_self]
      exact ⟨rfl, rfl⟩

/-- Where a returned result comes from. -/
theorem Effect.returned {answer : CommunicationSendResult}
    (h : Effect sha256 uuid5 call rows before (.returned answer) own) :
    (∃ (record : IdempotencyRecord) (row : CommercialAction),
      ⟨Key.idempotencyKey call.idempotencyKey, some record⟩ ∈ rows ∧
      record.requestHash = call.requestHash sha256 ∧
      PyText.startsWith record.resultRef "pending:" = false ∧
      answer.externalMessageId = record.resultRef ∧
      rows.get (Key.commercialAction call.actionId) = some row) ∨
    ∃ result, before = .answered result ∧
      answer.externalMessageId = result.externalMessageId := by
  cases h with
  | replays now record result hlog hhash hfinal hresult hsent =>
      rcases hsent with ⟨row, hrow, _⟩
      exact Or.inl ⟨record, row, hlog, hhash, hfinal, hresult, hrow⟩
  | agrees result answer resultRef completed hcompleted hsent hsame hanswer =>
      exact Or.inr ⟨result, rfl, hanswer.trans hsame⟩
  | completes result resultRef row now completed announced beside event hcompleted hrow
      hreserved htype haggregate hannounced hbeside => exact Or.inr ⟨answer, rfl, rfl⟩

/-- One text has one beginning before the first mark. -/
theorem append_cons_inj {α : Type} {a b x y : List α} {c : α} (ha : c ∉ a) (hb : c ∉ b)
    (h : a ++ c :: x = b ++ c :: y) : a = b ∧ x = y := by
  induction a generalizing b with
  | nil =>
      cases b with
      | nil => exact ⟨rfl, (List.cons.inj h).2⟩
      | cons head rest =>
          obtain rfl := (List.cons.inj h).1
          exact absurd List.mem_cons_self hb
  | cons head rest ih =>
      cases b with
      | nil =>
          obtain rfl := (List.cons.inj h).1
          exact absurd List.mem_cons_self ha
      | cons head' rest' =>
          rcases List.cons.inj h with ⟨rfl, hrest⟩
          rcases ih (fun hc => ha (List.mem_cons_of_mem _ hc))
            (fun hc => hb (List.mem_cons_of_mem _ hc)) hrest with ⟨rfl, rfl⟩
          exact ⟨rfl, rfl⟩

/-- Under one key, and with actions whose ids have no line breaks, the hash tells the
action and the body. -/
theorem requestHash_inj (hsha256 : Function.Injective sha256) {call' : CommercialSend}
    (hid : '\n' ∉ call.actionId.toList) (hid' : '\n' ∉ call'.actionId.toList)
    (hkey : call.idempotencyKey = call'.idempotencyKey)
    (h : call.requestHash sha256 = call'.requestHash sha256) :
    call.actionId = call'.actionId ∧ call.body = call'.body := by
  have htext := congrArg String.toList (hsha256 h)
  simp only [requestText, String.toList_append, hkey, List.append_assoc] at htext
  rcases append_cons_inj hid hid' htext with ⟨haction, hrest⟩
  constructor
  · exact String.toList_inj.mp haction
  · exact String.toList_inj.mp (List.cons.inj (List.append_cancel_left hrest)).2

/-- No stored action has a line break in its id. -/
def OneLine (rows : Rows Row) : Prop :=
  ∀ actionId (row : CommercialAction),
    rows.get (Key.commercialAction actionId) = some row → '\n' ∉ actionId.toList

theorem Effect.oneLine (h : Effect sha256 uuid5 call rows before after own)
    (hplain : OneLine rows) : OneLine (own ++ rows) := by
  intro actionId row' hrow'
  rcases h.action_back hrow' with ⟨row, hrow⟩
  exact hplain actionId row hrow

/-- A record of a call is pending for its action, or the action was sent and the gateway
gave the result. -/
def Settled (sha256 : String → String) (call : CommercialSend) (rows : Rows Row)
    (events : List (SendEvent ι)) : Prop :=
  ∀ (record : IdempotencyRecord) (row : CommercialAction),
    rows.get (Key.commercialAction call.actionId) = some row →
      ⟨Key.idempotencyKey call.idempotencyKey, some record⟩ ∈ rows →
        record.requestHash = call.requestHash sha256 →
          record.resultRef = pendingRef call.actionId ∨
            row.status = .sent ∧ AnsweredWith events call record.resultRef

/-- What holds of the results in every state that a run reaches. -/
structure Accounted (sha256 : String → String) (calls : ι → CommercialSend)
    (rows : Rows Row) (session : ι → Session) (events : List (SendEvent ι)) : Prop where
  oneLine : OneLine rows
  same : ∀ client, (session client).call = calls client
  answered : ∀ client result, (session client).stage = .answered result →
    AnsweredWith events (calls client) result.externalMessageId
  settled : ∀ client, Settled sha256 (calls client) rows events
  returned : ∀ client result, (session client).stage = .returned result →
    AnsweredWith events (calls client) result.externalMessageId

variable {calls : ι → CommercialSend} {session : ι → Session} {events : List (SendEvent ι)}

theorem Settled.append {recorded : List (SendEvent ι)} (h : Settled sha256 call rows events) :
    Settled sha256 call rows (events ++ recorded) := by
  intro record row hrow hmem hhash
  rcases h record row hrow hmem hhash with hpending | ⟨hsent, hanswered⟩
  · exact Or.inl hpending
  · exact Or.inr ⟨hsent, hanswered.append⟩

/-- A commit settles what it writes and leaves settled what was. -/
theorem Accounted.settled_commit (hsha256 : Function.Injective sha256)
    (h : Accounted sha256 calls rows session events) {client : ι} {recorded}
    (heffect : Effect sha256 uuid5 (calls client) rows (session client).stage after own)
    (other : ι) : Settled sha256 (calls other) (own ++ rows) (events ++ recorded) := by
  intro record row' hrow' hmem hhash
  rcases heffect.action_back hrow' with ⟨row, hrow⟩
  have hold : ⟨Key.idempotencyKey (calls other).idempotencyKey, some record⟩ ∈ rows →
      record.resultRef = pendingRef (calls other).actionId ∨
        row'.status = .sent ∧
          AnsweredWith (events ++ recorded) (calls other) record.resultRef := by
    intro hmem
    rcases h.settled other record row hrow hmem hhash with hpending | ⟨hsent, hanswered⟩
    · exact Or.inl hpending
    · rcases heffect.evolves.action _ _ hrow with ⟨kept, hkept, hsame⟩
      obtain rfl := hsame (by rw [hsent]; decide) (by rw [hsent]; decide)
      obtain rfl := Option.some.inj (hrow'.symm.trans hkept)
      exact Or.inr ⟨hsent, hanswered.append⟩
  rcases List.mem_append.mp hmem with hmem | hmem
  · rcases heffect.entry hmem with ⟨hkey, hsame, hwritten, found, hfound⟩
    have hid := requestHash_inj hsha256 (h.oneLine _ row hrow) (h.oneLine _ found hfound) hkey
      (hhash.symm.trans hsame)
    rcases hwritten with hpending | hlog | ⟨result, hbefore, hresult⟩
    · left
      rw [hpending, hid.1]
    · exact hold hlog
    · right
      rw [hbefore] at heffect
      rcases heffect.sent_of_answered with ⟨sent, hsent, hstatus⟩
      rw [← hid.1, hrow'] at hsent
      obtain rfl := Option.some.inj hsent
      rw [hresult]
      exact ⟨hstatus, (h.answered client result hbefore).append.congr hid⟩
  · exact hold hmem

variable [DecidableEq ι] {client : ι} {after : Session}

/-- When one client moves, and its new state is accounted for, all are. -/
theorem Accounted.update {recorded : List (SendEvent ι)}
    (h : Accounted sha256 calls rows session events) {rows' : Rows Row}
    (holdOneLine : OneLine rows') (hcall : after.call = (session client).call)
    (hanswered : ∀ result, after.stage = .answered result →
      AnsweredWith (events ++ recorded) (calls client) result.externalMessageId)
    (hsettled : ∀ other, Settled sha256 (calls other) rows' (events ++ recorded))
    (hreturned : ∀ result, after.stage = .returned result →
      AnsweredWith (events ++ recorded) (calls client) result.externalMessageId) :
    Accounted sha256 calls rows' (Function.update session client after)
      (events ++ recorded) := by
  constructor
  · exact holdOneLine
  · intro other
    by_cases hother : other = client
    · subst hother
      rw [Function.update_self, hcall, h.same]
    · rw [Function.update_of_ne hother, h.same]
  · intro other result hstage
    by_cases hother : other = client
    · subst hother
      rw [Function.update_self] at hstage
      exact hanswered result hstage
    · rw [Function.update_of_ne hother] at hstage
      exact (h.answered other result hstage).append
  · exact hsettled
  · intro other result hstage
    by_cases hother : other = client
    · subst hother
      rw [Function.update_self] at hstage
      exact hreturned result hstage
    · rw [Function.update_of_ne hother] at hstage
      exact (h.returned other result hstage).append

theorem startsWith_pendingRef (actionId : String) :
    PyText.startsWith (pendingRef actionId) "pending:" = true :=
  PyText.startsWith_append _ _

theorem Accounted.commit (hsha256 : Function.Injective sha256)
    (h : Accounted sha256 calls rows session events)
    (hcall : after.call = (session client).call)
    (heffect : Effect sha256 uuid5 (session client).call rows (session client).stage
      after.stage own) :
    Accounted sha256 calls (own ++ rows) (Function.update session client after)
      (events ++ [.committed client (session client) after own]) := by
  rw [h.same client] at heffect
  apply h.update (heffect.oneLine h.oneLine) hcall _ (h.settled_commit hsha256 heffect)
  · intro answer hafter
    rw [hafter] at heffect
    rcases heffect.returned with ⟨record, row, hlog, hhash, hfinal, hanswer, hrow⟩ |
      ⟨result, hbefore, hanswer⟩
    · rcases h.settled client record row hrow hlog hhash with hpending | ⟨_, hanswered⟩
      · rw [hpending, startsWith_pendingRef] at hfinal
        cases hfinal
      · rw [hanswer]
        exact hanswered.append
    · rw [hanswer]
      exact (h.answered client result hbefore).append
  · intro result hafter
    rw [hafter] at heffect
    generalize (session client).stage = before at heffect
    cases heffect

theorem Accounted.act {authorizer : RBACAuthorizer} {action : Action} {now now' : Instant}
    (h : Accounted sha256 calls rows session events)
    (houtside : (flow sha256 uuid5 authorizer).outside (session client) now action after now') :
    Accounted sha256 calls rows (Function.update session client after)
      (events ++ [.acted client (session client) action after]) := by
  rcases houtside with ⟨_, hcall, hacts⟩
  apply h.update h.oneLine hcall _ (fun other => (h.settled other).append)
  · intro result hafter
    rw [hafter] at hacts
    generalize (session client).stage = before at hacts
    cases hacts
  · intro result hafter
    have hsame := h.same client
    rw [hafter] at hacts
    generalize (session client).stage = before at hacts
    cases hacts with
    | answers sent result hgateway =>
        exact ⟨client, session client, result, after,
          List.mem_append_right _ (List.mem_singleton_self _),
          congrArg CommercialSend.actionId hsame, congrArg CommercialSend.body hsame, rfl⟩

/-- At the start of a run nothing that a call has asked for is settled. -/
def Unsettled (sha256 : String → String) (calls : ι → CommercialSend) (rows : Rows Row) :
    Prop :=
  ∀ client record,
    ⟨Key.idempotencyKey (calls client).idempotencyKey, some record⟩ ∈ rows →
      record.requestHash = (calls client).requestHash sha256 →
        record.resultRef = pendingRef (calls client).actionId

theorem accounted_of_run {authorizer : RBACAuthorizer} {world : World Instant Row}
    {last : SendSys ι} (hsha256 : Function.Injective sha256) (honeLine : OneLine world.rows)
    (hfresh : Unsettled sha256 calls world.rows)
    (hrun : Run (flow sha256 uuid5 authorizer)
      (Sys.start world fun client => ⟨calls client, .called⟩) events last) :
    Accounted sha256 calls last.world.rows last.states events := by
  apply (sends sha256 uuid5 authorizer).run_induction
    (fun world session events => Accounted sha256 calls world.rows session events)
    _ _ _ _ _ _ hrun
  · exact Certificate.Good.start world _ fun _ => trivial
  · constructor
    · exact honeLine
    · exact fun _ => rfl
    · exact fun _ _ hstage => by cases hstage
    · exact fun client record _ _ hmem hhash => Or.inl (hfresh client record hmem hhash)
    · exact fun _ _ hstage => by cases hstage
  · intro world session events client after own _ hdoes h
    exact h.commit hsha256 hdoes.1 hdoes.2
  · intro world session events client error _ h
    exact h.update h.oneLine rfl (fun _ hstage => by cases hstage)
      (fun other => (h.settled other).append) (fun _ hstage => by cases hstage)
  · intro world session events client action after env _ houtside h
    exact h.act houtside
  · exact fun _ h => h

/-- Whatever sends are called, however they interleave, fail and crash: each record of a
call is either pending for its action, or the action was sent and the gateway gave the
result of the record to a send of that action and body; and whatever a call returns, the
gateway gave to a send of its action and body. -/
theorem results_answered (sha256 uuid5 : String → String) (authorizer : RBACAuthorizer)
    (calls : ι → CommercialSend) {world : World Instant Row} {last : SendSys ι}
    (hsha256 : Function.Injective sha256) (honeLine : OneLine world.rows)
    (hfresh : Unsettled sha256 calls world.rows)
    (hrun : Run (flow sha256 uuid5 authorizer)
      (Sys.start world fun client => ⟨calls client, .called⟩) events last) :
    (∀ client (record : IdempotencyRecord) (row : CommercialAction),
      last.world.rows.get (Key.commercialAction (calls client).actionId) = some row →
        last.world.rows.get (Key.idempotencyKey (calls client).idempotencyKey) = some record →
          record.requestHash = (calls client).requestHash sha256 →
            record.resultRef = pendingRef (calls client).actionId ∨ row.status = .sent ∧
              AnsweredWith events (calls client) record.resultRef) ∧
    ∀ client result, (last.states client).stage = .returned result →
      AnsweredWith events (calls client) result.externalMessageId := by
  have haccounted := accounted_of_run hsha256 honeLine hfresh hrun
  constructor
  · intro client record row hrow hrecord
    exact haccounted.settled client record row hrow (Rows.mem_of_get hrecord)
  · exact haccounted.returned

end Results

section Keys

/-- The key of a reservation is bound to its request, and its action is stored. -/
def KeyBound (sha256 : String → String) (rows : Rows Row) (call : CommercialSend) : Prop :=
  (∃ record : IdempotencyRecord,
    rows.get (Key.idempotencyKey call.idempotencyKey) = some record ∧
      record.requestHash = call.requestHash sha256) ∧
  ∃ row : CommercialAction, rows.get (Key.commercialAction call.actionId) = some row

theorem KeyBound.evolves {rows' : Rows Row} (h : KeyBound sha256 rows call)
    (hevolves : SendEvolves rows rows') : KeyBound sha256 rows' call := by
  rcases h with ⟨⟨record, hrecord, hhash⟩, row, hrow⟩
  rcases hevolves.record _ _ hrecord with ⟨record', hrecord', hsame⟩
  rcases hevolves.action _ _ hrow with ⟨row', hrow', _⟩
  exact ⟨⟨record', hrecord', hsame.trans hhash⟩, row', hrow'⟩

/-- A call that goes on to send has bound its key. -/
theorem Effect.keyBound {action : CommercialAction}
    (h : Effect sha256 uuid5 call rows before (.sending action) own) :
    KeyBound sha256 (own ++ rows) call := by
  cases h with
  | claims now row reserved hreserved hrow hclaimable =>
      constructor
      · rw [List.cons_append, Rows.get_cons_ne (by simp)]
        cases hreserved with
        | makes hnone =>
            rw [List.cons_append, Rows.get_cons_self]
            exact ⟨_, rfl, rfl⟩
        | finds record hrecord hhash => exact ⟨record, hrecord, hhash⟩
      · rw [List.cons_append, Rows.get_cons_self]
        exact ⟨_, rfl⟩

variable [DecidableEq ι] {authorizer : RBACAuthorizer} {world : World Instant Row}
  {session : ι → Session} {events : List (SendEvent ι)} {last : SendSys ι}

theorem keyBound_of_run
    (hrun : Run (flow sha256 uuid5 authorizer) (Sys.start world session) events last) :
    ∀ reserved ∈ events.filterMap reservation,
      KeyBound sha256 last.world.rows reserved.call := by
  apply (sends sha256 uuid5 authorizer).run_induction
    (fun world _ events => ∀ reserved ∈ events.filterMap reservation,
      KeyBound sha256 world.rows reserved.call) _ _ _ _ _ _ hrun
  · exact Certificate.Good.start world session fun _ => trivial
  · exact fun _ hmem => by cases hmem
  · intro world session events client after own _ hdoes h reserved hmem
    rcases hdoes with ⟨_, heffect⟩
    rw [List.filterMap_append, List.mem_append] at hmem
    rcases hmem with hmem | hmem
    · exact (h reserved hmem).evolves heffect.evolves
    · have hnew : reservation (.committed client (session client) after own) = some reserved := by
        simpa using hmem
      by_cases hafter : ∃ action, after.stage = .sending action
      · rcases hafter with ⟨action, hafter⟩
        rcases Option.map_eq_some_iff.mp hnew with ⟨now, _, rfl⟩
        rw [hafter] at heffect
        exact heffect.keyBound
      · rw [reservation_eq_none fun action hstage => hafter ⟨action, hstage⟩] at hnew
        cases hnew
  · intro world session events client error _ h reserved hmem
    rw [List.filterMap_append, List.mem_append] at hmem
    exact h reserved (hmem.resolve_right List.not_mem_nil)
  · intro world session events client action after env _ _ h reserved hmem
    rw [List.filterMap_append, List.mem_append] at hmem
    exact h reserved (hmem.resolve_right List.not_mem_nil)
  · exact fun _ h => h

theorem oneLine_of_run (honeLine : OneLine world.rows)
    (hrun : Run (flow sha256 uuid5 authorizer) (Sys.start world session) events last) :
    OneLine last.world.rows := by
  apply (sends sha256 uuid5 authorizer).run_induction
    (fun world _ _ => OneLine world.rows) _ honeLine _ _ _ _ hrun
  · exact Certificate.Good.start world session fun _ => trivial
  · exact fun _ hdoes h => hdoes.2.oneLine h
  · exact fun _ h => h
  · exact fun _ _ h => h
  · exact fun _ h => h

/-- Whatever sends are called, however they interleave, fail and crash: all that the
gateway is given under one command key is one body for one action. -/
theorem key_binds (sha256 uuid5 : String → String) (authorizer : RBACAuthorizer)
    (hsha256 : Function.Injective sha256) (honeLine : OneLine world.rows)
    (hcalled : ∀ client, (session client).stage = .called)
    (hrun : Run (flow sha256 uuid5 authorizer) (Sys.start world session) events last)
    {client client' : ι} {before before' after after' : Session}
    {outcome outcome' : Except Failure CommunicationSendResult}
    (hsend : .acted client before (.sends outcome) after ∈ events)
    (hsend' : .acted client' before' (.sends outcome') after' ∈ events)
    (hkey : before.call.idempotencyKey = before'.call.idempotencyKey) :
    before.call.actionId = before'.call.actionId ∧ before.call.body = before'.call.body := by
  have hleased := leased_of_run sha256 uuid5 authorizer hcalled hrun
  have hplain := oneLine_of_run honeLine hrun
  have hbound : ∀ {client before after outcome},
      Event.acted client before (.sends outcome) after ∈ events →
        KeyBound sha256 last.world.rows before.call := by
    intro client before after outcome hmem
    rcases List.append_of_mem hmem with ⟨earlier, later, hsplit⟩
    rcases hleased.preceded earlier _ later hsplit with ⟨reserved, hreserved, _, hcall⟩
    rw [← hcall]
    apply keyBound_of_run hrun
    rw [hsplit, List.filterMap_append]
    exact List.mem_append_left _ hreserved
  rcases hbound hsend with ⟨⟨record, hrecord, hhash⟩, row, hrow⟩
  rcases hbound hsend' with ⟨⟨record', hrecord', hhash'⟩, row', hrow'⟩
  rw [← hkey] at hrecord'
  obtain rfl := Option.some.inj (hrecord.symm.trans hrecord')
  exact requestHash_inj hsha256 (hplain _ row hrow) (hplain _ row' hrow') hkey
    (hhash.symm.trans hhash')

end Keys

section Sample

/-- The action as its completion leaves it. -/
def sampleSent : CommercialAction := CommercialActions.released .sent (sampleClaimed true)

/-- The rows once both calls have reserved the action. -/
def sampleHeld : Rows Row := sampleReserved true ++ (sampleReserved false ++ sampleRows)

theorem sampleCompletes : ∃ own : Rows Row,
    (complete id id (sampleCall true) sampleResult).execute (leaseUntil 10) sampleHeld [] =
      .ok (.returned sampleResult, own) ∧
    Rows.get (own ++ sampleHeld) (Key.commercialAction "action-1") = some sampleSent :=
  ⟨_, rfl, rfl⟩

theorem sampleAnnounced : Announced sampleRows := by
  have hrows : ∀ actionId (row : CommercialAction),
      sampleRows.get (Key.commercialAction actionId) = some row → row = sampleAction := by
    intro actionId row hrow
    by_cases hsame : "action-1" = actionId
    · subst hsame
      simpa [sampleRows, eq_comm] using hrow
    · simp [sampleRows, hsame] at hrow
  constructor
  · intro actionId row hrow hsent
    rw [hrows actionId row hrow] at hsent
    cases hsent
  · intro actionId row hrow _ eventId hevent
    rcases hevent with ⟨event, hget, _⟩
    simp [sampleRows] at hget

/-- The second call completes its send after the first one has stopped. -/
theorem run_completed : ∃ (own : Rows Row) (last : SendSys Bool),
    Run (flow id id sampleAuthorizer) (Sys.start ⟨10, sampleRows⟩ sampleSessions)
      (sampleEvents false 10 ++ sampleEvents true (leaseUntil 10) ++
        [.committed true (sampleAnswered true) ⟨sampleCall true, .returned sampleResult⟩ own])
      last ∧
    last.world.rows.get (Key.commercialAction "action-1") = some sampleSent ∧
    (last.states true).stage = .returned sampleResult := by
  rcases sampleCompletes with ⟨own, hcompleted, hrow⟩
  have hcode : (flow id id sampleAuthorizer).code (sampleAnswered true) =
      some (complete id id (sampleCall true) sampleResult >>= fun stage =>
        Pure.pure ⟨sampleCall true, stage⟩) := rfl
  have hcompletes : Run (flow id id sampleAuthorizer)
      (Sys.start ⟨leaseUntil 10, sampleHeld⟩ sampleAnswered)
      [.committed true (sampleAnswered true) ⟨sampleCall true, .returned sampleResult⟩ own] _ :=
    run_transaction_start true hcode (by rw [Prog.execute_bind, hcompleted]; rfl)
  exact ⟨own, _, run_takeover.trans hcompletes, hrow, rfl⟩

theorem sampleOneLine : OneLine sampleRows := by
  intro actionId row hrow
  by_cases hsame : "action-1" = actionId
  · subst hsame
    decide
  · simp [sampleRows, hsame] at hrow

theorem sampleUnsettled : Unsettled id sampleCall sampleRows := by
  intro client record hmem
  simp [sampleRows] at hmem

theorem results_answered_sample : ∃ events : List (SendEvent Bool),
    AnsweredWith events (sampleCall true) "max:commercial-send:action-1" := by
  rcases run_completed with ⟨own, last, hrun, _, hreturned⟩
  have h := results_answered id id sampleAuthorizer sampleCall Function.injective_id
    sampleOneLine sampleUnsettled hrun
  exact ⟨_, h.2 true sampleResult hreturned⟩

theorem key_binds_sample : ∃ outcome after outcome' after',
    Event.acted false ⟨sampleCall false, .sending (sampleClaimed false)⟩ (.sends outcome)
      after ∈ sampleEvents false 10 ++ sampleEvents true (leaseUntil 10) ∧
    Event.acted true ⟨sampleCall true, .sending (sampleClaimed true)⟩ (.sends outcome')
      after' ∈ sampleEvents false 10 ++ sampleEvents true (leaseUntil 10) ∧
    (sampleCall false).actionId = (sampleCall true).actionId ∧
    (sampleCall false).body = (sampleCall true).body :=
  ⟨_, _, _, _, sampleSent_mem false, sampleSent_mem true,
    key_binds id id sampleAuthorizer Function.injective_id sampleOneLine (fun _ => rfl)
      run_takeover (sampleSent_mem false) (sampleSent_mem true) rfl⟩

theorem sent_once_sample : ∃ last : SendSys Bool, Announced last.world.rows ∧
    last.world.rows.get (Key.commercialAction "action-1") = some sampleSent ∧
    ∃! eventId, SentEvent last.world.rows "action-1" eventId := by
  rcases run_completed with ⟨own, last, hrun, hrow, _⟩
  have h := sent_once id id sampleAuthorizer sampleAnnounced hrun Run.start
  have hfinal := h.2 "action-1" sampleSent hrow (by decide) (by decide)
  exact ⟨last, h.1, hfinal.1, h.1.once "action-1" sampleSent hrow rfl⟩

end Sample

end CommercialSend

end ShemaPlatform
