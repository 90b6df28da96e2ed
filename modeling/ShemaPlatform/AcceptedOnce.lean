/-
A key of the public intake is accepted once.  Over any number of submissions and
dispatchers a key has one request and one first event, its reservation is completed
with the request, and whoever returns for the key returns that request.
-/
import ShemaPlatform.IntakeBacklog

namespace ShemaPlatform

open Calendar ReadCommitted ReadCommitted.Prog PublicIntakeRepository

/-- The event that every request has, and no second one is of its types. -/
def PublicIntakeOutboxEvent.Primary (event : PublicIntakeOutboxEvent) : Prop :=
  event.eventType = "new_client_request" ∨ event.eventType = "spam_or_abuse_quarantined"

namespace PublicIntakeService

/-- Every call has a request id of its own. -/
def OwnRequests {ι : Type} (session : ι → Session) : Prop :=
  ∀ client other call call', (session client).client = .inl call →
    (session other).client = .inl call' → call.requestId = call'.requestId → client = other

/-- The reservation that a call makes, completed or not. -/
structure Reserves (sha256 : String → String) (call : Submission) (key : String)
    (row : IntakeReservationRow) : Prop where
  key : call.key = key
  requestId : row.requestId = call.requestId
  requestHash : row.requestHash = call.payload.requestHash sha256
  leasedUntil : row.leasedUntil = call.reservedAt + seconds 120

/-- The requests, reservations and first events fit each other and the calls. -/
structure Ledger {ι : Type} (sha256 : String → String) (session state : ι → Session)
    (rows : IntakeRows) : Prop where
  client : ∀ client, (state client).client = (session client).client
  keyed : ∀ key requestId, rows.get (IntakeKey.requestKey key) = some requestId →
    ∃ row : IntakeRequestRow, rows.get (IntakeKey.request requestId) = some row ∧
      row.idempotencyKey = key
  indexed : ∀ requestId (row : IntakeRequestRow),
    rows.get (IntakeKey.request requestId) = some row →
      rows.get (IntakeKey.requestKey row.idempotencyKey) = some requestId
  reserved : ∀ key (row : IntakeReservationRow),
    rows.get (IntakeKey.reservation key) = some row →
      ∃ client call, (session client).client = .inl call ∧ Reserves sha256 call key row
  completed : ∀ key (row : IntakeReservationRow),
    rows.get (IntakeKey.reservation key) = some row → row.completedAt ≠ none →
      ∃ request : IntakeRequestRow,
        rows.get (IntakeKey.request row.requestId) = some request ∧
          request.idempotencyKey = key ∧ request.requestHash = row.requestHash
  recorded : ∀ requestId (request : IntakeRequestRow),
    rows.get (IntakeKey.request requestId) = some request →
      ∃ row : IntakeReservationRow,
        rows.get (IntakeKey.reservation request.idempotencyKey) = some row ∧
          row.completedAt ≠ none ∧ row.requestId = requestId ∧
            row.requestHash = request.requestHash
  unanswered : ∀ client call, (session client).client = .inl call →
    (state client).answer = none → rows.get (IntakeKey.request call.requestId) = none
  answered : ∀ client key requestId, (state client).answer = some (key, requestId) →
    rows.get (IntakeKey.requestKey key) = some requestId
  primary : ∀ eventId row, intakeEventAt rows eventId = some row → row.event.Primary →
    rows.get (IntakeKey.request row.event.requestId) ≠ none
  unique : ∀ eventId eventId' row row', intakeEventAt rows eventId = some row →
    intakeEventAt rows eventId' = some row' → row.event.Primary → row'.event.Primary →
      row.event.requestId = row'.event.requestId → eventId = eventId'

namespace Ledger

variable {ι : Type} {sha256 : String → String} {service : PublicIntakeService}
  {session state : ι → Session} {rows rows' : IntakeRows} {client : ι} {call : Submission}
  {preflight : CounterpartyPreflightSnapshot} {after : Session} {reserved : IntakeReservationRow}

/-- One client moves, with its answer kept or found under a key. -/
theorem moves [DecidableEq ι] (h : Ledger sha256 session state rows)
    (hclient : after.client = (state client).client)
    (hanswer : after.answer = (state client).answer ∨ (state client).answer = none ∧
      ∃ key requestId, after.answer = some (key, requestId) ∧
        rows.get (IntakeKey.requestKey key) = some requestId) :
    Ledger sha256 session (Function.update state client after) rows := by
  constructor
  · intro other
    by_cases hother : other = client
    · subst hother
      rw [Function.update_self, hclient, h.client]
    · rw [Function.update_of_ne hother, h.client]
  · exact h.keyed
  · exact h.indexed
  · exact h.reserved
  · exact h.completed
  · exact h.recorded
  · intro other call hcall hnone
    by_cases hother : other = client
    · subst hother
      rw [Function.update_self] at hnone
      rcases hanswer with hsame | ⟨hbefore, _⟩
      · exact h.unanswered other call hcall (hsame.symm.trans hnone)
      · exact h.unanswered other call hcall hbefore
    · rw [Function.update_of_ne hother] at hnone
      exact h.unanswered other call hcall hnone
  · intro other key requestId hfound
    by_cases hother : other = client
    · subst hother
      rw [Function.update_self] at hfound
      rcases hanswer with hsame | ⟨_, key', requestId', hnew, hkey⟩
      · exact h.answered other key requestId (hsame.symm.trans hfound)
      · obtain ⟨rfl, rfl⟩ := Prod.mk.inj (Option.some.inj (hnew.symm.trans hfound))
        exact hkey
    · rw [Function.update_of_ne hother] at hfound
      exact h.answered other key requestId hfound
  · exact h.primary
  · exact h.unique

/-- A request that is found afterwards was there before, apart from its projection. -/
theorem request_before (hsame : IntakeSame rows rows') {requestId : String}
    {row' : IntakeRequestRow} (hrow' : rows'.get (IntakeKey.request requestId) = some row') :
    ∃ row : IntakeRequestRow, rows.get (IntakeKey.request requestId) = some row ∧
      row'.idempotencyKey = row.idempotencyKey ∧ row'.requestHash = row.requestHash := by
  cases hrow : rows.get (IntakeKey.request requestId) with
  | none =>
      rw [hsame.noRequest requestId hrow] at hrow'
      cases hrow'
  | some row =>
      rcases hsame.request requestId row hrow with ⟨projectedAt, hfound⟩
      obtain rfl := Option.some.inj (hrow'.symm.trans hfound)
      exact ⟨row, rfl, rfl, rfl⟩

/-- Projections and deliveries leave the ledger as it is. -/
theorem same (h : Ledger sha256 session state rows) (hsame : IntakeSame rows rows') :
    Ledger sha256 session state rows' := by
  constructor
  · exact h.client
  · intro key requestId hkey
    rw [hsame.requestKey] at hkey
    rcases h.keyed key requestId hkey with ⟨row, hrow, hkeyed⟩
    rcases hsame.request requestId row hrow with ⟨projectedAt, hfound⟩
    exact ⟨_, hfound, hkeyed⟩
  · intro requestId row' hrow'
    rcases request_before hsame hrow' with ⟨row, hrow, hkey, _⟩
    rw [hsame.requestKey, hkey]
    exact h.indexed requestId row hrow
  · intro key row hrow
    rw [hsame.reservation] at hrow
    exact h.reserved key row hrow
  · intro key row hrow hdone
    rw [hsame.reservation] at hrow
    rcases h.completed key row hrow hdone with ⟨request, hrequest, hkey, hhash⟩
    rcases hsame.request _ request hrequest with ⟨projectedAt, hfound⟩
    exact ⟨_, hfound, hkey, hhash⟩
  · intro requestId request' hrequest'
    rcases request_before hsame hrequest' with ⟨request, hrequest, hkey, hhash⟩
    rw [hkey, hhash, hsame.reservation]
    exact h.recorded requestId request hrequest
  · intro client call hcall hnone
    exact hsame.noRequest _ (h.unanswered client call hcall hnone)
  · intro client key requestId hfound
    rw [hsame.requestKey]
    exact h.answered client key requestId hfound
  · intro eventId row' hrow' hprimary hnone
    rcases hsame.event_before hrow' with ⟨row, hrow, hevent, _⟩
    rw [hevent] at hprimary hnone
    apply h.primary eventId row hrow hprimary
    cases hrequest : rows.get (IntakeKey.request row.event.requestId) with
    | none => rfl
    | some request =>
        rcases hsame.request _ request hrequest with ⟨projectedAt, hfound⟩
        rw [hfound] at hnone
        cases hnone
  · intro eventId eventId' row₁ row₂ hrow₁ hrow₂ hprimary₁ hprimary₂ hids
    rcases hsame.event_before hrow₁ with ⟨row, hrow, hevent, _⟩
    rcases hsame.event_before hrow₂ with ⟨row', hrow', hevent', _⟩
    rw [hevent] at hprimary₁ hids
    rw [hevent'] at hprimary₂ hids
    exact h.unique eventId eventId' row row' hrow hrow' hprimary₁ hprimary₂ hids

/-- A key is reserved that was free, or whose lease had run out. -/
theorem reserves (h : Ledger sha256 session state rows)
    (hcall : (session client).client = .inl call)
    (hprior : ∀ row : IntakeReservationRow,
      rows.get (IntakeKey.reservation call.key) = some row →
        row.completedAt = none ∧ row.leasedUntil ≤ call.reservedAt) :
    Ledger sha256 session state (⟨IntakeKey.reservation call.key,
      some ⟨call.payload.requestHash sha256, call.requestId, call.reservedAt + seconds 120,
        none⟩⟩ :: rows) := by
  constructor
  · exact h.client
  · intro key requestId hkey
    rw [Rows.get_cons_ne (by simp)] at hkey
    rcases h.keyed key requestId hkey with ⟨row, hrow, hkeyed⟩
    exact ⟨row, (Rows.get_cons_ne (by simp) _ _).trans hrow, hkeyed⟩
  · intro requestId row hrow
    rw [Rows.get_cons_ne (by simp)] at hrow ⊢
    exact h.indexed requestId row hrow
  · intro key row hrow
    by_cases hkey : call.key = key
    · subst hkey
      obtain rfl := Option.some.inj ((Rows.get_cons_self _ _ _).symm.trans hrow)
      exact ⟨client, call, hcall, rfl, rfl, rfl, rfl⟩
    · rw [Rows.get_cons_ne (by simpa using hkey)] at hrow
      exact h.reserved key row hrow
  · intro key row hrow hdone
    by_cases hkey : call.key = key
    · subst hkey
      obtain rfl := Option.some.inj ((Rows.get_cons_self _ _ _).symm.trans hrow)
      exact absurd rfl hdone
    · rw [Rows.get_cons_ne (by simpa using hkey)] at hrow
      rcases h.completed key row hrow hdone with ⟨request, hrequest, hfits⟩
      exact ⟨request, (Rows.get_cons_ne (by simp) _ _).trans hrequest, hfits⟩
  · intro requestId request hrequest
    rw [Rows.get_cons_ne (by simp)] at hrequest
    rcases h.recorded requestId request hrequest with ⟨row, hrow, hdone, hfits⟩
    have hkey : call.key ≠ request.idempotencyKey := by
      intro hsame
      exact hdone (hprior row (hsame ▸ hrow)).1
    exact ⟨row, (Rows.get_cons_ne (by simpa using hkey) _ _).trans hrow, hdone, hfits⟩
  · intro other call' hcall' hnone
    exact (Rows.get_cons_ne (by simp) _ _).trans (h.unanswered other call' hcall' hnone)
  · intro other key requestId hfound
    exact (Rows.get_cons_ne (by simp) _ _).trans (h.answered other key requestId hfound)
  · intro eventId row hrow hprimary
    rw [Rows.get_cons_ne (by simp)]
    exact h.primary eventId row ((Rows.get_cons_ne (by simp) _ _).symm.trans hrow) hprimary
  · intro eventId eventId' row row' hrow hrow'
    exact h.unique eventId eventId' row row' ((Rows.get_cons_ne (by simp) _ _).symm.trans hrow)
      ((Rows.get_cons_ne (by simp) _ _).symm.trans hrow')

/-- The reservation that names a call is the one that the call has made. -/
theorem reserved_by (h : Ledger sha256 session state rows) (hown : OwnRequests session)
    (hcall : (session client).client = .inl call)
    (hreserved : rows.get (IntakeKey.reservation call.key) = some reserved)
    (hmine : reserved.requestId = call.requestId) :
    Reserves sha256 call call.key reserved := by
  rcases h.reserved call.key reserved hreserved with ⟨other, call', hcall', hreserves⟩
  obtain rfl := hown other client call' call hcall' hcall (hreserves.requestId.symm.trans hmine)
  obtain rfl := Sum.inl.inj (hcall'.symm.trans hcall)
  exact hreserves

/-- A call that has not answered finds its reservation open, and its key free. -/
theorem not_clash (h : Ledger sha256 session state rows)
    (hcall : (session client).client = .inl call) (hnone : (state client).answer = none)
    (hreserved : rows.get (IntakeKey.reservation call.key) = some reserved)
    (hmine : reserved.requestId = call.requestId)
    (hclash : rows.get (IntakeKey.requestKey call.key) ≠ none ∨ reserved.completedAt ≠ none) :
    False := by
  have hdone : reserved.completedAt ≠ none := by
    rcases hclash with hkey | hdone
    · rcases Option.ne_none_iff_exists'.mp hkey with ⟨requestId, hfound⟩
      rcases h.keyed call.key requestId hfound with ⟨request, hrequest, hkeyed⟩
      rcases h.recorded requestId request hrequest with ⟨row, hrow, hdone, _⟩
      rw [hkeyed] at hrow
      rwa [Option.some.inj (hreserved.symm.trans hrow)]
    · exact hdone
  rcases h.completed call.key reserved hreserved hdone with ⟨request, hrequest, _⟩
  rw [hmine, h.unanswered client call hcall hnone] at hrequest
  cases hrequest

end Ledger

section Events

variable {call : Submission} {preflight : CounterpartyPreflightSnapshot}
  {event : PublicIntakeOutboxEvent}

/-- An event of a call is its first one or its second one. -/
theorem mem_events_iff : event ∈ call.events preflight ↔
    event = call.event preflight ∨ call.secondEvent preflight = some event := by
  rw [Submission.events, List.mem_cons, Option.mem_toList]

theorem secondEvent_eq_some (h : call.secondEvent preflight = some event) :
    event.requestId = call.requestId ∧ event.eventType ∈
      ["counterparty_attention", "counterparty_blocking_fact", "provider_unavailable"] := by
  rw [Submission.secondEvent] at h
  split at h
  · rcases Option.map_eq_some_iff.mp h with ⟨about, habout, rfl⟩
    constructor
    · rfl
    · rw [Submission.concern] at habout
      split_ifs at habout
      · obtain rfl := Option.some.inj habout
        simp
      · obtain rfl := Option.some.inj habout
        simp
      · obtain rfl := Option.some.inj habout
        simp
  · cases h

theorem requestId_of_mem_events (h : event ∈ call.events preflight) :
    event.requestId = call.requestId := by
  rcases mem_events_iff.mp h with rfl | hsecond
  · rfl
  · exact (secondEvent_eq_some hsecond).1

theorem eq_of_primary (h : event ∈ call.events preflight) (hprimary : event.Primary) :
    event = call.event preflight := by
  rcases mem_events_iff.mp h with hfirst | hsecond
  · exact hfirst
  · have htypes := (secondEvent_eq_some hsecond).2
    rcases hprimary with htype | htype
    · rw [htype] at htypes
      exact absurd htypes (by decide)
    · rw [htype] at htypes
      exact absurd htypes (by decide)

end Events

namespace Ledger

variable {ι : Type} {sha256 : String → String} {service : PublicIntakeService}
  {session state : ι → Session} {rows rows' : IntakeRows} {client : ι} {call : Submission}
  {preflight : CounterpartyPreflightSnapshot} {reserved : IntakeReservationRow}

/-- A request is recorded with its reservation and its first event. -/
theorem records (h : Ledger sha256 session state rows) (hown : OwnRequests session)
    (hcall : (session client).client = .inl call)
    (hrecords : Records sha256 service call preflight reserved rows rows')
    {state' : ι → Session} (hclients : ∀ other, (state' other).client = (session other).client)
    (hothers : ∀ other, other ≠ client → (state' other).answer = (state other).answer)
    (hanswer : (state' client).answer = some (call.key, call.requestId)) :
    Ledger sha256 session state' rows' := by
  have hmade := h.reserved_by hown hcall hrecords.reservation hrecords.mine
  have hkept : ∀ requestId (row : IntakeRequestRow),
      rows.get (IntakeKey.request requestId) = some row → requestId ≠ call.requestId := by
    rintro _ row hrow rfl
    rw [hrecords.requestFree] at hrow
    cases hrow
  have hunkeyed : ∀ key requestId, rows.get (IntakeKey.requestKey key) = some requestId →
      key ≠ call.key := by
    rintro _ requestId hkey rfl
    rw [hrecords.keyFree] at hkey
    cases hkey
  constructor
  · exact hclients
  · intro key requestId hkey
    rw [hrecords.requestKeys] at hkey
    split_ifs at hkey with hsame
    · obtain rfl := Option.some.inj hkey
      refine ⟨_, by rw [hrecords.requests, if_pos rfl], hsame.symm⟩
    · rcases h.keyed key requestId hkey with ⟨row, hrow, hkeyed⟩
      refine ⟨row, ?_, hkeyed⟩
      rw [hrecords.requests, if_neg (hkept requestId row hrow), hrow]
  · intro requestId row hrow
    rw [hrecords.requests] at hrow
    split_ifs at hrow with hsame
    · obtain rfl := Option.some.inj hrow
      rw [hrecords.requestKeys, hsame]
      exact if_pos rfl
    · have hkey := h.indexed requestId row hrow
      rw [hrecords.requestKeys, if_neg (hunkeyed _ _ hkey), hkey]
  · intro key row hrow
    rw [hrecords.reservations] at hrow
    split_ifs at hrow with hsame
    · obtain rfl := Option.some.inj hrow
      subst hsame
      exact ⟨client, call, hcall, rfl, hmade.requestId, hmade.requestHash, hmade.leasedUntil⟩
    · exact h.reserved key row hrow
  · intro key row hrow hdone
    rw [hrecords.reservations] at hrow
    split_ifs at hrow with hsame
    · obtain rfl := Option.some.inj hrow
      refine ⟨requestRow (call.record sha256 preflight), ?_, hsame.symm, hmade.requestHash.symm⟩
      rw [hrecords.requests, if_pos hrecords.mine]
    · rcases h.completed key row hrow hdone with ⟨request, hrequest, hfits⟩
      refine ⟨request, ?_, hfits⟩
      rw [hrecords.requests, if_neg (hkept _ request hrequest), hrequest]
  · intro requestId request hrequest
    rw [hrecords.requests] at hrequest
    split_ifs at hrequest with hsame
    · obtain rfl := Option.some.inj hrequest
      refine ⟨{ reserved with completedAt := some call.completedAt }, ?_, by simp,
        hrecords.mine.trans hsame.symm, hmade.requestHash⟩
      rw [hrecords.reservations]
      exact if_pos rfl
    · rcases h.recorded requestId request hrequest with ⟨row, hrow, hfits⟩
      refine ⟨row, ?_, hfits⟩
      have hkey := hunkeyed _ _ (h.indexed requestId request hrequest)
      rw [hrecords.reservations, if_neg hkey, hrow]
  · intro other call' hcall' hnone
    by_cases hother : other = client
    · rw [hother, hanswer] at hnone
      cases hnone
    · rw [hothers other hother] at hnone
      have hne : call'.requestId ≠ call.requestId :=
        fun hsame => hother (hown other client call' call hcall' hcall hsame)
      rw [hrecords.requests, if_neg hne]
      exact h.unanswered other call' hcall' hnone
  · intro other key requestId hfound
    by_cases hother : other = client
    · rw [hother, hanswer] at hfound
      obtain ⟨rfl, rfl⟩ := Prod.mk.inj (Option.some.inj hfound)
      rw [hrecords.requestKeys, if_pos rfl]
    · rw [hothers other hother] at hfound
      have hkey := h.answered other key requestId hfound
      rw [hrecords.requestKeys, if_neg (hunkeyed _ _ hkey), hkey]
  · intro eventId row hrow hprimary
    rw [hrecords.requests]
    split_ifs with hsame
    · exact Option.some_ne_none _
    · rcases hrecords.events.added eventId row hrow with hold | ⟨_, event, hevent, _, rfl⟩
      · exact h.primary eventId row hold hprimary
      · exact absurd (requestId_of_mem_events hevent) hsame
  · intro eventId eventId' row row' hrow hrow' hprimary hprimary' hids
    have hfree : ∀ eventId row, intakeEventAt rows eventId = some row → row.event.Primary →
        row.event.requestId ≠ call.requestId := by
      intro eventId row hold hprimary hsame
      exact h.primary eventId row hold hprimary (hsame ▸ hrecords.requestFree)
    rcases hrecords.events.added eventId row hrow with hold | ⟨_, event, hevent, hid, rfl⟩
    · rcases hrecords.events.added eventId' row' hrow' with
        hold' | ⟨_, event', hevent', _, rfl⟩
      · exact h.unique eventId eventId' row row' hold hold' hprimary hprimary' hids
      · exact absurd (hids.trans (requestId_of_mem_events hevent'))
          (hfree eventId row hold hprimary)
    · rcases hrecords.events.added eventId' row' hrow' with
        hold' | ⟨_, event', hevent', hid', rfl⟩
      · exact absurd (hids.symm.trans (requestId_of_mem_events hevent))
          (hfree eventId' row' hold' hprimary')
      · rw [← hid, ← hid', eq_of_primary hevent hprimary, eq_of_primary hevent' hprimary']

/-- Every commit keeps the ledger. -/
theorem commit [DecidableEq ι] (h : Ledger sha256 session state rows)
    (hown : OwnRequests session) {before after : Session} (hbefore : state client = before)
    (heffect : Effect sha256 service rows rows' before after) :
    Ledger sha256 session (Function.update state client after) rows' := by
  have hclient : (session client).client = before.client := by
    rw [← hbefore, h.client]
  cases heffect with
  | reserves call hprior hrows =>
      subst hrows
      apply (h.reserves hclient hprior).moves
      · rw [hbefore]
        rfl
      · exact Or.inl (by rw [hbefore]; rfl)
  | records call preflight reserved hrecords =>
      apply h.records hown hclient hrecords
      · intro other
        by_cases hother : other = client
        · rw [hother, Function.update_self, hclient]
          rfl
        · rw [Function.update_of_ne hother, h.client]
      · intro other hother
        rw [Function.update_of_ne hother]
      · rw [Function.update_self]
        rfl
  | clashes call preflight reserved happends hreserved hmine hclash =>
      exact (h.not_clash hclient (by rw [hbefore]; rfl) hreserved hmine hclash).elim
  | other before after hsame hmoved hanswer =>
      apply (h.same hsame).moves
      · rw [hbefore, hmoved]
      · rw [hbefore]
        rcases hanswer with hkept | ⟨hnone, key, requestId, hfound, hkey⟩
        · exact Or.inl hkept
        · exact Or.inr ⟨hnone, key, requestId, hfound, (hsame.requestKey key).trans hkey⟩

end Ledger

/-- What the requests, reservations and events of every key agree on, with the calls that
have returned. -/
structure AcceptsOnce {ι : Type} (state : ι → Session) (rows : IntakeRows) : Prop where
  oneRequest : ∀ requestId requestId' (row row' : IntakeRequestRow),
    rows.get (IntakeKey.request requestId) = some row →
      rows.get (IntakeKey.request requestId') = some row' →
        row.idempotencyKey = row'.idempotencyKey → requestId = requestId'
  requested : ∀ eventId row, intakeEventAt rows eventId = some row → row.event.Primary →
    rows.get (IntakeKey.request row.event.requestId) ≠ none
  oneEvent : ∀ eventId eventId' row row' (request request' : IntakeRequestRow),
    intakeEventAt rows eventId = some row → intakeEventAt rows eventId' = some row' →
      row.event.Primary → row'.event.Primary →
        rows.get (IntakeKey.request row.event.requestId) = some request →
          rows.get (IntakeKey.request row'.event.requestId) = some request' →
            request.idempotencyKey = request'.idempotencyKey → eventId = eventId'
  completed : ∀ key (row : IntakeReservationRow),
    rows.get (IntakeKey.reservation key) = some row →
      (row.completedAt ≠ none ↔ ∃ requestId, ∃ request : IntakeRequestRow,
        rows.get (IntakeKey.request requestId) = some request ∧ request.idempotencyKey = key)
  reserved : ∀ requestId (request : IntakeRequestRow),
    rows.get (IntakeKey.request requestId) = some request →
      ∃ row : IntakeReservationRow,
        rows.get (IntakeKey.reservation request.idempotencyKey) = some row ∧
          row.completedAt ≠ none ∧ row.requestId = requestId ∧
            row.requestHash = request.requestHash
  returned : ∀ client call result, state client = .submit call (.returned result) →
    ∃ request : IntakeRequestRow,
      rows.get (IntakeKey.request result.record.requestId) = some request ∧
        request.idempotencyKey = call.key
  sameRequest : ∀ client other call call' result result',
    state client = .submit call (.returned result) →
      state other = .submit call' (.returned result') → call.key = call'.key →
        result.record.requestId = result'.record.requestId

theorem Ledger.acceptsOnce {ι : Type} {sha256 : String → String} {session state : ι → Session}
    {rows : IntakeRows} (h : Ledger sha256 session state rows) : AcceptsOnce state rows := by
  have hone : ∀ requestId requestId' (row row' : IntakeRequestRow),
      rows.get (IntakeKey.request requestId) = some row →
        rows.get (IntakeKey.request requestId') = some row' →
          row.idempotencyKey = row'.idempotencyKey → requestId = requestId' := by
    intro requestId requestId' row row' hrow hrow' hkeys
    have hkey := h.indexed requestId row hrow
    rw [hkeys, h.indexed requestId' row' hrow'] at hkey
    exact (Option.some.inj hkey).symm
  have hanswer : ∀ client call result, state client = .submit call (.returned result) →
      rows.get (IntakeKey.requestKey call.key) = some result.record.requestId := by
    intro client call result hstate
    apply h.answered client
    rw [hstate]
    rfl
  constructor
  · exact hone
  · exact h.primary
  · intro eventId eventId' row row' request request' hrow hrow' hprimary hprimary' hrequest
      hrequest' hkeys
    apply h.unique eventId eventId' row row' hrow hrow' hprimary hprimary'
    exact hone _ _ request request' hrequest hrequest' hkeys
  · intro key row hrow
    constructor
    · intro hdone
      rcases h.completed key row hrow hdone with ⟨request, hrequest, hkey, _⟩
      exact ⟨row.requestId, request, hrequest, hkey⟩
    · rintro ⟨requestId, request, hrequest, rfl⟩
      rcases h.recorded requestId request hrequest with ⟨found, hfound, hdone, _⟩
      rwa [Option.some.inj (hrow.symm.trans hfound)]
  · exact h.recorded
  · intro client call result hstate
    exact h.keyed _ _ (hanswer client call result hstate)
  · intro client other call call' result result' hstate hstate' hkeys
    have hkey := hanswer client call result hstate
    rw [hkeys, hanswer other call' result' hstate'] at hkey
    exact (Option.some.inj hkey).symm

section Runs

variable {ι : Type} {sha256 : String → String} {service : PublicIntakeService}
  {session : ι → Session}

theorem answer_of_fresh {session : Session} (h : session.fresh) : session.answer = none := by
  cases session with
  | submit call stage =>
      obtain rfl : stage = .waiting := h
      rfl
  | dispatch call stage => rfl

theorem ledger_of_fresh (hfresh : ∀ client, (session client).fresh) :
    Ledger sha256 session session [] := by
  constructor
  · exact fun _ => rfl
  · intro key requestId hkey
    cases hkey
  · intro requestId row hrow
    cases hrow
  · intro key row hrow
    cases hrow
  · intro key row hrow
    cases hrow
  · intro requestId request hrequest
    cases hrequest
  · exact fun _ _ _ _ => rfl
  · intro client key requestId hfound
    rw [answer_of_fresh (hfresh client)] at hfound
    cases hfound
  · intro eventId row hrow
    cases hrow
  · intro eventId eventId' row row' hrow
    cases hrow

/-- An error changes neither the client nor its answer. -/
theorem recover_moves (before : Session) (error : Failure) :
    ((flow sha256 service).recover before error).client = before.client ∧
      ((flow sha256 service).recover before error).answer = before.answer := by
  cases before with
  | submit call stage => exact ⟨rfl, answer_recover⟩
  | dispatch call stage => exact ⟨rfl, rfl⟩

theorem ledger_of_run [DecidableEq ι] {locked : IntakeKey → Bool}
    {events : List (IntakeEvent ι)} {last : IntakeSys ι}
    (hfresh : ∀ client, (session client).fresh) (hown : OwnRequests session)
    (hrun : Run (flow sha256 service) (Sys.start ⟨locked, []⟩ session) events last) :
    Ledger sha256 session last.states last.world.rows := by
  apply (effects sha256 service).run_induction
    (fun world state _ => Ledger sha256 session state world.rows)
    (Certificate.Good.start _ _ fun _ => trivial) (ledger_of_fresh hfresh) _ _ _ _ hrun
  · intro world state events client after own _ hdoes h
    exact h.commit hown rfl hdoes
  · intro world state events client error _ h
    have hrecover := @recover_moves sha256 service (state client) error
    exact h.moves hrecover.1 (Or.inl hrecover.2)
  · intro world state events client action after env _ houtside h
    exact h.moves houtside.2.client (Or.inl houtside.2.answer)
  · exact fun _ h => h

/-- In every state that any number of calls and dispatchers reach, each key has one
request and one first event, its reservation is completed with the request, and every
call that has returned for the key has returned that request. -/
theorem accepted_once [DecidableEq ι] {locked : IntakeKey → Bool}
    {events : List (IntakeEvent ι)} {last : IntakeSys ι}
    (hfresh : ∀ client, (session client).fresh) (hown : OwnRequests session)
    (hrun : Run (flow sha256 service) (Sys.start ⟨locked, []⟩ session) events last) :
    AcceptsOnce last.states last.world.rows :=
  (ledger_of_run hfresh hown hrun).acceptsOnce

/-- A submission that is alone. -/
theorem accepted_once_sample : ∃ (events : List (IntakeEvent Unit)) (last : IntakeSys Unit),
    Run (flow sampleDigest tightService)
        (Sys.start ⟨fun _ => false, []⟩ fun _ => .submit sampleCall .waiting) events last ∧
      pendingCount last.world.rows = 1 ∧ AcceptsOnce last.states last.world.rows := by
  have hreserve : (reserve sampleDigest tightService sampleCall).execute (fun _ => false) [] [] =
      .ok (.reserved, reservedRows) := by
    with_unfolding_all rfl
  have hpassed : (admitCall sampleDigest tightService sampleCall).execute (fun _ => false)
      (reservedRows ++ []) [] = .ok (.assessed unaskedPreflight, admittedRows) := by
    with_unfolding_all rfl
  obtain ⟨recorded, hrecord, hcount⟩ : ∃ recorded,
      (record sampleDigest tightService sampleCall unaskedPreflight).execute (fun _ => false)
        (admittedRows ++ (reservedRows ++ [])) [] =
          .ok (.recorded (sampleCall.record sampleDigest unaskedPreflight), recorded) ∧
      pendingCount (recorded ++ (admittedRows ++ (reservedRows ++ []))) = 1 := by
    constructor
    · constructor
      · with_unfolding_all rfl
      · with_unfolding_all rfl
  have hrun := run_recorded hreserve hpassed hrecord
  have hfresh : ∀ client : Unit,
      ((fun _ => .submit sampleCall .waiting : Unit → Session) client).fresh := fun _ => rfl
  have hown : OwnRequests (fun _ : Unit => Session.submit sampleCall .waiting) :=
    fun _ _ _ _ _ _ _ => rfl
  exact ⟨_, _, hrun, hcount, accepted_once hfresh hown hrun⟩

end Runs

end PublicIntakeService

end ShemaPlatform
