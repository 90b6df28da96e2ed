/-
Any number of calls that save items, in every interleaving: an actor has one monitor and
one favorite of a company, and a call that loses a race to one leaves nothing behind.
-/
import ShemaPlatform.CallRun
import ShemaPlatform.RowChanges
import ShemaPlatform.SavedItemLedger

namespace ShemaPlatform

open Calendar ReadCommitted ReadCommitted.Prog

def SaveRequest.body (sha256 uuid5 : String → String) (request : SaveRequest) :
    SaveTx SaveAnswer := do
  let item ← request.call.save sha256 uuid5 request.kind
  return ⟨request.kind, item⟩

abbrev SaveSession := Session SaveRequest Failure SaveAnswer

/-- Calls, each one transaction. -/
def saveFlow (sha256 uuid5 : String → String) : Workflow Unit SaveRow Failure SaveSession Empty :=
  callFlow (SaveRequest.body sha256 uuid5) Failure.infrastructure fun _ _ => True

/-- The same call once more. -/
structure SaveCall.Retries (retry call : SaveCall) : Prop where
  identifierType : retry.identifierType = call.identifierType
  identifier : retry.identifier = call.identifier
  actorId : retry.actorId = call.actorId
  permissions : retry.permissions = call.permissions
  idempotencyKey : retry.idempotencyKey = call.idempotencyKey

/-- Every retry of a request gets this item. -/
def SaveRequest.RetriedWith (sha256 uuid5 : String → String) (request : SaveRequest)
    (item : SavedItem request.kind) (rows : SaveRows) : Prop :=
  ∀ retry : SaveCall, retry.Retries request.call →
    ∃ rows', (retry.save sha256 uuid5 request.kind).atomically () rows = .ok (item, rows')

section Retries

variable {sha256 uuid5 : String → String} {past : SaveRequest → Prop} {rows : SaveRows}
  {call retry : SaveCall} {kind : SavedKind} {normalized : String} {item : SavedItem kind}
  {itemId : String}

/-- The search among the items of an actor ends at the one of this identity. -/
theorem SavedLedger.found (h : SavedLedger sha256 uuid5 past rows)
    (hitem : rows.get (SaveKey.item kind itemId) = some item)
    (hidentity : item.identity = call.identity normalized) :
    ((SavedItemRepository.itemsOf kind call.actorId
      (call.reserving sha256 kind normalized ++ rows)).insertionSort
        SavedItem.latestFirst).find? (call.wants normalized) = some item := by
  have hseen : Rows.get (call.reserving sha256 kind normalized ++ rows)
      (SaveKey.item kind itemId) = some item :=
    (reserving_reserving.get (by simp) _).trans hitem
  cases hfound : ((SavedItemRepository.itemsOf kind call.actorId
      (call.reserving sha256 kind normalized ++ rows)).insertionSort
        SavedItem.latestFirst).find? (call.wants normalized) with
  | none =>
      have hmem := mem_itemsOf.mpr ⟨⟨itemId, hseen⟩, congrArg SavedIdentity.actorId hidentity⟩
      have hwants := List.find?_eq_none.mp hfound item ((List.mem_insertionSort _).mpr hmem)
      rw [SaveCall.wants, hidentity] at hwants
      simp [SaveCall.identity] at hwants
  | some found =>
      obtain ⟨⟨foundId, hstored⟩, hsame⟩ := identity_of_found hfound
      rw [reserving_reserving.get (by simp)] at hstored
      rw [(h.unique hstored hitem (hsame.trans hidentity.symm)).2]

theorem blank_itemId : {kind : SavedKind} → (item : SavedItem kind) →
    PyText.blank item.itemId = false
  | .monitor, item => item.monitor.valid.1
  | .favorite, item => item.valid.1

/-- A call for an item that is there answers with it, unless its key is bound to another
request. -/
theorem SavedLedger.answers_again (h : SavedLedger sha256 uuid5 past rows)
    (hauthorized : call.authorize kind = .ok ())
    (hnormalized : kind.normalize call.identifierType call.identifier = .ok normalized)
    (htold : ∀ request, past request → request.Told sha256 ⟨kind, call⟩)
    (hitem : rows.get (SaveKey.item kind itemId) = some item)
    (hidentity : item.identity = call.identity normalized)
    (hbound : ∀ record : IdempotencyRecord,
      rows.get (SaveKey.idempotencyKey (call.reservationKey kind)) = some record →
        record.requestHash = sha256 (call.requestText kind normalized)) :
    ∃ rows', (call.save sha256 uuid5 kind).atomically () rows = .ok (item, rows') := by
  cases hrecord : rows.get (SaveKey.idempotencyKey (call.reservationKey kind)) with
  | none =>
      have hrun : (call.save sha256 uuid5 kind).execute () rows [] = _ :=
        execute_save_free hauthorized hnormalized hrecord
      rw [execute_found (h.found hitem hidentity) (blank_itemId item)] at hrun
      exact ⟨_, atomically_eq_ok.mpr ⟨_, hrun, rfl⟩⟩
  | some record =>
      have hhash := hbound record hrecord
      obtain ⟨stored, hstored, hsame⟩ := h.bound htold hnormalized hrecord hhash
      rw [(h.unique hstored hitem (hsame.trans hidentity.symm)).2] at hstored
      have hrun : (call.save sha256 uuid5 kind).execute () rows [] = _ :=
        execute_save_bound hauthorized hnormalized hrecord (h.done _ _ hrecord) hstored
      rw [if_pos hhash] at hrun
      exact ⟨_, atomically_eq_ok.mpr ⟨_, hrun, rfl⟩⟩

/-- So does the retry of a call. -/
theorem SavedLedger.answers_retry (h : SavedLedger sha256 uuid5 past rows) (hretry : retry.Retries call)
    (hauthorized : call.authorize kind = .ok ())
    (hnormalized : kind.normalize call.identifierType call.identifier = .ok normalized)
    (htold : ∀ request, past request → request.Told sha256 ⟨kind, call⟩)
    (hitem : rows.get (SaveKey.item kind itemId) = some item)
    (hidentity : item.identity = call.identity normalized)
    (hbound : ∀ record : IdempotencyRecord,
      rows.get (SaveKey.idempotencyKey (call.reservationKey kind)) = some record →
        record.requestHash = sha256 (call.requestText kind normalized)) :
    ∃ rows', (retry.save sha256 uuid5 kind).atomically () rows = .ok (item, rows') := by
  obtain ⟨htype, hidentifier, hactor, hpermissions, hkey⟩ := hretry
  apply h.answers_again
  · rw [SaveCall.authorize, hactor, hpermissions]
    exact hauthorized
  · rw [htype, hidentifier]
    exact hnormalized
  · intro request hrequest first second hfirst hsecond hhash
    rw [SaveRequest.normalized, htype, hidentifier] at hsecond
    rw [SaveRequest.text, SaveRequest.text, SaveCall.requestText, SaveCall.requestText, hactor,
      htype] at hhash
    have htext := htold request hrequest first second hfirst hsecond hhash
    rw [SaveRequest.text, SaveRequest.text, SaveCall.requestText, SaveCall.requestText, hactor,
      htype]
    exact htext
  · exact hitem
  · rw [SaveCall.identity, hactor, htype]
    exact hidentity
  · rw [SaveCall.reservationKey, SaveCall.requestText, hactor, hkey, htype]
    exact hbound

end Retries

/-- Rows stay as they are, and orderly. -/
def saveEvolution : Evolution Unit SaveRow :=
  (writeOnce Unit SaveRow).keeping fun world => Orderly world.rows

theorem finer_saveEvolution (a b : SaveWorld) (h : saveEvolution.rel a b) :
    (writeOnce Unit SaveRow).rel a b := h.1

/-- What a call has done where it commits. -/
def Returns (sha256 uuid5 : String → String) (request : SaveRequest) (answer : SaveAnswer)
    (own : SaveRows) (world : SaveWorld) : Prop :=
  ∃ normalized, request.normalized = .ok normalized ∧
    ∃ item : SavedItem request.kind, answer = ⟨request.kind, item⟩ ∧
      Saved sha256 uuid5 request.call request.kind normalized item world.rows
        (own ++ world.rows)

/-- The rule of the calls. -/
def savingRule (sha256 uuid5 : String → String) :
    CallRule (SaveRequest.body sha256 uuid5) (fun _ _ => True) saveEvolution where
  inv world := Orderly world.rows
  admits _ := True
  effect := Returns sha256 uuid5
  stable := by
    intro world world' hrel hinv
    exact hrel.2.mp hinv
  body_ok := by
    intro request world _ hinv
    rw [SaveRequest.body, atCommit_bind]
    apply atCommit_of_finer finer_saveEvolution
    apply atCommit_mono _ (atCommit_save hinv.done)
    rintro item own ⟨normalized, hnormalized, hsaved⟩
    exact ⟨normalized, hnormalized, item, rfl, hsaved⟩
  commit_ok := by
    rintro request answer own world _ ⟨normalized, _, item, _, hsaved⟩ hinv
    constructor
    · exact hsaved.keeps
    · exact ⟨hsaved.orderly, fun _ => hinv⟩
  drift_ok _ := saveEvolution.refl _

abbrev SaveEvent (ι : Type) := Event ι SaveRow Failure SaveSession Empty

/-- A client has been answered. -/
def Answered {ι : Type} (events : List (SaveEvent ι)) (client : ι) (request : SaveRequest)
    (answer : SaveAnswer) : Prop :=
  ∃ before own, .committed client before (.returned request answer) own ∈ events

/-- Where the clients and the tables stand in a run. -/
structure Settled {ι : Type} (sha256 uuid5 : String → String) (requests : ι → SaveRequest)
    (world : SaveWorld) (state : ι → SaveSession) (events : List (SaveEvent ι)) : Prop where
  calls : ∀ client, (state client).call = requests client
  once : ∀ client request answer, Answered events client request answer →
    request = requests client ∧ ∀ waiting, state client ≠ .waiting waiting
  ledger : SavedLedger sha256 uuid5
    (fun request => ∃ client answer, Answered events client request answer) world.rows
  answers : ∀ client request answer, Answered events client request answer →
    ∃ normalized, request.normalized = .ok normalized ∧
      ∃ item : SavedItem request.kind, answer = ⟨request.kind, item⟩ ∧
        item.identity = request.call.identity normalized ∧
        world.rows.get (SaveKey.item request.kind item.itemId) = some item

section Runs

variable {ι : Type} {sha256 uuid5 : String → String} {requests : ι → SaveRequest}
  {world : SaveWorld} {state : ι → SaveSession} {events : List (SaveEvent ι)} {client : ι}
  {request : SaveRequest} {answer : SaveAnswer} {own : SaveRows}

theorem answered_committed {before : SaveSession} {other : ι} {request' : SaveRequest}
    {answer' : SaveAnswer} :
    Answered (events ++ [.committed client before (.returned request answer) own]) other
        request' answer' ↔
      Answered events other request' answer' ∨
        other = client ∧ request' = request ∧ answer' = answer := by
  simp only [Answered, List.mem_append, List.mem_singleton, Event.committed.injEq,
    Session.returned.injEq]
  constructor
  · rintro ⟨before', own', hmem | ⟨hclient, _, ⟨hrequest, hanswer⟩, _⟩⟩
    · exact Or.inl ⟨before', own', hmem⟩
    · exact Or.inr ⟨hclient, hrequest, hanswer⟩
  · rintro (⟨before', own', hmem⟩ | ⟨hclient, hrequest, hanswer⟩)
    · exact ⟨before', own', Or.inl hmem⟩
    · exact ⟨before, own, Or.inr ⟨hclient, rfl, ⟨hrequest, hanswer⟩, rfl⟩⟩

theorem answered_rolledBack {before : SaveSession} {error : Failure} {other : ι}
    {request' : SaveRequest} {answer' : SaveAnswer} :
    Answered (events ++ [.rolledBack client before error]) other request' answer' ↔
      Answered events other request' answer' := by
  simp [Answered]

theorem Settled.first :
    Settled sha256 uuid5 requests ⟨(), []⟩ (fun client => .waiting (requests client)) [] where
  calls _ := rfl
  once _ _ _ h := by simp [Answered] at h
  ledger := SavedLedger.nil
  answers _ _ _ h := by simp [Answered] at h

theorem good_ofCalls (requests : ι → SaveRequest) :
    ((savingRule sha256 uuid5).certificate Failure.infrastructure).Good
      (Sys.ofCalls ⟨(), []⟩ requests : Sys ι Unit SaveRow Failure SaveSession) := by
  apply Certificate.Good.start
  intro client
  constructor
  · exact (@SavedLedger.nil sha256 uuid5 fun _ => False).toOrderly
  · trivial

variable [DecidableEq ι] {last : Sys ι Unit SaveRow Failure SaveSession}

theorem Settled.commit (h : Settled sha256 uuid5 requests world state events)
    (hunique : ∀ client other,
      (requests client).call.itemId = (requests other).call.itemId → client = other)
    (htold : ∀ client other, (requests client).Told sha256 (requests other))
    (hwaiting : state client = .waiting request)
    (hreturns : Returns sha256 uuid5 request answer own world) :
    Settled sha256 uuid5 requests (world.commit own)
      (Function.update state client (.returned request answer))
      (events ++ [.committed client (.waiting request) (.returned request answer) own]) := by
  obtain ⟨normalized, hnormalized, item, rfl, hsaved⟩ := hreturns
  have hrequest : request = requests client := by
    rw [← h.calls client, hwaiting]
    rfl
  -- a client that waits has not been answered before
  have hother : ∀ other request' answer', Answered events other request' answer' →
      other ≠ client := by
    rintro other request' answer' hanswered rfl
    exact (h.once other request' answer' hanswered).2 request hwaiting
  have hpast : ∀ request', (∃ other answer', Answered events other request' answer') →
      request'.call.itemId ≠ request.call.itemId ∧ request'.Told sha256 request := by
    rintro request' ⟨other, answer', hanswered⟩
    have hne := hother other request' answer' hanswered
    rw [(h.once other request' answer' hanswered).1, hrequest]
    exact ⟨fun hsame => hne (hunique other client hsame), htold other client⟩
  obtain ⟨hitem, hidentity⟩ := h.ledger.answer (fun request' hmem => (hpast request' hmem).1)
    (fun request' hmem => (hpast request' hmem).2) hnormalized hsaved
  constructor
  · intro other
    by_cases hsame : other = client
    · subst hsame
      rw [Function.update_self]
      exact hrequest
    · rw [Function.update_of_ne hsame]
      exact h.calls other
  · intro other request' answer' hanswered
    rcases answered_committed.mp hanswered with hbefore | ⟨rfl, rfl, _⟩
    · rw [Function.update_of_ne (hother other request' answer' hbefore)]
      exact h.once other request' answer' hbefore
    · rw [Function.update_self]
      exact ⟨hrequest, fun waiting hsame => by cases hsame⟩
  · apply h.ledger.saved _ _ (fun request' hmem => (hpast request' hmem).1) hnormalized hsaved
    · rintro request' ⟨other, answer', hanswered⟩
      exact ⟨other, answer', answered_committed.mpr (Or.inl hanswered)⟩
    · exact ⟨client, _, answered_committed.mpr (Or.inr ⟨rfl, rfl, rfl⟩)⟩
  · intro other request' answer' hanswered
    rcases answered_committed.mp hanswered with hbefore | ⟨rfl, rfl, rfl⟩
    · obtain ⟨normalized', hnormalized', item', hanswer', hidentity', hitem'⟩ :=
        h.answers other request' answer' hbefore
      exact ⟨normalized', hnormalized', item', hanswer', hidentity',
        hsaved.keeps _ _ hitem'⟩
    · exact ⟨normalized, hnormalized, item, rfl, hidentity, hitem⟩

theorem Settled.rollback (h : Settled sha256 uuid5 requests world state events)
    (error : Failure) :
    Settled sha256 uuid5 requests world
      (Function.update state client (.raised (state client).call error))
      (events ++ [.rolledBack client (state client) error]) := by
  constructor
  · intro other
    by_cases hsame : other = client
    · subst hsame
      rw [Function.update_self]
      exact h.calls other
    · rw [Function.update_of_ne hsame]
      exact h.calls other
  · intro other request' answer' hanswered
    obtain ⟨hrequest, hwaits⟩ := h.once other request' answer'
      (answered_rolledBack.mp hanswered)
    refine ⟨hrequest, fun waiting => ?_⟩
    by_cases hsame : other = client
    · subst hsame
      rw [Function.update_self]
      intro hraised
      cases hraised
    · rw [Function.update_of_ne hsame]
      exact hwaits waiting
  · simp only [answered_rolledBack]
    exact h.ledger
  · intro other request' answer' hanswered
    exact h.answers other request' answer' (answered_rolledBack.mp hanswered)

/-- Every run settles its clients and tables. -/
theorem settled_of_run
    (hunique : ∀ client other,
      (requests client).call.itemId = (requests other).call.itemId → client = other)
    (htold : ∀ client other, (requests client).Told sha256 (requests other))
    (hrun : Run (saveFlow sha256 uuid5) (Sys.ofCalls ⟨(), []⟩ requests) events last) :
    Settled sha256 uuid5 requests last.world last.states events := by
  apply ((savingRule sha256 uuid5).certificate Failure.infrastructure).run_induction
    (Settled sha256 uuid5 requests) (good_ofCalls requests) Settled.first
  · rintro world state events client _ own _ ⟨request, answer, hbefore, rfl, hreturns⟩ hholds
    rw [hbefore]
    exact hholds.commit hunique htold hbefore hreturns
  · intro world state events client error _ hholds
    exact hholds.rollback error
  · intro world state events client action
    cases action
  · exact fun _ hholds => hholds
  · exact hrun

/-- What a transaction has seen that raises the error of a lost race. -/
def Lost (session : SaveSession) (error : Failure) (_ : SaveRows) (world : SaveWorld) : Prop :=
  error = session.call.kind.lost →
    Loses session.call.call session.call.kind world.rows

omit [DecidableEq ι] in
theorem warned_code {session : SaveSession} {p : SaveTx SaveSession}
    (hcode : (saveFlow sha256 uuid5).code session = some p)
    (hknows : ((savingRule sha256 uuid5).certificate Failure.infrastructure).knows session
      world) :
    p.atRaise saveEvolution (Lost session) [] world := by
  cases session with
  | waiting request =>
      obtain rfl := Option.some.inj hcode
      apply atRaise_of_finer finer_saveEvolution
      rw [callBody, SaveRequest.body, atRaise_bind, atRaise_bind]
      have hsave : (request.call.save sha256 uuid5 request.kind).atRaise
          (writeOnce Unit SaveRow) (Lost (.waiting request)) [] world :=
        atRaise_save hknows.1.done
      exact ⟨⟨hsave, atCommit_of_forall fun _ _ => trivial⟩,
        atCommit_of_forall fun _ _ => trivial⟩
  | returned request answer => cases hcode
  | raised request error => cases hcode

/-- A call that raises has lost its race, or raises something else. -/
theorem loses_of_rolledBack
    (hrun : Run (saveFlow sha256 uuid5) (Sys.ofCalls ⟨(), []⟩ requests) events last)
    {sys' : Sys ι Unit SaveRow Failure SaveSession} {session : SaveSession} {error : Failure}
    (hstep : Step (saveFlow sha256 uuid5) last [.rolledBack client session error] sys')
    (hlost : error = session.call.kind.lost) :
    Loses session.call.call session.call.kind last.world.rows := by
  have hwarned := warned_of_run (good_ofCalls requests) warned_code (fun _ => trivial) hrun client
  cases hstep with
  | raised _ _ _ _ held hphase =>
      rw [hphase] at hwarned
      exact hwarned last.world (Meanwhile.refl _ _ _) hlost
  | abort _ _ _ rest own held hphase haborts =>
      rw [hlost] at haborts
      cases hkind : session.call.kind <;> rw [hkind] at haborts <;> cases haborts

omit [DecidableEq ι] in
/-- The retry of a call that finds its item. -/
theorem Settled.retry (h : Settled sha256 uuid5 requests world state events)
    (htold : ∀ client other, (requests client).Told sha256 (requests other))
    {normalized itemId : String} {item : SavedItem (requests client).kind}
    (hauthorized : (requests client).call.authorize (requests client).kind = .ok ())
    (hnormalized : (requests client).normalized = .ok normalized)
    (hitem : world.rows.get (SaveKey.item (requests client).kind itemId) = some item)
    (hidentity : item.identity = (requests client).call.identity normalized)
    (hbound : ∀ record : IdempotencyRecord,
      world.rows.get (SaveKey.idempotencyKey (requests client).key) = some record →
        record.requestHash = sha256 ((requests client).text normalized)) :
    (requests client).RetriedWith sha256 uuid5 item world.rows := by
  intro retry hretry
  apply h.ledger.answers_retry hretry hauthorized hnormalized _ hitem hidentity hbound
  rintro request ⟨other, answer, hanswered⟩
  rw [(h.once other request answer hanswered).1]
  exact htold other client

theorem call_of_rolledBack
    {session : SaveSession} {error : Failure} {sys' : Sys ι Unit SaveRow Failure SaveSession}
    (h : ∀ client, (last.states client).call = requests client)
    (hstep : Step (saveFlow sha256 uuid5) last [.rolledBack client session error] sys') :
    session.call = requests client := by
  rw [← h client, Sys.states]
  cases hstep with
  | raised _ _ _ _ held hphase => rw [hphase, Phase.state_busy]
  | abort _ _ _ rest own held hphase haborts => rw [hphase, Phase.state_busy]

end Runs

/-- In every run an actor has at most one monitor and one favorite of a company, each with
one event and one audit record.  A call that is answered gets the item it asks for.  A call
that is not leaves everything as it is, and if another one has got ahead of it, its retry
gets the item of that one as long as its key is of no other request. -/
theorem one_item_per_company {ι : Type} [DecidableEq ι] (sha256 uuid5 : String → String)
    (requests : ι → SaveRequest)
    (hunique : ∀ client other,
      (requests client).call.itemId = (requests other).call.itemId → client = other)
    (htold : ∀ client other, (requests client).Told sha256 (requests other))
    {events : List (SaveEvent ι)} {last : Sys ι Unit SaveRow Failure SaveSession}
    (hrun : Run (saveFlow sha256 uuid5) (Sys.ofCalls ⟨(), []⟩ requests) events last) :
    (∀ (kind : SavedKind) itemId itemId' (item item' : SavedItem kind),
      last.world.rows.get (SaveKey.item kind itemId) = some item →
      last.world.rows.get (SaveKey.item kind itemId') = some item' →
        item.identity = item'.identity → itemId = itemId') ∧
    (∀ (kind : SavedKind) itemId (item : SavedItem kind),
      last.world.rows.get (SaveKey.item kind itemId) = some item →
        (∃! eventId, ∃ event : OutboxEvent,
          last.world.rows.get (SaveKey.outboxEvent eventId) = some event ∧
            event.Announces kind itemId) ∧
        ∃! auditId, ∃ record : AuditRecord,
          last.world.rows.get (SaveKey.auditLog auditId) = some record ∧
            record.Attests kind itemId) ∧
    (∀ client request answer, Answered events client request answer →
      request = requests client ∧
      ∃ normalized, request.normalized = .ok normalized ∧
        ∃ item : SavedItem request.kind, answer = ⟨request.kind, item⟩ ∧
          item.identity = request.call.identity normalized ∧
          last.world.rows.get (SaveKey.item request.kind item.itemId) = some item) ∧
    ∀ client session error sys',
      Step (saveFlow sha256 uuid5) last [.rolledBack client session error] sys' →
        sys'.world = last.world ∧
        (error = (requests client).kind.lost →
          last.world.rows.get (SaveKey.idempotencyKey (requests client).key) = none ∧
          ∃ normalized, (requests client).normalized = .ok normalized ∧
          ∃ item : SavedItem (requests client).kind,
            last.world.rows.get (SaveKey.item (requests client).kind item.itemId) =
              some item ∧
            item.identity = (requests client).call.identity normalized ∧
            (requests client).RetriedWith sha256 uuid5 item sys'.world.rows ∧
            ∀ events' later, Run (saveFlow sha256 uuid5) sys' events' later →
              (∀ record : IdempotencyRecord,
                later.world.rows.get (SaveKey.idempotencyKey (requests client).key) =
                  some record →
                record.requestHash = sha256 ((requests client).text normalized)) →
              (requests client).RetriedWith sha256 uuid5 item later.world.rows) := by
  have hsettled := settled_of_run hunique htold hrun
  have hledger := hsettled.ledger
  constructor
  · intro kind itemId itemId' item item' hitem hitem' hsame
    exact (hledger.unique hitem hitem' hsame).1
  constructor
  · intro kind itemId item hitem
    constructor
    · obtain ⟨event, hevent, hannounces⟩ := hledger.announced kind itemId item hitem
      refine ⟨_, ⟨event, hevent, hannounces⟩, ?_⟩
      rintro eventId ⟨event', hevent', hannounces'⟩
      obtain ⟨kind', hname, hkind, _⟩ := hledger.events eventId event' hevent'
      rw [hname, label_inj (hkind.1.symm.trans hannounces'.1), hannounces'.2.2]
    · obtain ⟨auditId, record, hrecord, hattests, hone⟩ :=
        hledger.attested kind itemId item hitem
      refine ⟨auditId, ⟨record, hrecord, hattests⟩, ?_⟩
      rintro other ⟨record', hrecord', hattests'⟩
      exact hone other record' hrecord' hattests'
  constructor
  · intro client request answer hanswered
    exact ⟨(hsettled.once client request answer hanswered).1,
      hsettled.answers client request answer hanswered⟩
  · intro client session error sys' hstep
    have hworld := hstep.world_of_rolledBack
    have hcall := call_of_rolledBack hsettled.calls hstep
    constructor
    · exact hworld
    intro hlost
    obtain ⟨hauthorized, hfree, normalized, hnormalized, htaken⟩ :=
      loses_of_rolledBack hrun hstep (by rw [hcall]; exact hlost)
    rw [hcall] at hauthorized hfree hnormalized htaken
    obtain ⟨itemId, hindex⟩ := Option.ne_none_iff_exists'.mp htaken
    obtain ⟨item, hitem, hidentity⟩ := hledger.identities _ _ itemId hindex
    obtain rfl := (hledger.items _ itemId item hitem).1
    refine ⟨hfree, normalized, hnormalized, item, hitem, hidentity, ?_, ?_⟩
    · rw [hworld]
      apply hsettled.retry htold hauthorized hnormalized hitem hidentity
      intro record hrecord
      cases hfree.symm.trans hrecord
    · intro events' later hlater hbound
      have hrun' := (hrun.step hstep).trans hlater
      have hevolved := ((good_ofCalls requests).run (hrun.step hstep)).evolves_run hlater
      have hkept := finer_saveEvolution _ _ hevolved _ _ (hworld ▸ hitem)
      exact (settled_of_run hunique htold hrun').retry htold hauthorized hnormalized hkept
        hidentity hbound

theorem favorite_uuid : PyText.blank "f1" = false ∧
    PyText.startsWith "f1" "pending:" = false ∧ PyText.blank "a1" = false := by decide

theorem favorite_valid : PyText.blank "f1" = false ∧ PyText.blank "operator" = false ∧
    PyText.isdigit "7707083893" = true := by decide

/-- An actor saves a favorite. -/
def favoriteRequest : SaveRequest where
  kind := .favorite
  call :=
    { identifierType := .inn
      identifier := " 7707083893 "
      actorId := "operator"
      permissions := [.counterpartyFavoriteManage]
      idempotencyKey := "favorite-1"
      correlationId := "correlation"
      now := 0
      itemId := "f1"
      auditId := "a1"
      uuid := favorite_uuid }

def savedFavorite : CounterpartyFavorite where
  favoriteId := "f1"
  actorId := "operator"
  identifierType := .inn
  identifier := "7707083893"
  createdAt := 0
  valid := favorite_valid

theorem execute_favoriteRequest : ∃ own,
    (SaveRequest.body id id favoriteRequest).execute () [] [] =
      .ok (⟨.favorite, savedFavorite⟩, own) := by
  have hnormalized : SavedKind.favorite.normalize .inn " 7707083893 " = .ok "7707083893" := by
    decide
  have hsave : (favoriteRequest.call.save id id .favorite).execute () [] [] = _ :=
    execute_save_free (by decide) hnormalized rfl
  obtain ⟨own, hown⟩ : ∃ own, (favoriteRequest.call.findOrCreate id id .favorite
      "7707083893").execute () [] (favoriteRequest.call.reserving id .favorite "7707083893") =
        .ok (savedFavorite, own) := by
    apply execute_created
    · rfl
    · rfl
    · rfl
    · rfl
    · rfl
    · rfl
  rw [hown] at hsave
  exact ⟨own, execute_bind_eq_ok.mpr ⟨savedFavorite, own, hsave, rfl⟩⟩

theorem one_item_per_company_sample : ∃ events last,
    Run (saveFlow id id) (Sys.ofCalls ⟨(), []⟩ fun _ : Unit => favoriteRequest) events last ∧
      Answered events () favoriteRequest ⟨.favorite, savedFavorite⟩ ∧
        ∃! auditId, ∃ record : AuditRecord,
          last.world.rows.get (SaveKey.auditLog auditId) = some record ∧
            record.Attests .favorite "f1" := by
  obtain ⟨own, hown⟩ := execute_favoriteRequest
  have hcode : (saveFlow id id).code (.waiting favoriteRequest) =
      some (callBody (SaveRequest.body id id) favoriteRequest) := rfl
  have hbody : (callBody (SaveRequest.body id id) favoriteRequest :
      SaveTx SaveSession).execute () [] [] =
        .ok (.returned favoriteRequest ⟨.favorite, savedFavorite⟩, own) := by
    rw [callBody, execute_bind, hown]
    rfl
  have hrun : Run (saveFlow id id) (Sys.ofCalls ⟨(), []⟩ fun _ : Unit => favoriteRequest) _ _ :=
    run_transaction_start () hcode hbody
  have hanswered : Answered [.committed () (.waiting favoriteRequest)
      (.returned favoriteRequest ⟨.favorite, savedFavorite⟩) own] () favoriteRequest
        ⟨.favorite, savedFavorite⟩ := ⟨_, _, List.mem_singleton_self _⟩
  obtain ⟨_, hattested, hanswers, _⟩ := one_item_per_company id id (fun _ => favoriteRequest)
    (fun _ _ _ => rfl) (fun _ _ _ _ _ _ hsame => hsame) hrun
  obtain ⟨_, _, _, item, hitem, _, hstored⟩ := hanswers () _ _ hanswered
  cases hitem
  exact ⟨_, _, hrun, hanswered, (hattested .favorite "f1" _ hstored).2⟩

end ShemaPlatform
