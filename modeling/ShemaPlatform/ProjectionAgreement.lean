/-
The operator is notified of a request once, and of what its outbox tells, whatever
order projections run in and however often.
-/
import ShemaPlatform.IntakeBacklog
import ShemaPlatform.RequestProjections

namespace ShemaPlatform

open Calendar ReadCommitted ReadCommitted.Prog PublicIntakeRepository PublicIntakeService

namespace PublicIntakeService

variable {sha256 : String → String} {service : PublicIntakeService} {session : Session}
  {call : Submission} {record : PublicIntakeRecord}

theorem Session.client_of_made (h : session.made = some (call, record)) :
    session.client = .inl call := by
  unfold Session.made at h
  split at h
  · exact congrArg Sum.inl (Prod.mk.inj (Option.some.inj h)).1
  · exact congrArg Sum.inl (Prod.mk.inj (Option.some.inj h)).1
  · split at h
    · cases h
    · exact congrArg Sum.inl (Prod.mk.inj (Option.some.inj h)).1
  · cases h

theorem Session.carried_of_made (h : session.made = some (call, record)) :
    session.carried = some record.preflight := by
  unfold Session.carried
  split
  · cases h
  · cases h
  · rw [h]
    rfl

/-- What is made stays made. -/
theorem Session.Makes.stays {before after : Session} (h : before.Makes sha256 after)
    (hmade : before.made = some (call, record)) : after.made = some (call, record) := by
  rcases h with hsame | ⟨_, _, rfl, _⟩
  · exact hsame.trans hmade
  · cases hmade

/-- A dispatcher in a transaction with a record in hand marks it. -/
theorem Session.marks_of_inHand (hopened : (flow sha256 service).code session ≠ none)
    (h : session.inHand.map Prod.fst = some record) : session.marks = some record := by
  unfold Session.inHand at h
  split at h
  · exact absurd rfl hopened
  · exact h
  · cases h

/-- A session that recovers marks nothing. -/
theorem Session.marks_recover {error : Failure} :
    ((flow sha256 service).recover session error).marks = none := by
  cases session with
  | submit call stage => cases stage <;> rfl
  | dispatch call stage => cases stage <;> rfl

theorem Session.marks_of_fresh (h : session.fresh) : session.marks = none := by
  cases session with
  | submit call stage => rfl
  | dispatch call stage =>
      obtain rfl : stage = .claiming := h
      rfl

/-- An event is published when its request is marked, or when it notifies nobody. -/
theorem Session.permit_published {eventId : String}
    (h : (session.permit sha256).published = some eventId) :
    (∃ record, session.inHand = some (record, eventId) ∧ session.marks = some record) ∨
      ∃ event ∈ session.undelivered, event.eventId = eventId ∧
        event.notifyOperator = false := by
  unfold Session.permit at h
  split at h
  · cases h
  · cases h
  · split at h
    · cases h
    · rename_i event rest hnotify
      right
      exact ⟨event, List.mem_cons_self, Option.some.inj h, Bool.eq_false_iff.mpr hnotify⟩
  · obtain rfl := Option.some.inj h
    exact Or.inl ⟨_, rfl, rfl⟩
  · cases h

end PublicIntakeService

/-- The events of a request name it, and notify the operator of accepted ones. -/
theorem Submission.of_mem_events {call : Submission} {preflight : CounterpartyPreflightSnapshot}
    {event : PublicIntakeOutboxEvent} (h : event ∈ call.events preflight) :
    event.requestId = call.requestId ∧ event.notifyOperator = call.notifyOperator := by
  rcases List.mem_cons.mp h with rfl | hsecond
  · exact ⟨rfl, rfl⟩
  · rw [Option.mem_toList, Submission.secondEvent] at hsecond
    split at hsecond
    · rename_i hnotify
      obtain ⟨about, _, rfl⟩ := Option.map_eq_some_iff.mp hsecond
      exact ⟨rfl, hnotify.symm⟩
    · cases hsecond

namespace RequestProjection

/-- The operator has been notified of all that a request is worth. -/
def Noticed (tables : Tables) (record : PublicIntakeRecord) : Prop :=
  ∀ eventType ∈ noticeTypes record, ∃ row ∈ tables.notifications,
    row.requestId = record.requestId ∧ row.eventType = eventType

/-- The notifications of a request that are of this type. -/
def Tables.notified (tables : Tables) (requestId eventType : String) :
    List OperatorNotificationRow :=
  tables.notifications.filter fun row => row.requestId == requestId && row.eventType == eventType

/-- The context rows of a request. -/
def Tables.contextsOf (tables : Tables) (requestId : String) : List PublicRequestContextRow :=
  tables.contexts.filter fun row => row.requestId == requestId

theorem Tables.mem_notified {tables : Tables} {requestId eventType : String}
    {row : OperatorNotificationRow} : row ∈ tables.notified requestId eventType ↔
      row ∈ tables.notifications ∧ row.requestId = requestId ∧ row.eventType = eventType := by
  rw [Tables.notified, List.mem_filter, Bool.and_eq_true, beq_iff_eq, beq_iff_eq]

theorem Noticed.notified {tables : Tables} {record : PublicIntakeRecord} {eventType : String}
    (h : Noticed tables record) (htype : eventType ∈ noticeTypes record) :
    tables.notified record.requestId eventType ≠ [] := by
  obtain ⟨row, hrow, hsame⟩ := h eventType htype
  exact List.ne_nil_of_mem (Tables.mem_notified.mpr ⟨hrow, hsame⟩)

/-- What is kept of rows with keys of their own has one row, if all kept rows have the
same key. -/
theorem length_filter_le_one {α κ : Type} {rows : List α} {key : α → κ} {kept : α → Bool}
    (hnodup : (rows.map key).Nodup)
    (hsame : ∀ row ∈ rows, ∀ other ∈ rows, kept row = true → kept other = true →
      key row = key other) : (rows.filter kept).length ≤ 1 := by
  have hsub := hnodup.sublist ((@List.filter_sublist _ kept rows).map key)
  have hmem : ∀ row ∈ rows.filter kept, row ∈ rows ∧ kept row = true :=
    fun row hrow => List.mem_filter.mp hrow
  rcases hfilter : rows.filter kept with _ | ⟨first, _ | ⟨second, rest⟩⟩
  · exact Nat.zero_le 1
  · exact Nat.le_refl 1
  · rw [hfilter] at hsub hmem
    have hfirst := hmem first List.mem_cons_self
    have hsecond := hmem second (List.mem_cons_of_mem _ List.mem_cons_self)
    have hkeys := hsame first hfirst.1 second hsecond.1 hfirst.2 hsecond.2
    rw [List.map_cons, List.map_cons, List.nodup_cons] at hsub
    exact absurd (hkeys ▸ List.mem_cons_self) hsub.1

/-- A notification that says what it is by its id. -/
structure Addressed (row : OperatorNotificationRow) : Prop where
  plain : ':' ∉ row.requestId.toList
  eventType : row.eventType ∈ eventTypes
  eventId : row.eventId = noticeId row.requestId row.eventType

section Project

variable {tables : Tables} {record other : PublicIntakeRecord} {now : Instant}
  {row : OperatorNotificationRow}

theorem mem_project (h : row ∈ (project record now tables).notifications) :
    row ∈ tables.notifications ∨ row ∈ notices record now :=
  mem_foldl_insertNotice h

theorem addressed_of_mem_notices (hplain : ':' ∉ record.requestId.toList)
    (h : row ∈ notices record now) : Addressed row := by
  obtain ⟨hrequest, htype, hid⟩ := id_of_mem_notices h
  rw [← hrequest] at hplain hid
  exact ⟨hplain, htype, hid⟩

theorem Noticed.project (h : Noticed tables other) :
    Noticed (project record now tables) other := by
  intro eventType htype
  obtain ⟨row, hrow, hsame⟩ := h eventType htype
  exact ⟨row, foldl_insertNotice_keeps hrow, hsame⟩

/-- A projection notifies of all that its request is worth, since no other request has
notifications under the same ids. -/
theorem noticed_project (haddressed : ∀ row ∈ tables.notifications, Addressed row)
    (hplain : ':' ∉ record.requestId.toList) : Noticed (project record now tables) record := by
  intro eventType htype
  rw [← types_notices now] at htype
  obtain ⟨notice, hnotice, rfl⟩ := List.mem_map.mp htype
  obtain ⟨row, hrow, hid⟩ := @foldl_insertNotice_has tables.notifications _ _ hnotice
  have hrows : Addressed row := by
    rcases mem_project hrow with hold | hnew
    · exact haddressed row hold
    · exact addressed_of_mem_notices hplain hnew
  obtain ⟨hrequest, hnoticeType, hnoticeId⟩ := id_of_mem_notices hnotice
  have hsame := noticeId_inj hrows.plain hplain hrows.eventType hnoticeType
    (hrows.eventId.symm.trans (hid.trans hnoticeId))
  exact ⟨row, hrow, hsame⟩

end Project

variable {ι : Type} [DecidableEq ι]

/-- Requests, events and notifications all come from submissions that have made a
request; where an event is published, its request is noticed. -/
structure Agreement (session state : ι → Session) (rows : IntakeRows) (tables : Tables) :
    Prop where
  client : ∀ client, (state client).client = (session client).client
  requests : ∀ requestId (row : IntakeRequestRow),
    rows.get (IntakeKey.request requestId) = some row → ∃ client call record,
      (state client).made = some (call, record) ∧ record.requestId = requestId ∧
        ∃ projectedAt, row = { requestRow record with projectedAt }
  events : ∀ eventId row, intakeEventAt rows eventId = some row → ∃ client call record,
    (state client).made = some (call, record) ∧ row.event ∈ call.events record.preflight ∧
      (row.publishedAt ≠ none → Noticed tables record)
  notifications : ∀ row ∈ tables.notifications, Addressed row ∧ ∃ client call record,
    (state client).made = some (call, record) ∧ row.requestId = record.requestId ∧
      row.eventType ∈ noticeTypes record ∧ Noticed tables record
  marking : ∀ client found, (state client).marks = some found → ∃ other call record,
    (state other).made = some (call, record) ∧ record.requestId = found.requestId ∧
      Noticed tables record
  notificationIds : (tables.notifications.map (·.eventId)).Nodup
  contextIds : (tables.contexts.map (·.requestId)).Nodup

variable {sha256 : String → String} {service : PublicIntakeService}
  {known : CounterpartyPreflightSnapshot → Prop} {session state : ι → Session}
  {rows rows' : IntakeRows} {tables : Tables} {client other : ι} {after : Session}
  {call call' : Submission} {record record' found : PublicIntakeRecord} {now : Instant}

namespace Agreement

omit [DecidableEq ι] in
/-- A request has one maker. -/
theorem unique (h : Agreement session state rows tables) (hunique : UniqueRequests session)
    (hknows : ∀ client, (state client).Knows sha256 service known rows)
    (hmade : (state client).made = some (call, record))
    (hmade' : (state other).made = some (call', record'))
    (hsame : record.requestId = record'.requestId) : call = call' ∧ record = record' := by
  have hclient := (h.client client).symm.trans (Session.client_of_made hmade)
  have hclient' := (h.client other).symm.trans (Session.client_of_made hmade')
  have hcalls : call.requestId = call'.requestId := by
    rw [(hknows client).made call record hmade, (hknows other).made call' record' hmade'] at hsame
    exact hsame
  obtain rfl := hunique.distinct client other call call' hclient hclient' hcalls
  exact Prod.mk.inj (Option.some.inj (hmade.symm.trans hmade'))

omit [DecidableEq ι] in
theorem plain (h : Agreement session state rows tables) (hunique : UniqueRequests session)
    (hknows : ∀ client, (state client).Knows sha256 service known rows)
    (hmade : (state client).made = some (call, record)) : ':' ∉ record.requestId.toList := by
  rw [(hknows client).made call record hmade]
  exact hunique.plain client call ((h.client client).symm.trans (Session.client_of_made hmade))

omit [DecidableEq ι] in
/-- A projection of a request that was made, by whatever record of it. -/
theorem project (h : Agreement session state rows tables)
    (hmade : (state client).made = some (call, record))
    (hplain : ':' ∉ record.requestId.toList) (hsame : found.requestId = record.requestId)
    (htypes : noticeTypes found = noticeTypes record) (now : Instant) :
    Agreement session state rows (project found now tables) ∧
      Noticed (RequestProjection.project found now tables) record := by
  rw [← hsame] at hplain
  have hnoticed : Noticed (RequestProjection.project found now tables) record := by
    have hfound := @noticed_project tables found now
      (fun row hrow => (h.notifications row hrow).1) hplain
    rw [Noticed, htypes, hsame] at hfound
    exact hfound
  constructor
  · constructor
    · exact h.client
    · exact h.requests
    · intro eventId row hrow
      obtain ⟨client, call, record, hmade, hevent, hpublished⟩ := h.events eventId row hrow
      exact ⟨client, call, record, hmade, hevent, fun hdone => (hpublished hdone).project⟩
    · intro row hrow
      rcases mem_project hrow with hold | hnew
      · obtain ⟨haddressed, client, call, record, hmade, hrequest, htype, hbefore⟩ :=
          h.notifications row hold
        exact ⟨haddressed, client, call, record, hmade, hrequest, htype, hbefore.project⟩
      · refine ⟨addressed_of_mem_notices hplain hnew, client, call, record, hmade, ?_, ?_,
          hnoticed⟩
        · exact (id_of_mem_notices hnew).1.trans hsame
        · rw [← htypes, ← types_notices now]
          exact List.mem_map_of_mem hnew
    · intro client found hmarks
      obtain ⟨other, call, record, hmade, hrequest, hbefore⟩ := h.marking client found hmarks
      exact ⟨other, call, record, hmade, hrequest, hbefore.project⟩
    · exact nodup_foldl_insertNotice h.notificationIds
    · exact nodup_upsertContext h.contextIds
  · exact hnoticed

/-- Makers stay makers when a client goes on. -/
theorem made_update (hmakes : (state client).Makes sha256 after)
    (hmade : (state other).made = some (call, record)) :
    (Function.update state client after other).made = some (call, record) := by
  by_cases hother : other = client
  · subst hother
    rw [Function.update_self]
    exact hmakes.stays hmade
  · rw [Function.update_of_ne hother]
    exact hmade

/-- A client goes on without touching the intake. -/
theorem moves (h : Agreement session state rows tables)
    (hclient : after.client = (state client).client)
    (hmakes : (state client).Makes sha256 after)
    (hmarks : ∀ found, after.marks = some found → ∃ other call record,
      (state other).made = some (call, record) ∧ record.requestId = found.requestId ∧
        Noticed tables record) :
    Agreement session (Function.update state client after) rows tables := by
  constructor
  · intro other
    by_cases hother : other = client
    · rw [hother, Function.update_self, hclient, h.client]
    · rw [Function.update_of_ne hother, h.client]
  · intro requestId row hrow
    obtain ⟨maker, call, record, hmade, hrest⟩ := h.requests requestId row hrow
    exact ⟨maker, call, record, made_update hmakes hmade, hrest⟩
  · intro eventId row hrow
    obtain ⟨maker, call, record, hmade, hrest⟩ := h.events eventId row hrow
    exact ⟨maker, call, record, made_update hmakes hmade, hrest⟩
  · intro row hrow
    obtain ⟨haddressed, maker, call, record, hmade, hrest⟩ := h.notifications row hrow
    exact ⟨haddressed, maker, call, record, made_update hmakes hmade, hrest⟩
  · intro other found hfound
    have hbefore : ∃ other call record, (state other).made = some (call, record) ∧
        record.requestId = found.requestId ∧ Noticed tables record := by
      by_cases hother : other = client
      · rw [hother, Function.update_self] at hfound
        exact hmarks found hfound
      · rw [Function.update_of_ne hother] at hfound
        exact h.marking other found hfound
    obtain ⟨maker, call, record, hmade, hrest⟩ := hbefore
    exact ⟨maker, call, record, made_update hmakes hmade, hrest⟩
  · exact h.notificationIds
  · exact h.contextIds

omit [DecidableEq ι] in
/-- What is published was noticed before. -/
theorem noticed_of_published (h : Agreement session state rows tables)
    (hunique : UniqueRequests session)
    (hknows : ∀ client, (state client).Knows sha256 service known rows) {eventId : String}
    {row : IntakeOutboxRow} (hrow : intakeEventAt rows eventId = some row)
    (hmade : (state other).made = some (call, record))
    (hevent : row.event ∈ call.events record.preflight)
    (hpublished : ((state client).permit sha256).published = some eventId) :
    Noticed tables record := by
  have hrecord := (hknows other).made call record hmade
  rcases Session.permit_published hpublished with ⟨found, hinHand, hmarks⟩ |
    ⟨event, hundelivered, rfl, hnotify⟩
  · obtain ⟨_, row', hrow', hrequest, _⟩ := (hknows client).inHand found eventId hinHand
    obtain rfl := Option.some.inj (hrow.symm.trans hrow')
    obtain ⟨maker, call', record', hmade', hsame, hnoticed⟩ := h.marking client found hmarks
    have hids : record.requestId = record'.requestId := by
      rw [hsame, ← hrequest, (Submission.of_mem_events hevent).1, hrecord]
      rfl
    rw [(h.unique hunique hknows hmade hmade' hids).2]
    exact hnoticed
  · obtain ⟨row', hrow', rfl⟩ := (hknows client).undelivered event hundelivered
    obtain rfl := Option.some.inj (hrow.symm.trans hrow')
    have hquiet : record.status = .quarantinedSpam := by
      rw [hrecord]
      simp [Submission.record, Submission.status, ← (Submission.of_mem_events hevent).2, hnotify]
    intro eventType htype
    rw [noticeTypes_quarantined hquiet] at htype
    cases htype

/-- A commit keeps the agreement. -/
theorem commit (h : Agreement session state rows tables) (hunique : UniqueRequests session)
    (hknows : ∀ client, (state client).Knows sha256 service known rows)
    (hdoes : Proceeds sha256 service known (state client) after rows rows') :
    Agreement session (Function.update state client after) rows' tables := by
  have hmakes := hdoes.leaves.makes
  have hmoved : Agreement session (Function.update state client after) rows tables := by
    apply h.moves hdoes.leaves.client hmakes
    intro found hmarks
    apply h.marking client found
    exact Session.marks_of_inHand hdoes.opened (hdoes.leaves.marks found hmarks)
  constructor
  · exact hmoved.client
  · intro requestId row' hrow'
    cases hrow : rows.get (IntakeKey.request requestId) with
    | some row =>
        obtain ⟨maker, call, record, hmade, hid, projectedAt, hbefore⟩ :=
          hmoved.requests requestId row hrow
        obtain ⟨later, hlater⟩ := hdoes.keeps.request requestId row hrow
        obtain rfl := Option.some.inj (hlater.symm.trans hrow')
        exact ⟨maker, call, record, hmade, hid, later, by rw [hbefore]⟩
    | none =>
        rcases hdoes.adds with ⟨call, preflight, hbefore, rfl⟩ | ⟨hnone, _⟩
        · rcases hdoes.changes (.request requestId) row' hrow' with ⟨row, hsome, _⟩ |
            ⟨record, hmem, hid, hrest⟩
          · cases hrow.symm.trans hsome
          · rw [hbefore] at hmem
            obtain rfl := Option.some.inj hmem
            exact ⟨client, call, call.record sha256 preflight, by
              rw [Function.update_self]; rfl, hid, hrest⟩
        · rw [hnone requestId hrow] at hrow'
          cases hrow'
  · intro eventId row' hrow'
    cases hrow : intakeEventAt rows eventId with
    | some row =>
        obtain ⟨maker, call, record, hmade, hevent, hpublished⟩ := h.events eventId row hrow
        obtain ⟨later, hlater, hsame⟩ := hdoes.keeps.event eventId row hrow
        obtain rfl := Option.some.inj (hlater.symm.trans hrow')
        have hnow : ((state client).permit sha256).published = some eventId →
            Noticed tables record :=
          h.noticed_of_published hunique hknows hrow hmade hevent
        refine ⟨maker, call, record, made_update hmakes hmade, by rw [hsame]; exact hevent,
          fun hdone => ?_⟩
        rcases hdoes.changes (.outboxEvent eventId) later hlater with
          ⟨old, hold, _, hbefore⟩ | ⟨_, _, hpermitted⟩
        · obtain rfl := Option.some.inj (hrow.symm.trans hold)
          rcases hbefore hdone with hearlier | hpermitted
          · exact hpublished hearlier
          · exact hnow hpermitted
        · exact hnow (hpermitted hdone)
    | none =>
        rcases hdoes.adds with ⟨call, preflight, hbefore, rfl⟩ | ⟨_, hnone⟩
        · rcases hdoes.changes (.outboxEvent eventId) row' hrow' with ⟨row, hsome, _⟩ |
            ⟨hmem, _, hpublished⟩
          · cases hrow.symm.trans hsome
          · rw [hbefore] at hmem hpublished
            refine ⟨client, call, call.record sha256 preflight, by
              rw [Function.update_self]; rfl, hmem, fun hdone => ?_⟩
            cases hpublished hdone
        · rw [hnone eventId hrow] at hrow'
          cases hrow'
  · exact hmoved.notifications
  · exact hmoved.marking
  · exact hmoved.notificationIds
  · exact hmoved.contextIds

omit [DecidableEq ι] in
/-- Whatever record a projection has got of a request, it is worth what the request's
maker has made of it. -/
theorem projecting (h : Agreement session state rows tables)
    (hsnapshots : ∀ preflight preflight', known preflight → known preflight' →
      preflight.snapshotId = preflight'.snapshotId → preflight = preflight')
    (hknows : ∀ client, (state client).Knows sha256 service known rows)
    (hloaded : Loaded known rows found) : ∃ other call record,
      (state other).made = some (call, record) ∧ found.requestId = record.requestId ∧
        noticeTypes found = noticeTypes record := by
  obtain ⟨row, projectedAt, snapshot, hrow, hfound, hsnapshot, hid⟩ := hloaded.loaded
  obtain ⟨maker, call, record, hmade, hsame, earlier, rfl⟩ :=
    h.requests found.requestId row hrow
  have hknown : known record.preflight :=
    (hknows maker).carried _ (Session.carried_of_made hmade)
  have hpreflight : snapshot = record.preflight := hsnapshots _ _ hsnapshot hknown hid
  refine ⟨maker, call, record, hmade, hsame.symm, ?_⟩
  rw [hfound]
  exact noticeTypes_congr rfl hpreflight

end Agreement

omit [DecidableEq ι] in
/-- What is projected is a request that was made, by its maker or by a dispatcher. -/
theorem Agreement.projected (h : Agreement session state rows tables)
    (hsnapshots : ∀ preflight preflight', known preflight → known preflight' →
      preflight.snapshotId = preflight'.snapshotId → preflight = preflight')
    (hknows : ∀ client, (state client).Knows sha256 service known rows) {action : Outside}
    {success : Bool} (hprojects : projection
      (.acted client (state client) action after : IntakeEvent ι) = some (found, success)) :
    ∃ other call record, (state other).made = some (call, record) ∧
      found.requestId = record.requestId ∧ noticeTypes found = noticeTypes record := by
  cases hstate : state client with
  | submit call stage =>
      rw [hstate] at hprojects
      cases stage with
      | recorded record =>
          cases action with
          | submission act =>
              cases act with
              | projects outcome =>
                  obtain ⟨rfl, _⟩ := Prod.mk.inj (Option.some.inj hprojects)
                  exact ⟨client, call, record, by rw [hstate]; rfl, rfl, rfl⟩
              | asked answer => cases hprojects
          | projection outcome => cases hprojects
      | _ => cases hprojects
  | dispatch call stage =>
      rw [hstate] at hprojects
      cases stage with
      | projecting record eventId rest =>
          cases action with
          | submission act => cases hprojects
          | projection outcome =>
              obtain ⟨rfl, _⟩ := Prod.mk.inj (Option.some.inj hprojects)
              have hinHand : (state client).inHand = some (record, eventId) := by
                rw [hstate]
                rfl
              exact h.projecting hsnapshots hknows ((hknows client).inHand _ _ hinHand).1
      | _ => cases hprojects

omit [DecidableEq ι] in
/-- A dispatcher marks what it has projected. -/
theorem projection_of_marks {before : Session} {action : Outside}
    (hacts : Session.Acts service before action after) (hmarks : after.marks = some found) :
    projection (.acted client before action after : IntakeEvent ι) = some (found, true) := by
  cases hacts with
  | submit hacts => cases hmarks
  | dispatch hacts =>
      cases hacts with
      | projects record eventId rest =>
          obtain rfl := Option.some.inj hmarks
          rfl
      | fails record eventId rest error => cases hmarks

/-- What an outside action of a client leaves in both databases. -/
theorem Agreement.acts {action : Outside} {tables' : Tables}
    (h : Agreement session state rows tables) (hunique : UniqueRequests session)
    (hsnapshots : ∀ preflight preflight', known preflight → known preflight' →
      preflight.snapshotId = preflight'.snapshotId → preflight = preflight')
    (hknows : ∀ client, (state client).Knows sha256 service known rows)
    (hacts : Session.Acts service (state client) action after)
    (hleaves : Leaves sha256 service known (state client) after rows)
    (htables : (tables' = tables ∧ ∀ record, projection
        (.acted client (state client) action after : IntakeEvent ι) ≠ some (record, true)) ∨
      ∃ record success now, projection
          (.acted client (state client) action after : IntakeEvent ι) =
            some (record, success) ∧ tables' = RequestProjection.project record now tables) :
    Agreement session (Function.update state client after) rows tables' := by
  have hkept : Agreement session state rows tables' ∧ ∀ found, projection
      (.acted client (state client) action after : IntakeEvent ι) = some (found, true) →
      ∃ other call record, (state other).made = some (call, record) ∧
        record.requestId = found.requestId ∧ Noticed tables' record := by
    rcases htables with ⟨rfl, hpasses⟩ | ⟨found, success, now, hprojects, rfl⟩
    · exact ⟨h, fun found hsome => absurd hsome (hpasses found)⟩
    · obtain ⟨other, call, record, hmade, hid, htypes⟩ :=
        h.projected hsnapshots hknows hprojects
      obtain ⟨hagreed, hnoticed⟩ := h.project hmade (h.plain hunique hknows hmade) hid htypes now
      constructor
      · exact hagreed
      · intro found' hsome
        obtain ⟨rfl, _⟩ := Prod.mk.inj (Option.some.inj (hprojects.symm.trans hsome))
        exact ⟨other, call, record, hmade, hid.symm, hnoticed⟩
  apply hkept.1.moves hleaves.client hleaves.makes
  intro found hmarks
  exact hkept.2 found (projection_of_marks hacts hmarks)

/-- The operator's database agrees with the intake in every run. -/
theorem agreement_of_run {locked : IntakeKey → Bool} {events : List (IntakeEvent ι)}
    {last : IntakeSys ι} (hfresh : ∀ client, (session client).fresh)
    (hunique : UniqueRequests session)
    (hrun : Run (flow sha256 service) (Sys.start ⟨locked, []⟩ session) events last) :
    (∀ tables, Projected events tables →
      Agreement session last.states last.world.rows tables) ∧
      ∀ client, (last.states client).Knows sha256 service (Produced service session events)
        last.world.rows := by
  have honce := asksOnce_of_run hfresh hrun
  have hsnapshots : ∀ preflight preflight', Produced service session events preflight →
      Produced service session events preflight' →
      preflight.snapshotId = preflight'.snapshotId → preflight = preflight' :=
    fun _ _ => produced_unique hunique honce
  have hrestricted : Run ((flow sha256 service).restrict
      (Answered (Produced service session events))) (Sys.start ⟨locked, []⟩ session) events
      last := by
    apply hrun.restrict
    rintro client before action after hmem answer rfl preflight hcarried
    have hasks : Asks events client preflight := ⟨before, answer, after, hmem, hcarried⟩
    obtain ⟨_, _, call, _, hclient, _⟩ := honce.asked client preflight hasks
    exact ⟨client, call, hclient, Or.inr hasks⟩
  have hgood : (provenance sha256 service (Produced service session events)).Good
      (Sys.start ⟨locked, []⟩ session : IntakeSys ι) :=
    Certificate.Good.start _ _ fun client =>
      ⟨sound_nil, knows_of_fresh (hfresh client) fun call hclient preflight hbegin =>
        ⟨client, call, hclient, Or.inl hbegin⟩⟩
  constructor
  · apply (provenance sha256 service (Produced service session events)).run_induction
      (fun world state events => ∀ tables, Projected events tables →
        Agreement session state world.rows tables) hgood _ _ _ _ _ hrestricted
    · intro tables htables
      obtain rfl := projected_nil htables
      constructor
      · exact fun _ => rfl
      · exact fun _ _ hrow => by cases hrow
      · exact fun _ _ hrow => by cases hrow
      · exact fun _ hrow => by cases hrow
      · intro client found hmarks
        change (session client).marks = some found at hmarks
        rw [Session.marks_of_fresh (hfresh client)] at hmarks
        cases hmarks
      · exact List.nodup_nil
      · exact List.nodup_nil
    · intro world state before client after own hknows hdoes hkept tables htables
      obtain ⟨earlier, hearlier, htables⟩ := projected_append htables
      rcases htables with ⟨rfl, _⟩ | ⟨_, _, _, hnone, _⟩
      · exact (hkept tables hearlier).commit hunique (fun other => (hknows other).2) hdoes
      · cases hnone
    · intro world state before client error hknows hkept tables htables
      obtain ⟨earlier, hearlier, htables⟩ := projected_append htables
      have hleaves := @leaves_recover sha256 service _ _ _ error (hknows client).2
      rcases htables with ⟨rfl, _⟩ | ⟨_, _, _, hnone, _⟩
      · apply (hkept tables hearlier).moves hleaves.client hleaves.makes
        intro found hmarks
        rw [Session.marks_recover] at hmarks
        cases hmarks
      · cases hnone
    · intro world state before client action after env hknows houtside hkept tables htables
      obtain ⟨earlier, hearlier, htables⟩ := projected_append htables
      have hleaves := houtside.1.2.leaves houtside.2 (hknows client).2
      exact (hkept earlier hearlier).acts hunique hsnapshots (fun other => (hknows other).2)
        houtside.1.2 hleaves htables
    · intro world state before env _ hkept
      exact hkept
  · exact fun client => ((hgood.run hrestricted).sound client).knows.2

namespace Agreement

omit [DecidableEq ι] in
theorem notified_length (h : Agreement session state rows tables) (requestId eventType : String) :
    (tables.notified requestId eventType).length ≤ 1 := by
  apply length_filter_le_one h.notificationIds
  intro row hrow other hother hkept hkept'
  rw [Bool.and_eq_true, beq_iff_eq, beq_iff_eq] at hkept hkept'
  rw [(h.notifications row hrow).1.eventId, (h.notifications other hother).1.eventId,
    hkept.1, hkept.2, hkept'.1, hkept'.2]

omit [DecidableEq ι] in
theorem contextsOf_length (h : Agreement session state rows tables) (requestId : String) :
    (tables.contextsOf requestId).length ≤ 1 := by
  apply length_filter_le_one h.contextIds
  intro row _ other _ hkept hkept'
  exact (beq_iff_eq.mp hkept).trans (beq_iff_eq.mp hkept').symm

section Made

variable (h : Agreement session state rows tables) (hunique : UniqueRequests session)
  (hknows : ∀ client, (state client).Knows sha256 service known rows)
include h hunique hknows

omit [DecidableEq ι] in
/-- A notification of a request is one that the request is worth, and it has not come
alone. -/
theorem noticed_of_notified (hmade : (state client).made = some (call, record))
    {eventType : String} (hsome : tables.notified record.requestId eventType ≠ []) :
    eventType ∈ noticeTypes record ∧ Noticed tables record := by
  obtain ⟨row, hrow⟩ := List.exists_mem_of_ne_nil _ hsome
  obtain ⟨hstored, hrequest, rfl⟩ := Tables.mem_notified.mp hrow
  obtain ⟨_, maker, call', record', hmade', hsame, htype, hnoticed⟩ :=
    h.notifications row hstored
  rw [(h.unique hunique hknows hmade hmade' (hrequest.symm.trans hsame)).2]
  exact ⟨htype, hnoticed⟩

omit [DecidableEq ι] in
theorem notified_quarantined {requestId : String} {row : IntakeRequestRow}
    (hrow : rows.get (IntakeKey.request requestId) = some row)
    (hstatus : row.status = .quarantinedSpam) (eventType : String) :
    tables.notified requestId eventType = [] := by
  obtain ⟨client, call, record, hmade, rfl, projectedAt, rfl⟩ := h.requests requestId row hrow
  by_contra hsome
  have htype := (h.noticed_of_notified hunique hknows hmade hsome).1
  rw [noticeTypes_quarantined hstatus] at htype
  cases htype

omit [DecidableEq ι] in
theorem notified_published {requestId eventId : String} {row : IntakeRequestRow}
    {event : IntakeOutboxRow} (hrow : rows.get (IntakeKey.request requestId) = some row)
    (hstatus : row.status = .accepted) (hevent : intakeEventAt rows eventId = some event)
    (hid : event.event.requestId = requestId) (hpublished : event.publishedAt ≠ none) :
    (tables.notified requestId "new_client_request").length = 1 := by
  obtain ⟨client, call, record, hmade, rfl, projectedAt, rfl⟩ := h.requests requestId row hrow
  obtain ⟨maker, call', record', hmade', hmem, hnoticed⟩ := h.events eventId event hevent
  have hsame : record.requestId = record'.requestId := by
    rw [← hid, (Submission.of_mem_events hmem).1, (hknows maker).made call' record' hmade']
    rfl
  rw [← (h.unique hunique hknows hmade hmade' hsame).2] at hnoticed
  have hsome := (hnoticed hpublished).notified (noticeTypes_accepted hstatus)
  exact Nat.le_antisymm (h.notified_length _ _) (List.length_pos_iff.mpr hsome)

end Made

end Agreement

/-- The projection is idempotent and agrees with the outbox: after any run, whatever the
projections that failed have left, a request has one context row and one notification of a
type at most; an accepted one has its first notification when one of its events is
published, a quarantined one has none; and the request that a submission has made is worth
the notifications that it has appended events for, and has them all if it has one. -/
theorem projection_agrees {locked : IntakeKey → Bool} {events : List (IntakeEvent ι)}
    {last : IntakeSys ι} (hfresh : ∀ client, (session client).fresh)
    (hunique : UniqueRequests session)
    (hrun : Run (flow sha256 service) (Sys.start ⟨locked, []⟩ session) events last)
    (htables : Projected events tables) :
    (∀ requestId, (tables.contextsOf requestId).length ≤ 1) ∧
    (∀ requestId eventType, (tables.notified requestId eventType).length ≤ 1) ∧
    (∀ requestId (row : IntakeRequestRow),
      last.world.rows.get (IntakeKey.request requestId) = some row →
        (row.status = .quarantinedSpam →
          ∀ eventType, tables.notified requestId eventType = []) ∧
        (row.status = .accepted → ∀ eventId event,
          intakeEventAt last.world.rows eventId = some event →
            event.event.requestId = requestId → event.publishedAt ≠ none →
              (tables.notified requestId "new_client_request").length = 1)) ∧
    ∀ client call record, (last.states client).made = some (call, record) →
      call.notifyOperator = true →
        noticeTypes record = (call.events record.preflight).map (·.eventType) ∧
        ((∃ eventType, tables.notified record.requestId eventType ≠ []) →
          ∀ eventType, tables.notified record.requestId eventType ≠ [] ↔
            eventType ∈ (call.events record.preflight).map (·.eventType)) := by
  obtain ⟨hagrees, hknows⟩ := agreement_of_run hfresh hunique hrun
  have hagreement := hagrees tables htables
  constructor
  · exact hagreement.contextsOf_length
  constructor
  · exact hagreement.notified_length
  constructor
  · intro requestId row hrow
    constructor
    · exact hagreement.notified_quarantined hunique hknows hrow
    · intro hstatus eventId event hevent
      exact hagreement.notified_published hunique hknows hrow hstatus hevent
  · intro client call record hmade hnotify
    have htypes : noticeTypes record = (call.events record.preflight).map (·.eventType) := by
      have hplain := produced_plain (asksOnce_of_run hfresh hrun)
        ((hknows client).carried _ (Session.carried_of_made hmade))
      have hagree := @types_agree sha256 call _ hplain hnotify
      rw [← (hknows client).made call record hmade] at hagree
      exact hagree
    constructor
    · exact htypes
    · rintro ⟨first, hfirst⟩ eventType
      rw [← htypes]
      constructor
      · exact fun hsome => (hagreement.noticed_of_notified hunique hknows hmade hsome).1
      · exact (hagreement.noticed_of_notified hunique hknows hmade hfirst).2.notified

omit [DecidableEq ι] in
/-- A transaction of the intake leaves the operator's database alone. -/
theorem Projected.committed {events : List (IntakeEvent ι)} (h : Projected events tables)
    (client : ι) (before after : Session) (own : IntakeRows) :
    Projected (events ++ [.committed client before after own]) tables :=
  .passes _ h fun _ hsome => by cases hsome

theorem unique_blocked : UniqueRequests fun _ : Unit => .submit blockedCall .waiting := by
  constructor
  · exact fun _ _ _ _ _ _ _ => rfl
  · intro _ call hcall
    obtain rfl := Sum.inl.inj hcall
    decide

/-- The tables after the request of the blocked call. -/
def blockedTables : Tables :=
  project (blockedCall.record sampleDigest blockedPreflight) 0 ⟨[], []⟩

/-- A request about a wrong number is recorded and projected: it has two notifications. -/
theorem projection_agrees_sample : ∃ (events : List (IntakeEvent Unit)) (last : IntakeSys Unit),
    Run (flow sampleDigest tightService)
        (Sys.start ⟨fun _ => false, []⟩ fun _ => .submit blockedCall .waiting) events last ∧
      Projected events blockedTables ∧
      (blockedTables.notified "request-1" "counterparty_blocking_fact").length = 1 ∧
      ∀ requestId eventType, (blockedTables.notified requestId eventType).length ≤ 1 := by
  have hreserve : (reserve sampleDigest tightService blockedCall).execute (fun _ => false) [] [] =
      .ok (.reserved, reservedRows) := by
    with_unfolding_all rfl
  have hpassed : (admitCall sampleDigest tightService blockedCall).execute (fun _ => false)
      (reservedRows ++ []) [] = .ok (.assessed blockedPreflight, admittedRows) := by
    with_unfolding_all rfl
  obtain ⟨recorded, hrecord⟩ : ∃ recorded,
      (PublicIntakeService.record sampleDigest tightService blockedCall blockedPreflight).execute
        (fun _ => false) (admittedRows ++ (reservedRows ++ [])) [] =
          .ok (.recorded (blockedCall.record sampleDigest blockedPreflight), recorded) := by
    constructor
    · with_unfolding_all rfl
  have hact : (flow sampleDigest tightService).outside
      (.submit blockedCall (.recorded (blockedCall.record sampleDigest blockedPreflight)))
      (fun _ => false) (.submission (.projects (.ok ())))
      (.submit blockedCall (.projected (blockedCall.record sampleDigest blockedPreflight)))
      (fun _ => false) :=
    ⟨rfl, .submit (.projects _)⟩
  have hrun := (run_recorded hreserve hpassed hrecord).trans (run_act_start () hact)
  have hfresh : ∀ client : Unit, ((fun _ => .submit blockedCall .waiting : Unit → Session)
      client).fresh := fun _ => rfl
  suffices htables : Projected _ blockedTables from ⟨_, _, hrun, htables, by decide +kernel,
    (projection_agrees hfresh unique_blocked hrun htables).2.1⟩
  apply Projected.projects _ (blockedCall.record sampleDigest blockedPreflight) true 0
  · exact ((Projected.start.committed () _ _ _).committed () _ _ _).committed () _ _ _
  · rfl

end RequestProjection

end ShemaPlatform
