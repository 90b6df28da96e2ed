/-
What each transaction of the public intake does at its commit, whoever else has
committed while it ran.
-/
import ShemaPlatform.IntakeLedger

namespace ShemaPlatform

open Calendar ReadCommitted ReadCommitted.Prog PublicIntakeRepository

/-- Whatever a call may append to the outbox. -/
def Submission.events (call : Submission) (preflight : CounterpartyPreflightSnapshot) :
    List PublicIntakeOutboxEvent :=
  call.event preflight :: (call.secondEvent preflight).toList

/-- The outbox has got some of these events, under ids that were free. -/
structure OutboxAdds (events : List PublicIntakeOutboxEvent) (rows rows' : IntakeRows) :
    Prop where
  kept : ∀ eventId row, intakeEventAt rows eventId = some row →
    intakeEventAt rows' eventId = some row
  added : ∀ eventId row, intakeEventAt rows' eventId = some row →
    intakeEventAt rows eventId = some row ∨ intakeEventAt rows eventId = none ∧
      ∃ event ∈ events, event.eventId = eventId ∧ row = ⟨event, none, 0, none⟩

namespace OutboxAdds

variable {rows rows' own : IntakeRows} {events events' : List PublicIntakeOutboxEvent}

theorem of_only (hown : own.Only fun key => key.table ≠ .outbox) :
    OutboxAdds [] rows (own ++ rows) := by
  have hsame : ∀ eventId, intakeEventAt (own ++ rows) eventId = intakeEventAt rows eventId :=
    fun eventId => hown.get_append (fun hkey => hkey rfl) rows
  constructor
  · exact fun eventId row hrow => (hsame eventId).trans hrow
  · exact fun eventId row hrow => Or.inl ((hsame eventId).symm.trans hrow)

theorem mono (h : OutboxAdds events rows rows') (hevents : ∀ event ∈ events, event ∈ events') :
    OutboxAdds events' rows rows' := by
  constructor
  · exact h.kept
  · intro eventId row hrow
    rcases h.added eventId row hrow with hold | ⟨hnone, event, hmem, hnew⟩
    · exact Or.inl hold
    · exact Or.inr ⟨hnone, event, hevents event hmem, hnew⟩

/-- Something else is written. -/
theorem cons (h : OutboxAdds events rows rows') {key : IntakeKey} (hkey : key.table ≠ .outbox)
    (row : Option (IntakeRow key)) : OutboxAdds events rows (⟨key, row⟩ :: rows') := by
  have hsame : ∀ eventId, intakeEventAt (⟨key, row⟩ :: rows') eventId =
      intakeEventAt rows' eventId := by
    intro eventId
    apply Rows.get_cons_ne
    rintro rfl
    exact hkey rfl
  constructor
  · exact fun eventId row hrow => (hsame eventId).trans (h.kept eventId row hrow)
  · exact fun eventId row hrow => h.added eventId row ((hsame eventId).symm.trans hrow)

theorem append (h : OutboxAdds events rows rows') {event : PublicIntakeOutboxEvent}
    (hmem : event ∈ events) (hnew : intakeEventAt rows' event.eventId = none) :
    OutboxAdds events rows
      (⟨IntakeKey.outboxEvent event.eventId, some ⟨event, none, 0, none⟩⟩ :: rows') := by
  have hfree : intakeEventAt rows event.eventId = none := by
    cases hrow : intakeEventAt rows event.eventId with
    | none => rfl
    | some row =>
        rw [h.kept _ _ hrow] at hnew
        cases hnew
  constructor
  · intro eventId row hrow
    by_cases hsame : event.eventId = eventId
    · subst hsame
      rw [hfree] at hrow
      cases hrow
    · exact (Rows.get_cons_ne (by simpa using hsame) _ _).trans (h.kept eventId row hrow)
  · intro eventId row hrow
    by_cases hsame : event.eventId = eventId
    · subst hsame
      obtain rfl := Option.some.inj ((Rows.get_cons_self _ _ _).symm.trans hrow)
      exact Or.inr ⟨hfree, event, hmem, rfl, rfl⟩
    · exact h.added eventId row ((Rows.get_cons_ne (by simpa using hsame) _ _).symm.trans hrow)

/-- Each event adds one to the backlog at most. -/
theorem pendingCount_le (h : OutboxAdds events rows rows') :
    pendingCount rows' ≤ pendingCount rows + events.length := by
  have hlength : (pendingIds rows ++ events.map PublicIntakeOutboxEvent.eventId).length =
      pendingCount rows + events.length := by
    rw [List.length_append, List.length_map, length_pendingIds]
  rw [← hlength, ← length_pendingIds]
  apply (List.Nodup.subperm (nodup_pendingIds rows') _).length_le
  intro eventId hmem
  obtain ⟨row, hrow, hopen⟩ := mem_pendingIds.mp hmem
  rw [List.mem_append]
  rcases h.added eventId row hrow with hold | ⟨_, event, hevent, rfl, _⟩
  · exact Or.inl (mem_pendingIds.mpr ⟨row, hold, hopen⟩)
  · exact Or.inr (List.mem_map_of_mem hevent)

end OutboxAdds

namespace PublicIntakeService

/-- The key and the request of a call whose request is on record. -/
def Session.answer : Session → Option (String × String)
  | .submit call (.recorded record) => some (call.key, record.requestId)
  | .submit call (.projected record) => some (call.key, record.requestId)
  | .submit call (.returned result) => some (call.key, result.record.requestId)
  | _ => none

/-- What a session is a session of. -/
def Session.client : Session → Submission ⊕ Dispatch
  | .submit call _ => .inl call
  | .dispatch call _ => .inr call

/-- A call has counted the backlog under the lock and appended its events. -/
structure Appends (service : PublicIntakeService) (call : Submission)
    (preflight : CounterpartyPreflightSnapshot) (rows rows' : IntakeRows) : Prop where
  capacity : pendingCount rows < service.maxPendingOutbox
  events : OutboxAdds (call.events preflight) rows rows'
  keeps : IntakeKeeps rows rows'

/-- A request is recorded: its key was free, and reserved for it. -/
structure Records (sha256 : String → String) (service : PublicIntakeService)
    (call : Submission) (preflight : CounterpartyPreflightSnapshot)
    (reserved : IntakeReservationRow) (rows rows' : IntakeRows) : Prop
    extends Appends service call preflight rows rows' where
  keyFree : rows.get (IntakeKey.requestKey call.key) = none
  requestFree : rows.get (IntakeKey.request call.requestId) = none
  reservation : rows.get (IntakeKey.reservation call.key) = some reserved
  mine : reserved.requestId = call.requestId
  opened : reserved.completedAt = none
  requestKeys : ∀ key, rows'.get (IntakeKey.requestKey key) =
    if key = call.key then some call.requestId else rows.get (IntakeKey.requestKey key)
  requests : ∀ requestId, rows'.get (IntakeKey.request requestId) =
    if requestId = call.requestId then some (requestRow (call.record sha256 preflight))
    else rows.get (IntakeKey.request requestId)
  reservations : ∀ key, rows'.get (IntakeKey.reservation key) =
    if key = call.key then some { reserved with completedAt := some call.completedAt }
    else rows.get (IntakeKey.reservation key)

/-- What the transactions do.  A clash would be a call whose key is reserved for it
but has a request on record already, or whose reservation is completed already. -/
inductive Effect (sha256 : String → String) (service : PublicIntakeService)
    (rows rows' : IntakeRows) : Session → Session → Prop where
  | reserves (call : Submission)
      (hprior : ∀ row : IntakeReservationRow,
        rows.get (IntakeKey.reservation call.key) = some row →
          row.completedAt = none ∧ row.leasedUntil ≤ call.reservedAt)
      (hrows : rows' = ⟨IntakeKey.reservation call.key, some ⟨call.payload.requestHash sha256,
        call.requestId, call.reservedAt + seconds 120, none⟩⟩ :: rows) :
      Effect sha256 service rows rows' (.submit call .waiting) (.submit call .reserved)
  | records (call : Submission) (preflight : CounterpartyPreflightSnapshot)
      (reserved : IntakeReservationRow)
      (hrecords : Records sha256 service call preflight reserved rows rows') :
      Effect sha256 service rows rows' (.submit call (.assessed preflight))
        (.submit call (.recorded (call.record sha256 preflight)))
  | clashes (call : Submission) (preflight : CounterpartyPreflightSnapshot)
      (reserved : IntakeReservationRow)
      (happends : Appends service call preflight rows rows')
      (hreserved : rows.get (IntakeKey.reservation call.key) = some reserved)
      (hmine : reserved.requestId = call.requestId)
      (hclash : rows.get (IntakeKey.requestKey call.key) ≠ none ∨
        reserved.completedAt ≠ none) :
      Effect sha256 service rows rows' (.submit call (.assessed preflight))
        (.submit call (.recorded (call.record sha256 preflight)))
  | other (before after : Session) (hsame : IntakeSame rows rows')
      (hclient : after.client = before.client)
      (hanswer : after.answer = before.answer ∨ before.answer = none ∧
        ∃ key requestId, after.answer = some (key, requestId) ∧
          rows.get (IntakeKey.requestKey key) = some requestId) :
      Effect sha256 service rows rows' before after

variable {sha256 : String → String} {service : PublicIntakeService} {call : Submission}
  {preflight : CounterpartyPreflightSnapshot} {reserved : IntakeReservationRow}
  {world : World (IntakeKey → Bool) IntakeRow} {rows rows' own : IntakeRows}
  {before after : Session}

theorem Effect.keeps (h : Effect sha256 service rows rows' before after) :
    IntakeKeeps rows rows' := by
  cases h with
  | reserves call hprior hrows =>
      subst hrows
      constructor
      · exact fun key requestId hkey => (Rows.get_cons_ne (by simp) _ _).trans hkey
      · exact fun requestId row hrow =>
          ⟨row.projectedAt, (Rows.get_cons_ne (by simp) _ _).trans hrow⟩
      · intro key row hrow hdone
        rw [Rows.get_cons_ne]
        · exact hrow
        · intro hsame
          obtain rfl := IntakeKey.reservation.inj hsame
          exact hdone (hprior row hrow).1
      · exact fun eventId row hrow =>
          ⟨row, (Rows.get_cons_ne (by simp) _ _).trans hrow, rfl⟩
      · rw [capacityHolders, capacityHolders, Rows.get_cons_ne (by simp)]
      · intro _ eventId row hrow hpending
        exact ⟨row, (Rows.get_cons_ne (by simp) _ _).symm.trans hrow, hpending⟩
  | records call preflight reserved hrecords => exact hrecords.keeps
  | clashes call preflight reserved happends _ _ _ => exact happends.keeps
  | other before after hsame _ _ => exact hsame.keeps

theorem atCommit_reserve : (reserve sha256 service call).atCommit intakeEvolution
    (fun after own world => Effect sha256 service world.rows (own ++ world.rows)
      (.submit call .waiting) (.submit call after)) [] world := by
  simp only [reserve, atCommit_bind, atCommit_lift]
  intro _ _
  apply atCommit_reserveIdempotency
  · intro hprior
    exact .reserves call hprior rfl
  · intro requestId state hstate
    rcases hstate with rfl | rfl
    · rw [if_pos rfl, atCommit_bind]
      apply atCommit_getByIdempotencyKey (by simp)
      · trivial
      · intro record hkey
        exact .other _ _ (.refl _) rfl (Or.inr ⟨rfl, _, _, rfl, hkey⟩)
    · rw [if_neg (by simp), if_pos rfl]
      trivial

theorem answer_preflighted : (Session.submit call (service.preflighted call)).answer = none := by
  rw [preflighted]
  split
  · rfl
  · rfl
  · rfl

/-- A request under the key of the call is its answer. -/
theorem atCommit_deduplicate {stage : Stage} {record : PublicIntakeRecord}
    (hsame : IntakeSame world.rows (own ++ world.rows))
    (hstage : (Session.submit call stage).answer = none)
    (hkey : world.rows.get (IntakeKey.requestKey call.key) = some record.requestId) :
    (deduplicate sha256 call record).atCommit intakeEvolution
      (fun after own world => Effect sha256 service world.rows (own ++ world.rows)
        (.submit call stage) (.submit call after)) own world := by
  rw [deduplicate, atCommit_bind, atCommit_require]
  intro _
  exact .other _ _ hsame rfl (Or.inr ⟨hstage, _, _, rfl, hkey⟩)

theorem only_tables {tables tables' : List IntakeTable}
    (hown : own.Only fun key => key.table ∈ tables)
    (htables : ∀ table ∈ tables, table ∈ tables') :
    own.Only fun key => key.table ∈ tables' :=
  hown.mono fun _ hkey => htables _ hkey

/-- What is written apart from requests, reservations, events and the lock. -/
theorem same_of_written {tables : List IntakeTable}
    (hown : own.Only fun key => key.table ∈ tables)
    (htables : ∀ table ∈ tables, table ∈ [IntakeTable.circuit, .rateLimits, .snapshots]) :
    IntakeSame rows (own ++ rows) := by
  have hwritten := only_tables hown htables
  apply IntakeSame.of_only
  · exact only_tables hwritten (by simp)
  · rw [capacityHolders, capacityHolders, hwritten.get_append (by simp [IntakeKey.table])]

/-- The lock is taken. -/
theorem same_of_lock {holders : ℕ} (hholders : capacityHolders rows < holders) :
    IntakeSame rows (⟨IntakeKey.outboxCapacity, some holders⟩ :: rows) := by
  have hframe : Rows.Only (fun key => key.table ∈
      [IntakeTable.circuit, .rateLimits, .snapshots, .capacity])
      ([⟨IntakeKey.outboxCapacity, some holders⟩] : IntakeRows) := by
    simp [IntakeKey.table]
  exact IntakeSame.of_only hframe hholders.le

theorem atCommit_admitCall_ledger : (admitCall sha256 service call).atCommit intakeEvolution
    (fun after own world => Effect sha256 service world.rows (own ++ world.rows)
      (.submit call .reserved) (.submit call after)) [] world := by
  simp only [admitCall, atCommit_bind, atCommit_lift]
  intro _ _
  apply (writes_consumeGlobalCircuit _ _ _).atCommit_written
  intro _ circuit hcircuit
  rw [List.append_nil]
  have helsewhere : ∀ key ∈ circuit.keys, key.table = .circuit :=
    fun key hkey => List.mem_singleton.mp (hcircuit key hkey)
  apply atCommit_ensureOutboxCapacity_lt
  · intro key hkey
    simp [helsewhere key hkey]
  · intro _
    have hlocked : IntakeSame world.rows (⟨IntakeKey.outboxCapacity,
        some (capacityHolders world.rows + 1)⟩ :: circuit ++ world.rows) := by
      apply (same_of_written hcircuit (by simp)).trans
      apply same_of_lock
      have hholders : capacityHolders (circuit ++ world.rows) = capacityHolders world.rows := by
        rw [capacityHolders, capacityHolders, hcircuit.get_append (by simp [IntakeKey.table])]
      rw [hholders]
      exact Nat.lt_succ_self _
    apply atCommit_getByIdempotencyKey
    · intro hmem
      simp only [Rows.keys_cons, List.mem_cons, reduceCtorEq, false_or] at hmem
      cases helsewhere _ hmem
    · rw [atCommit_bind]
      apply (writes_consumeBudget _ _ _ _ _ _).atCommit_written
      intro _ written hwritten
      apply Effect.other
      · rw [List.append_assoc]
        exact hlocked.trans (same_of_written hwritten (by simp))
      · rfl
      · exact Or.inl answer_preflighted
    · intro record hkey
      exact atCommit_deduplicate hlocked rfl hkey

/-- What a call has written on its way to record its request: rows of requests and
reservations under these keys, and some of its events. -/
structure Drafts (events : List PublicIntakeOutboxEvent) (keys : List IntakeKey)
    (rows rows' : IntakeRows) : Prop where
  events : OutboxAdds events rows rows'
  holders : capacityHolders rows' = capacityHolders rows + 1
  others : ∀ key : IntakeKey, key.table ∈ [IntakeTable.requests, .reservations] → key ∉ keys →
    rows'.get key = rows.get key

/-- A row that may be written without losing a request or a completed reservation. -/
def Rewritable (rows : IntakeRows) : IntakeKey → Prop
  | .request requestId => rows.get (IntakeKey.request requestId) = none
  | .requestKey key => rows.get (IntakeKey.requestKey key) = none
  | .reservation key => ∀ row : IntakeReservationRow,
      rows.get (IntakeKey.reservation key) = some row → row.completedAt = none
  | _ => True

namespace Drafts

variable {events : List PublicIntakeOutboxEvent} {keys : List IntakeKey}

theorem locked : Drafts events [] rows
    (⟨IntakeKey.outboxCapacity, some (capacityHolders rows + 1)⟩ :: rows) := by
  constructor
  · have hnone : OutboxAdds [] rows ([⟨IntakeKey.outboxCapacity,
        some (capacityHolders rows + 1)⟩] ++ rows) := .of_only (by simp [IntakeKey.table])
    exact hnone.mono (by simp)
  · rfl
  · intro key htable _
    apply Rows.get_cons_ne
    rintro rfl
    simp [IntakeKey.table] at htable

/-- A row that is neither an event nor the lock. -/
theorem row (h : Drafts events keys rows rows') (key : IntakeKey)
    (hkey : key.table ≠ .outbox ∧ key.table ≠ .capacity) (row : Option (IntakeRow key)) :
    Drafts events (key :: keys) rows (⟨key, row⟩ :: rows') := by
  constructor
  · exact h.events.cons hkey.1 row
  · rw [← h.holders, capacityHolders, capacityHolders, Rows.get_cons_ne]
    rintro rfl
    exact hkey.2 rfl
  · intro other htable hother
    rw [List.mem_cons, not_or] at hother
    rw [Rows.get_cons_ne (Ne.symm hother.1)]
    exact h.others other htable hother.2

theorem event (h : Drafts events keys rows rows') {event : PublicIntakeOutboxEvent}
    (hmem : event ∈ events) (hnew : intakeEventAt rows' event.eventId = none) :
    Drafts events keys rows
      (⟨IntakeKey.outboxEvent event.eventId, some ⟨event, none, 0, none⟩⟩ :: rows') := by
  constructor
  · exact h.events.append hmem hnew
  · rw [← h.holders, capacityHolders, capacityHolders, Rows.get_cons_ne (by simp)]
  · intro other htable hother
    rw [Rows.get_cons_ne]
    · exact h.others other htable hother
    · rintro rfl
      simp [IntakeKey.table] at htable

theorem keeps (h : Drafts events keys rows rows')
    (hkeys : ∀ key ∈ keys, Rewritable rows key) : IntakeKeeps rows rows' := by
  constructor
  · intro key requestId hkey
    rw [h.others _ (by simp [IntakeKey.table])]
    · exact hkey
    · intro hmem
      rw [show rows.get (IntakeKey.requestKey key) = none from hkeys _ hmem] at hkey
      cases hkey
  · intro requestId row hrow
    refine ⟨row.projectedAt, ?_⟩
    rw [h.others _ (by simp [IntakeKey.table])]
    · exact hrow
    · intro hmem
      rw [show rows.get (IntakeKey.request requestId) = none from hkeys _ hmem] at hrow
      cases hrow
  · intro key row hrow hdone
    rw [h.others _ (by simp [IntakeKey.table])]
    · exact hrow
    · exact fun hmem => hdone (hkeys _ hmem row hrow)
  · exact fun eventId row hrow => ⟨row, h.events.kept eventId row hrow, rfl⟩
  · rw [h.holders]
    exact Nat.le_succ _
  · intro hholders
    rw [h.holders] at hholders
    omega

/-- An event is appended, unless its id is taken. -/
theorem atCommit_append {event : PublicIntakeOutboxEvent} (hmem : event ∈ events)
    {post : Unit → IntakeRows → World (IntakeKey → Bool) IntakeRow → Prop}
    (h : Drafts events keys world.rows (own ++ world.rows))
    (hpost : ∀ own', Drafts events keys world.rows (own' ++ world.rows) →
      (∀ key : IntakeKey, key.table ≠ .outbox → (key ∈ own'.keys → key ∈ own.keys) ∧
        Rows.get (own' ++ world.rows) key = Rows.get (own ++ world.rows) key) →
      post () own' world) :
    (appendOutbox event).atCommit intakeEvolution post own world := by
  apply atCommit_appendOutbox
  · intro hnew
    apply hpost _ (h.event hmem hnew)
    intro key hkey
    have hother : IntakeKey.outboxEvent event.eventId ≠ key := by
      rintro rfl
      exact hkey rfl
    constructor
    · intro hwritten
      rw [Rows.keys_cons, List.mem_cons] at hwritten
      exact hwritten.resolve_left (Ne.symm hother)
    · exact Rows.get_cons_ne hother _ _
  · exact hpost own h fun key _ => ⟨id, rfl⟩

/-- The second event of a request that has one. -/
theorem atCommit_appendSecond
    {post : Unit → IntakeRows → World (IntakeKey → Bool) IntakeRow → Prop}
    (h : Drafts (call.events preflight) keys world.rows (own ++ world.rows))
    (hpost : ∀ own', Drafts (call.events preflight) keys world.rows (own' ++ world.rows) →
      (∀ key : IntakeKey, key.table ≠ .outbox →
        Rows.get (own' ++ world.rows) key = Rows.get (own ++ world.rows) key) →
      post () own' world) :
    (appendSecond call preflight).atCommit intakeEvolution post own world := by
  rw [appendSecond]
  cases hsecond : call.secondEvent preflight with
  | none => exact hpost own h fun _ _ => rfl
  | some event =>
      apply atCommit_append _ h
      · exact fun own' hdrafts hsame => hpost own' hdrafts fun key hkey => (hsame key hkey).2
      · rw [Submission.events, hsecond]
        exact List.mem_cons_of_mem _ (List.mem_singleton_self _)

/-- From the insertion of the request to the commit. -/
theorem atCommit_rest
    {post : Stage → IntakeRows → World (IntakeKey → Bool) IntakeRow → Prop}
    (hown : IntakeKey.reservation call.key ∉ own.keys)
    (h : Drafts (call.events preflight) keys world.rows (own ++ world.rows))
    (hcompleted : ∀ (own' : IntakeRows) (row : IntakeReservationRow),
      world.rows.get (IntakeKey.reservation call.key) = some row →
        row.requestId = call.requestId → row.completedAt = none →
      Drafts (call.events preflight) (IntakeKey.reservation call.key :: keys) world.rows
        (own' ++ world.rows) →
      Rows.get (own' ++ world.rows) (IntakeKey.reservation call.key) =
        some { row with completedAt := some call.completedAt } →
      (∀ key : IntakeKey, key.table = .requests →
        Rows.get (own' ++ world.rows) key = Rows.get (own ++ world.rows) key) →
      post (.recorded (call.record sha256 preflight)) own' world)
    (hkept : ∀ (own' : IntakeRows) (row : IntakeReservationRow),
      world.rows.get (IntakeKey.reservation call.key) = some row →
        row.requestId = call.requestId → row.completedAt ≠ none →
      Drafts (call.events preflight) keys world.rows (own' ++ world.rows) →
      post (.recorded (call.record sha256 preflight)) own' world) :
    (do
      appendOutbox (call.event preflight)
      completeIdempotency call.key call.requestId call.completedAt
      appendSecond call preflight
      Pure.pure (.recorded (call.record sha256 preflight)) : IntakeTx Stage).atCommit
      intakeEvolution post own world := by
  have hmem : call.event preflight ∈ call.events preflight := List.mem_cons_self
  have hkey : (IntakeKey.reservation call.key).table ≠ .outbox ∧
      (IntakeKey.reservation call.key).table ≠ .capacity := by
    simp [IntakeKey.table]
  rw [atCommit_bind]
  apply atCommit_append hmem h
  intro first hfirst hsame
  rw [atCommit_bind]
  apply atCommit_completeIdempotency
  · intro hwritten
    exact hown ((hsame _ hkey.1).1 hwritten)
  · intro row hrow hmine hopen
    rw [atCommit_bind]
    apply atCommit_appendSecond (hfirst.row _ hkey _)
    intro last hlast hsame'
    apply hcompleted last row hrow hmine hopen hlast
    · rw [hsame' _ hkey.1]
      exact Rows.get_cons_self _ _ _
    · intro key hkey
      rw [hsame' key (by simp [hkey]), List.cons_append, Rows.get_cons_ne]
      · exact (hsame key (by simp [hkey])).2
      · rintro rfl
        cases hkey
  · intro row hrow hmine hdone
    rw [atCommit_bind]
    apply atCommit_appendSecond hfirst
    intro last hlast _
    exact hkept last row hrow hmine hdone hlast

end Drafts

/-- What a call has written before it adds its request. -/
theorem atCommit_adding {keys : List IntakeKey} (hcapacity : pendingCount world.rows <
      service.maxPendingOutbox)
    (h : Drafts (call.events preflight) keys world.rows (own ++ world.rows))
    (hown : own.Only fun key => key.table ∈ [IntakeTable.capacity, .snapshots])
    (hkeys : ∀ key ∈ keys, key.table = .snapshots) :
    (do
      add (call.record sha256 preflight)
      appendOutbox (call.event preflight)
      completeIdempotency call.key call.requestId call.completedAt
      appendSecond call preflight
      Pure.pure (.recorded (call.record sha256 preflight)) : IntakeTx Stage).atCommit
      intakeEvolution (fun after own world => Effect sha256 service world.rows
        (own ++ world.rows) (.submit call (.assessed preflight)) (.submit call after))
      own world := by
  have hsnapshots : ∀ key ∈ keys, Rewritable world.rows key := by
    intro key hmem
    have htable := hkeys key hmem
    cases key <;> trivial
  have hothers : ∀ key : IntakeKey, key.table ≠ .snapshots → key ∉ keys :=
    fun key htable hmem => htable (hkeys key hmem)
  have hreservation : IntakeKey.reservation call.key ∉ own.keys := by
    intro hmem
    simpa [IntakeKey.table] using hown _ hmem
  rw [atCommit_bind]
  apply atCommit_add
  · intro key hkey htable
    simpa [htable] using hown key hkey
  · intro hkeyFree hrequestFree
    have hadded := (h.row (.requestKey call.key) (by simp [IntakeKey.table])
      (some call.requestId)).row (.request call.requestId) (by simp [IntakeKey.table])
        (some (requestRow (call.record sha256 preflight)))
    have hadding : ∀ key ∈ IntakeKey.request call.requestId ::
        IntakeKey.requestKey call.key :: keys, Rewritable world.rows key := by
      rw [List.forall_mem_cons, List.forall_mem_cons]
      exact ⟨hrequestFree, hkeyFree, hsnapshots⟩
    apply Drafts.atCommit_rest _ hadded
    · intro own' reserved hrow hmine hopen hlast hreserved hsame
      have hkeeps := hlast.keeps (List.forall_mem_cons.mpr ⟨fun row hfound =>
        (Option.some.inj (hrow.symm.trans hfound)) ▸ hopen, hadding⟩)
      apply Effect.records _ _ reserved
      constructor
      · exact ⟨hcapacity, hlast.events, hkeeps⟩
      · exact hkeyFree
      · exact hrequestFree
      · exact hrow
      · exact hmine
      · exact hopen
      · intro key
        split_ifs with hkey
        · subst hkey
          rw [hsame _ rfl, List.cons_append, Rows.get_cons_ne (by simp)]
          exact Rows.get_cons_self _ _ _
        · apply hlast.others _ (by simp [IntakeKey.table])
          simp [hkey, hothers (.requestKey key) (by simp [IntakeKey.table])]
      · intro requestId
        split_ifs with hrequest
        · subst hrequest
          rw [hsame _ rfl]
          exact Rows.get_cons_self _ _ _
        · apply hlast.others _ (by simp [IntakeKey.table])
          simp [hrequest, hothers (.request requestId) (by simp [IntakeKey.table])]
      · intro key
        split_ifs with hkey
        · subst hkey
          exact hreserved
        · apply hlast.others _ (by simp [IntakeKey.table])
          simp [hkey, hothers (.reservation key) (by simp [IntakeKey.table])]
    · intro own' reserved hrow hmine hdone hlast
      exact .clashes _ _ reserved ⟨hcapacity, hlast.events, hlast.keeps hadding⟩ hrow hmine
        (Or.inr hdone)
    · simpa using hreservation
  · intro requestId hkey
    have hclash : world.rows.get (IntakeKey.requestKey call.key) ≠ none := by
      intro hnone
      cases hnone.symm.trans hkey
    apply Drafts.atCommit_rest hreservation h
    · intro own' reserved hrow hmine hopen hlast _ _
      have hkeeps := hlast.keeps (List.forall_mem_cons.mpr ⟨fun row hfound =>
        (Option.some.inj (hrow.symm.trans hfound)) ▸ hopen, hsnapshots⟩)
      exact .clashes _ _ reserved ⟨hcapacity, hlast.events, hkeeps⟩ hrow hmine (Or.inl hclash)
    · intro own' reserved hrow hmine _ hlast
      exact .clashes _ _ reserved ⟨hcapacity, hlast.events, hlast.keeps hsnapshots⟩ hrow hmine
        (Or.inl hclash)

theorem atCommit_record_ledger : (record sha256 service call preflight).atCommit intakeEvolution
    (fun after own world => Effect sha256 service world.rows (own ++ world.rows)
      (.submit call (.assessed preflight)) (.submit call after)) [] world := by
  rw [record, atCommit_bind]
  apply atCommit_getByIdempotencyKey (by simp)
  · rw [atCommit_bind]
    apply atCommit_ensureOutboxCapacity_lt (by simp)
    intro hcapacity
    have hlocked : Drafts (call.events preflight) [] world.rows
        ([⟨IntakeKey.outboxCapacity, some (capacityHolders world.rows + 1)⟩] ++ world.rows) :=
      .locked
    rw [atCommit_bind]
    apply atCommit_savePreflightSnapshot
    · intro _
      apply atCommit_adding hcapacity (hlocked.row (.preflightSnapshot preflight.snapshotId)
        (by simp [IntakeKey.table]) _)
      · simp [IntakeKey.table]
      · simp [IntakeKey.table]
    · apply atCommit_adding hcapacity hlocked
      · simp [IntakeKey.table]
      · simp
  · intro record hkey
    exact atCommit_deduplicate (.refl _) rfl hkey

/-- Every transaction of a submission. -/
theorem atCommit_submission {stage : Stage} {body : IntakeTx Stage}
    (hbody : transaction sha256 service call stage = some body) :
    body.atCommit intakeEvolution (fun after own world => Effect sha256 service world.rows
      (own ++ world.rows) (.submit call stage) (.submit call after)) [] world := by
  cases stage with
  | waiting =>
      obtain rfl := Option.some.inj hbody
      exact atCommit_reserve
  | reserved =>
      obtain rfl := Option.some.inj hbody
      exact atCommit_admitCall_ledger
  | lookingUp lookup =>
      obtain rfl := Option.some.inj hbody
      rw [lookUp, atCommit_bind]
      apply (writes_getPreflightCache _ _).atCommit_reads
      rintro (_ | found)
      · exact .other _ _ (.refl _) rfl (Or.inl rfl)
      · exact .other _ _ (.refl _) rfl (Or.inl rfl)
  | budgeting lookup =>
      obtain rfl := Option.some.inj hbody
      rw [budget, atCommit_bind]
      apply (writes_consumeBudget _ _ _ _ _ _).atCommit_written
      intro _ written hwritten
      rw [List.append_nil]
      exact .other _ _ (same_of_written hwritten (by simp)) rfl (Or.inl rfl)
  | caching lookup found =>
      obtain rfl := Option.some.inj hbody
      rw [cache, atCommit_bind]
      apply (writes_savePreflightCache _ _).atCommit_written
      intro _ written hwritten
      rw [List.append_nil]
      exact .other _ _ (same_of_written hwritten (by simp)) rfl (Or.inl rfl)
  | assessed preflight =>
      obtain rfl := Option.some.inj hbody
      exact atCommit_record_ledger
  | projected record =>
      obtain rfl := Option.some.inj hbody
      rw [markProjected, atCommit_bind]
      apply atCommit_markProjected
      intro written hsame
      rw [List.append_nil]
      exact .other _ _ hsame rfl (Or.inl rfl)
  | _ => cases hbody

/-- Every transaction of a dispatcher. -/
theorem atCommit_dispatch {dispatch : Dispatch} {stage : Dispatch.Stage}
    {body : IntakeTx Dispatch.Stage} (hbody : dispatch.transaction stage = some body) :
    body.atCommit intakeEvolution (fun _ own world =>
      IntakeSame world.rows (own ++ world.rows)) [] world := by
  cases stage with
  | claiming =>
      obtain rfl := Option.some.inj hbody
      rw [Dispatch.claim, atCommit_bind]
      apply atCommit_claimPending
      exact fun _ _ hsame => hsame
  | delivering events =>
      cases events with
      | nil => cases hbody
      | cons event rest =>
          obtain rfl := Option.some.inj hbody
          rw [Dispatch.deliver]
          split
          · rw [atCommit_bind]
            apply (writes_getByRequestId _).atCommit_reads
            rintro (_ | record)
            · trivial
            · exact .refl _
          · rw [atCommit_bind]
            apply atCommit_markOutboxPublished
            intro written hsame
            rw [List.append_nil]
            exact hsame
  | marking record eventId rest =>
      obtain rfl := Option.some.inj hbody
      rw [Dispatch.mark, PublicIntakeOutboxDispatcher.mark, atCommit_bind, atCommit_bind]
      apply atCommit_markProjected
      intro projected hprojected
      apply atCommit_markOutboxPublished
      intro published hpublished
      rw [List.append_nil] at hpublished ⊢
      rw [atCommit_pure, List.append_assoc]
      exact hprojected.trans hpublished
  | _ => cases hbody

theorem answer_recover {stage : Stage} {error : Failure} :
    (Session.submit call (recover stage error)).answer = (Session.submit call stage).answer := by
  cases stage <;> rfl

/-- Nothing that is done outside changes the answer. -/
theorem Session.Acts.answer {action : Outside} (h : Session.Acts service before action after) :
    after.answer = before.answer := by
  cases h with
  | submit hacts => cases hacts <;> rfl
  | dispatch hacts => rfl

theorem Session.Acts.client {action : Outside} (h : Session.Acts service before action after) :
    after.client = before.client := by
  cases h with
  | submit hacts => rfl
  | dispatch hacts => rfl

/-- Every commit has one of the effects. -/
def effects (sha256 : String → String) (service : PublicIntakeService) :
    Certificate (flow sha256 service) intakeEvolution where
  knows _ _ := True
  does before after own world := Effect sha256 service world.rows (own ++ world.rows) before after
  stable _ _ := trivial
  code_ok {session p world} hcode _ := by
    cases session with
    | submit call stage =>
        obtain ⟨body, hbody, rfl⟩ := Option.map_eq_some_iff.mp hcode
        rw [atCommit_bind]
        exact atCommit_submission hbody
    | dispatch call stage =>
        obtain ⟨body, hbody, rfl⟩ := Option.map_eq_some_iff.mp hcode
        rw [atCommit_bind]
        apply atCommit_mono _ (atCommit_dispatch hbody)
        exact fun _ _ hsame => .other _ _ hsame rfl (Or.inl rfl)
  commit_ok hdoes _ := ⟨hdoes.keeps, trivial⟩
  recover_ok _ _ := trivial
  outside_ok _ _ := ⟨.refl _, trivial⟩
  drift_ok _ := .refl _

/-- A transaction of a submission that is alone. -/
theorem run_submission {stage after : Stage} {body : IntakeTx Stage} {own : IntakeRows}
    (hbody : transaction sha256 service call stage = some body)
    (hexecute : body.execute world.env world.rows [] = .ok (after, own)) :
    Run (flow sha256 service) (Sys.start world fun _ : Unit => .submit call stage)
      [.committed () (.submit call stage) (.submit call after) own]
      (Sys.start (world.commit own) fun _ => .submit call after) := by
  have hcode : (flow sha256 service).code (.submit call stage) =
      some (body >>= fun after => Pure.pure (.submit call after)) :=
    congrArg (Option.map _) hbody
  have hresult : (body >>= fun after => Pure.pure (Session.submit call after)).execute
      world.env world.rows [] = .ok (.submit call after, own) := by
    rw [execute_bind, hexecute]
    rfl
  have hrun := @run_transaction_start _ _ _ _ _ _ _ _ _ (flow sha256 service) world
    (fun _ : Unit => Session.submit call stage) () _ _ _ hcode hresult
  have hupdate : Function.update (fun _ : Unit => Session.submit call stage) ()
      (Session.submit call after) = fun _ => Session.submit call after := by
    funext _
    rfl
  rw [hupdate] at hrun
  exact hrun

end PublicIntakeService

end ShemaPlatform
