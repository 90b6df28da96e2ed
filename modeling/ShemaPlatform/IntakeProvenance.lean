/-
Where the snapshots, the events and the records come from that the clients of the
public intake hold, in every run.
-/
import ShemaPlatform.IntakeChanges

namespace ShemaPlatform

open Calendar ReadCommitted ReadCommitted.Prog PublicIntakeRepository

/-- The rows of the intake hang together: a snapshot is one that is known, a request is
the one under its key, an event is stored under its own id. -/
structure IntakeSound (known : CounterpartyPreflightSnapshot → Prop) (rows : IntakeRows) :
    Prop where
  snapshots : ∀ snapshotId (row : IntakeSnapshotRow),
    rows.get (IntakeKey.preflightSnapshot snapshotId) = some row →
      row.snapshot.snapshotId = snapshotId ∧ known row.snapshot
  requestKeys : ∀ requestId (row : IntakeRequestRow),
    rows.get (IntakeKey.request requestId) = some row →
      rows.get (IntakeKey.requestKey row.idempotencyKey) = some requestId
  events : ∀ eventId row, intakeEventAt rows eventId = some row → row.event.eventId = eventId

/-- A record is the request of this id with a known snapshot. -/
structure Loaded (known : CounterpartyPreflightSnapshot → Prop) (rows : IntakeRows)
    (record : PublicIntakeRecord) : Prop where
  loaded : ∃ (row : IntakeRequestRow) (projectedAt : Option Instant)
      (snapshot : CounterpartyPreflightSnapshot),
    rows.get (IntakeKey.request record.requestId) = some row ∧
      record = toRecord record.requestId { row with projectedAt } snapshot ∧
      known snapshot ∧ snapshot.snapshotId = row.preflightSnapshotId

namespace PublicIntakeService

/-- The request that a submission has stored itself, not found. -/
def Session.made : Session → Option (Submission × PublicIntakeRecord)
  | .submit call (.recorded record) => some (call, record)
  | .submit call (.projected record) => some (call, record)
  | .submit call (.returned result) =>
      if result.deduplicated then none else some (call, result.record)
  | _ => none

/-- The snapshot that a submission carries. -/
def Session.carried : Session → Option CounterpartyPreflightSnapshot
  | .submit _ (.caching _ preflight) => some preflight
  | .submit _ (.assessed preflight) => some preflight
  | session => session.made.map fun made => made.2.preflight

/-- The events that a dispatcher has claimed and not yet delivered. -/
def Session.undelivered : Session → List PublicIntakeOutboxEvent
  | .dispatch _ (.delivering events) => events
  | .dispatch _ (.projecting _ _ rest) => rest
  | .dispatch _ (.marking _ _ rest) => rest
  | _ => []

/-- The record that a dispatcher delivers, with the event it does so for. -/
def Session.inHand : Session → Option (PublicIntakeRecord × String)
  | .dispatch _ (.projecting record eventId _) => some (record, eventId)
  | .dispatch _ (.marking record eventId _) => some (record, eventId)
  | _ => none

/-- The record that a dispatcher has projected and not yet marked. -/
def Session.marks : Session → Option PublicIntakeRecord
  | .dispatch _ (.marking record _ _) => some record
  | _ => none

/-- The company that a submission asks the registry for. -/
def Session.looksUp : Session → Option (Submission × PreflightLookup)
  | .submit call (.lookingUp lookup) => some (call, lookup)
  | .submit call (.budgeting lookup) => some (call, lookup)
  | .submit call (.asking lookup) => some (call, lookup)
  | _ => none

/-- A submission that has not assessed its company yet. -/
def Session.early : Session → Bool
  | .submit _ .waiting => true
  | .submit _ .reserved => true
  | session => session.looksUp.isSome

/-- What a session holds is stored, and known. -/
structure Session.Knows (sha256 : String → String) (service : PublicIntakeService)
    (known : CounterpartyPreflightSnapshot → Prop) (session : Session) (rows : IntakeRows) :
    Prop where
  unasked : ∀ call, session.client = .inl call → ∀ preflight,
    PublicPreflight.begin service.preflight call.payload call.requestId call.submittedAt =
      .ok (.inl preflight) → known preflight
  lookups : ∀ call lookup, session.looksUp = some (call, lookup) →
    PublicPreflight.begin service.preflight call.payload call.requestId call.submittedAt =
      .ok (.inr lookup)
  carried : ∀ preflight ∈ session.carried, known preflight
  made : ∀ call record, session.made = some (call, record) →
    record = call.record sha256 record.preflight
  undelivered : ∀ event ∈ session.undelivered, ∃ row,
    intakeEventAt rows event.eventId = some row ∧ row.event = event
  inHand : ∀ record eventId, session.inHand = some (record, eventId) →
    Loaded known rows record ∧ ∃ row, intakeEventAt rows eventId = some row ∧
      row.event.requestId = record.requestId ∧ row.event.notifyOperator = true

/-- A request is made by recording it, and stays made. -/
def Session.Makes (sha256 : String → String) (before after : Session) : Prop :=
  after.made = before.made ∨ ∃ call preflight, before = .submit call (.assessed preflight) ∧
    after = .submit call (.recorded (call.record sha256 preflight))

variable {sha256 : String → String} {service : PublicIntakeService}
  {known : CounterpartyPreflightSnapshot → Prop} {call : Submission}
  {preflight : CounterpartyPreflightSnapshot} {rows rows' : IntakeRows}
  {world : World (IntakeKey → Bool) IntakeRow} {session : Session}

theorem Session.Knows.keeps (h : session.Knows sha256 service known rows)
    (hkeeps : IntakeKeeps rows rows') : session.Knows sha256 service known rows' := by
  constructor
  · exact h.unasked
  · exact h.lookups
  · exact h.carried
  · exact h.made
  · intro event hevent
    obtain ⟨row, hrow, rfl⟩ := h.undelivered event hevent
    exact hkeeps.event _ row hrow
  · intro record eventId hinHand
    obtain ⟨⟨row, projectedAt, snapshot, hrow, hrecord, hknown⟩, event, hevent, hsame, hnotify⟩ :=
      h.inHand record eventId hinHand
    obtain ⟨later, hlater⟩ := hkeeps.request _ row hrow
    obtain ⟨event', hevent', hkept⟩ := hkeeps.event eventId event hevent
    constructor
    · exact ⟨⟨_, projectedAt, snapshot, hlater, hrecord, hknown⟩⟩
    · exact ⟨event', hevent', by rw [hkept, hsame], by rw [hkept, hnotify]⟩

/-- How the rows develop, sound as they are. -/
def soundEvolution (known : CounterpartyPreflightSnapshot → Prop) :
    Evolution (IntakeKey → Bool) IntakeRow :=
  intakeEvolution.keeping fun world => IntakeSound known world.rows

/-- What a transaction, or anything else, leaves its session with. -/
structure Leaves (sha256 : String → String) (service : PublicIntakeService)
    (known : CounterpartyPreflightSnapshot → Prop) (before after : Session)
    (rows : IntakeRows) : Prop where
  knows : after.Knows sha256 service known rows
  makes : before.Makes sha256 after
  client : after.client = before.client
  early : after.early = true → before.early = true
  marks : ∀ record, after.marks = some record → before.inHand.map Prod.fst = some record

/-- A submission goes on without making a request. -/
theorem Session.Knows.goes {before after : Stage}
    (h : (Session.submit call before).Knows sha256 service known rows)
    (hmade : (Session.submit call after).made = (Session.submit call before).made)
    (hcarried : ∀ preflight ∈ (Session.submit call after).carried, known preflight)
    (hlookups : ∀ call' lookup, (Session.submit call after).looksUp = some (call', lookup) →
      PublicPreflight.begin service.preflight call'.payload call'.requestId
        call'.submittedAt = .ok (.inr lookup))
    (hearly : (Session.submit call after).early = true →
      (Session.submit call before).early = true) :
    Leaves sha256 service known (.submit call before) (.submit call after) rows := by
  constructor
  · constructor
    · exact h.unasked
    · exact hlookups
    · exact hcarried
    · rw [hmade]
      exact h.made
    · intro event hevent
      cases hevent
    · intro record eventId hinHand
      cases hinHand
  · exact Or.inl hmade
  · rfl
  · exact hearly
  · intro record hmarks
    cases hmarks

/-- It comes to an end, or a step nearer to its preflight. -/
theorem Session.Knows.goes_empty {before after : Stage}
    (h : (Session.submit call before).Knows sha256 service known rows)
    (hmade : (Session.submit call after).made = (Session.submit call before).made)
    (hcarried : (Session.submit call after).carried = none)
    (hlookups : (Session.submit call after).looksUp = none ∨
      (Session.submit call after).looksUp = (Session.submit call before).looksUp)
    (hearly : (Session.submit call after).early = true →
      (Session.submit call before).early = true) :
    Leaves sha256 service known (.submit call before) (.submit call after) rows := by
  apply h.goes
  · exact hmade
  · intro preflight hmem
    rw [hcarried] at hmem
    cases hmem
  · intro call' lookup hlookup
    rcases hlookups with hnone | hsame
    · rw [hnone] at hlookup
      cases hlookup
    · rw [hsame] at hlookup
      exact h.lookups call' lookup hlookup
  · exact hearly

theorem Session.Knows.goes_assessed {before : Stage}
    (h : (Session.submit call before).Knows sha256 service known rows)
    (hmade : (Session.submit call before).made = none) (hknown : known preflight) :
    Leaves sha256 service known (.submit call before) (.submit call (.assessed preflight))
      rows := by
  apply h.goes
  · exact hmade.symm
  · intro found hmem
    obtain rfl := Option.some.inj hmem
    exact hknown
  · intro call' lookup hlookup
    cases hlookup
  · intro hearly
    cases hearly

theorem Session.Knows.goes_known {before : Stage} {record : PublicIntakeRecord}
    (h : (Session.submit call before).Knows sha256 service known rows)
    (hmade : (Session.submit call before).made = none) :
    Leaves sha256 service known (.submit call before)
      (.submit call (.returned (PublicIntakeService.known record))) rows := by
  apply h.goes_empty
  · exact hmade.symm
  · rfl
  · exact Or.inl rfl
  · intro hearly
    cases hearly

/-- What the preflight says without asking anybody. -/
theorem leaves_preflighted
    (h : (Session.submit call .reserved).Knows sha256 service known rows) :
    Leaves sha256 service known (.submit call .reserved)
      (.submit call (service.preflighted call)) rows := by
  unfold preflighted
  cases hbegin : PublicPreflight.begin service.preflight call.payload call.requestId
      call.submittedAt with
  | error error => exact h.goes_empty rfl rfl (Or.inl rfl) fun _ => rfl
  | ok outcome =>
      cases outcome with
      | inl preflight => exact h.goes_assessed rfl (h.unasked call rfl preflight hbegin)
      | inr lookup =>
          change Leaves sha256 service known (.submit call .reserved)
            (.submit call (.lookingUp lookup)) rows
          apply h.goes
          · rfl
          · intro preflight hmem
            cases hmem
          · intro call' lookup' hlookup
            obtain ⟨rfl, rfl⟩ := Prod.mk.inj (Option.some.inj hlookup)
            exact hbegin
          · exact fun _ => rfl

variable {evolution : Evolution (IntakeKey → Bool) IntakeRow} {own : IntakeRows}

theorem atCommit_deduplicate_leaves {before : Stage} {existing : PublicIntakeRecord}
    (h : (Session.submit call before).Knows sha256 service known world.rows)
    (hbefore : (Session.submit call before).made = none) :
    (deduplicate sha256 call existing).atCommit evolution (fun after _ world =>
      Leaves sha256 service known (.submit call before) (.submit call after) world.rows)
      own world := by
  rw [deduplicate, atCommit_bind, atCommit_lift]
  intro _ _
  exact h.goes_known hbefore

theorem atCommit_reserve_leaves
    (h : (Session.submit call .waiting).Knows sha256 service known world.rows) :
    (reserve sha256 service call).atCommit evolution (fun after _ world =>
      Leaves sha256 service known (.submit call .waiting) (.submit call after) world.rows)
      [] world := by
  simp only [reserve, atCommit_bind, atCommit_lift]
  intro _ _
  apply (writes_reserveIdempotency _ _ _ _ _).atCommit_written
  intro reservation _ _
  split
  · rw [atCommit_bind]
    apply (writes_getByIdempotencyKey _).atCommit_reads
    rintro (_ | existing)
    · trivial
    · exact h.goes_known rfl
  · split
    · trivial
    · exact h.goes_empty rfl rfl (Or.inl rfl) fun _ => rfl

theorem atCommit_admitCall_leaves
    (h : (Session.submit call .reserved).Knows sha256 service known world.rows) :
    (admitCall sha256 service call).atCommit evolution (fun after _ world =>
      Leaves sha256 service known (.submit call .reserved) (.submit call after) world.rows)
      [] world := by
  simp only [admitCall, atCommit_bind, atCommit_lift]
  intro _ _
  apply (writes_consumeGlobalCircuit _ _ _).atCommit_written
  intro _ _ _
  apply (writes_ensureOutboxCapacity _).atCommit_written
  intro _ _ _
  apply (writes_getByIdempotencyKey _).atCommit_reads
  rintro (_ | existing)
  · rw [atCommit_bind]
    apply (writes_consumeBudget _ _ _ _ _ _).atCommit_written
    intro _ _ _
    exact leaves_preflighted h
  · exact atCommit_deduplicate_leaves h rfl

/-- A snapshot from the cache is a known one. -/
theorem atCommit_lookUp_leaves {lookup : PreflightLookup}
    (h : (Session.submit call (.lookingUp lookup)).Knows sha256 service known world.rows)
    (hsound : IntakeSound known world.rows) :
    (lookUp call lookup).atCommit (soundEvolution known) (fun after _ world =>
      Leaves sha256 service known (.submit call (.lookingUp lookup)) (.submit call after)
        world.rows) [] world := by
  have hnone : Leaves sha256 service known (.submit call (.lookingUp lookup))
      (.submit call (.budgeting lookup)) world.rows :=
    h.goes_empty rfl rfl (Or.inr rfl) fun _ => rfl
  simp only [lookUp, getPreflightCache, atCommit_bind, atCommit_select]
  intro first _
  cases Rows.get ([] ++ first.rows) (IntakeKey.preflightCache lookup.cacheKey) with
  | none => exact hnone
  | some snapshotId =>
      simp only [snapshotOf, atCommit_bind, atCommit_select]
      intro second hsecond
      rw [List.nil_append]
      cases hrow : second.rows.get (IntakeKey.preflightSnapshot snapshotId) with
      | none => exact hnone
      | some row =>
          have hknown := ((hsecond.evolved.2.mpr hsound).snapshots snapshotId row hrow).2
          simp only [Option.map_some, atCommit_pure]
          cases hfound : (some row.snapshot).filter fun snapshot =>
              decide (call.submittedAt < snapshot.expiresAt) with
          | none => exact hnone
          | some found =>
              obtain rfl := Option.some.inj (Option.filter_eq_some_iff.mp hfound).1
              exact h.goes_assessed rfl hknown

theorem writes_appendSecond (preflight : CounterpartyPreflightSnapshot) :
    WritesTables [.outbox] (appendSecond call preflight) := by
  rw [appendSecond]
  cases call.secondEvent preflight with
  | none => exact WritesTables.pure _
  | some event => exact writes_appendOutbox event

theorem atCommit_record_leaves
    (h : (Session.submit call (.assessed preflight)).Knows sha256 service known world.rows) :
    (record sha256 service call preflight).atCommit evolution (fun after _ world =>
      Leaves sha256 service known (.submit call (.assessed preflight)) (.submit call after)
        world.rows) [] world := by
  have hrecorded : Leaves sha256 service known (.submit call (.assessed preflight))
      (.submit call (.recorded (call.record sha256 preflight))) world.rows := by
    constructor
    · constructor
      · exact h.unasked
      · intro call' lookup hlookup
        cases hlookup
      · intro found hmem
        obtain rfl := Option.some.inj hmem
        exact h.carried preflight rfl
      · intro call' record hsome
        obtain ⟨rfl, rfl⟩ := Prod.mk.inj (Option.some.inj hsome)
        rfl
      · intro event hevent
        cases hevent
      · intro record eventId hinHand
        cases hinHand
    · exact Or.inr ⟨call, preflight, rfl, rfl⟩
    · rfl
    · intro hearly
      cases hearly
    · intro record hmarks
      cases hmarks
  rw [record, atCommit_bind]
  apply (writes_getByIdempotencyKey _).atCommit_reads
  rintro (_ | existing)
  · rw [atCommit_bind]
    apply (writes_ensureOutboxCapacity _).atCommit_written
    intro _ _ _
    rw [atCommit_bind]
    apply (writes_savePreflightSnapshot _).atCommit_written
    intro _ _ _
    rw [atCommit_bind]
    apply (writes_add _).atCommit_written
    intro _ _ _
    rw [atCommit_bind]
    apply (writes_appendOutbox _).atCommit_written
    intro _ _ _
    rw [atCommit_bind]
    apply (writes_completeIdempotency _ _ _).atCommit_written
    intro _ _ _
    rw [atCommit_bind]
    apply (writes_appendSecond _).atCommit_written
    intro _ _ _
    exact hrecorded
  · exact atCommit_deduplicate_leaves h rfl

/-- A request that is stored is the one under its key. -/
theorem atCommit_record_keyed : (record sha256 service call preflight).atCommit intakeEvolution
    (fun _ own world => world.rows.get (IntakeKey.request call.requestId) = none →
      Rows.get (own ++ world.rows) (IntakeKey.request call.requestId) ≠ none →
        Rows.get (own ++ world.rows) (IntakeKey.requestKey call.key) = some call.requestId)
    [] world := by
  rw [record, atCommit_bind]
  apply (writes_getByIdempotencyKey _).atCommit_reads
  rintro (_ | existing)
  · rw [atCommit_bind]
    apply (writes_ensureOutboxCapacity _).atCommit_written
    intro _ capacity hcapacity
    rw [atCommit_bind]
    apply (writes_savePreflightSnapshot _).atCommit_written
    intro _ snapshots hsnapshots
    have helsewhere : Rows.Only (fun key => key.table ∈ [IntakeTable.capacity, .snapshots])
        (snapshots ++ (capacity ++ [])) := by
      rw [List.append_nil]
      exact Rows.only_append.mpr
        ⟨only_tables hsnapshots (by simp), only_tables hcapacity (by simp)⟩
    rw [atCommit_bind]
    have hrest : WritesTables [.outbox, .reservations] (do
        appendOutbox (call.event preflight)
        completeIdempotency call.key call.requestId call.completedAt
        appendSecond call preflight
        Pure.pure (.recorded (call.record sha256 preflight)) : IntakeTx Stage) := by
      apply WritesTables.bind ((writes_appendOutbox _).mono (by simp))
      intro _
      apply WritesTables.bind ((writes_completeIdempotency _ _ _).mono (by simp))
      intro _
      apply WritesTables.bind ((writes_appendSecond _).mono (by simp))
      exact fun _ => WritesTables.pure _
    apply atCommit_add
    · intro key hkey htable
      simpa [htable] using helsewhere key hkey
    · intro _ _
      apply hrest.atCommit_written
      intro _ written hwritten _ _
      rw [List.append_assoc, hwritten.get_append (by simp [IntakeKey.table])]
      rw [List.cons_append, Rows.get_cons_ne (by simp), List.cons_append]
      exact Rows.get_cons_self _ _ _
    · intro _ _
      apply hrest.atCommit_written
      intro _ written hwritten hnone hsome
      rw [List.append_assoc, hwritten.get_append (by simp [IntakeKey.table]),
        helsewhere.get_append (by simp [IntakeKey.table])] at hsome
      exact absurd hnone hsome
  · apply (writes_deduplicate existing).atCommit_reads
    intro _ hnone hsome
    exact absurd hnone hsome

theorem atCommit_submission_leaves {stage : Stage} {body : IntakeTx Stage}
    (hbody : transaction sha256 service call stage = some body)
    (h : (Session.submit call stage).Knows sha256 service known world.rows)
    (hsound : IntakeSound known world.rows) :
    body.atCommit (soundEvolution known) (fun after _ world =>
      Leaves sha256 service known (.submit call stage) (.submit call after) world.rows)
      [] world := by
  cases stage with
  | waiting =>
      obtain rfl := Option.some.inj hbody
      exact atCommit_reserve_leaves h
  | reserved =>
      obtain rfl := Option.some.inj hbody
      exact atCommit_admitCall_leaves h
  | lookingUp lookup =>
      obtain rfl := Option.some.inj hbody
      exact atCommit_lookUp_leaves h hsound
  | budgeting lookup =>
      obtain rfl := Option.some.inj hbody
      rw [budget, atCommit_bind]
      apply (writes_consumeBudget _ _ _ _ _ _).atCommit_written
      intro _ _ _
      exact h.goes_empty rfl rfl (Or.inr rfl) fun _ => rfl
  | caching lookup found =>
      obtain rfl := Option.some.inj hbody
      rw [cache, atCommit_bind]
      apply (writes_savePreflightCache _ _).atCommit_written
      intro _ _ _
      exact h.goes_assessed rfl (h.carried found rfl)
  | assessed preflight =>
      obtain rfl := Option.some.inj hbody
      exact atCommit_record_leaves h
  | projected record =>
      obtain rfl := Option.some.inj hbody
      rw [markProjected, atCommit_bind]
      apply (writes_markProjected _ _).atCommit_written
      intro _ _ _
      exact h.goes rfl h.carried h.lookups id
  | _ => cases hbody

/-- A dispatcher that goes on with what is left. -/
theorem Session.Knows.deliver {dispatch : Dispatch} {before after : Dispatch.Stage}
    (h : (Session.dispatch dispatch before).Knows sha256 service known rows)
    (hundelivered : ∀ event ∈ (Session.dispatch dispatch after).undelivered, ∃ row,
      intakeEventAt rows event.eventId = some row ∧ row.event = event)
    (hinHand : ∀ record eventId, (Session.dispatch dispatch after).inHand =
      some (record, eventId) → Loaded known rows record ∧ ∃ row,
        intakeEventAt rows eventId = some row ∧ row.event.requestId = record.requestId ∧
          row.event.notifyOperator = true)
    (hmarks : ∀ record, (Session.dispatch dispatch after).marks = some record →
      (Session.dispatch dispatch before).inHand.map Prod.fst = some record) :
    Leaves sha256 service known (.dispatch dispatch before) (.dispatch dispatch after)
      rows := by
  constructor
  · constructor
    · exact h.unasked
    · intro call lookup hlookup
      cases hlookup
    · intro preflight hmem
      cases hmem
    · intro maker record hmade
      cases hmade
    · exact hundelivered
    · exact hinHand
  · exact Or.inl rfl
  · rfl
  · intro hearly
    cases hearly
  · exact hmarks

/-- What is claimed is stored. -/
theorem atCommit_claimPending_stored {workerId : String} {leaseSeconds : ℤ} {now : Instant}
    {limit : ℕ} (hsound : IntakeSound known world.rows) :
    (claimPending workerId leaseSeconds now limit).atCommit evolution (fun events _ world =>
      ∀ event ∈ events, ∃ row, intakeEventAt world.rows event.eventId = some row ∧
        row.event = event) [] world := by
  have hrows : ∀ own : IntakeRows, IntakeSame world.rows (own ++ world.rows) →
      ∀ eventId row, Rows.get (own ++ world.rows) (IntakeKey.outboxEvent eventId) = some row →
        ∃ stored, intakeEventAt world.rows row.event.eventId = some stored ∧
          stored.event = row.event := by
    intro own hsame eventId row hrow
    obtain ⟨stored, hstored, hevent, _⟩ := hsame.event_before hrow
    have hid := hsound.events eventId stored hstored
    rw [hevent, hid]
    exact ⟨stored, hstored, rfl⟩
  have heach : ∀ leaseUntil (eventIds : List String) (own : IntakeRows),
      IntakeSame world.rows (own ++ world.rows) →
      (claimEach workerId leaseUntil eventIds).atCommit evolution (fun events _ world =>
        ∀ event ∈ events, ∃ row, intakeEventAt world.rows event.eventId = some row ∧
          row.event = event) own world := by
    intro leaseUntil eventIds
    induction eventIds with
    | nil => exact fun _ _ event hmem => absurd hmem List.not_mem_nil
    | cons eventId rest ih =>
        intro own hsame
        rw [claimEach, atCommit_bind, atCommit_updateWhere]
        constructor
        · intro _ _ _
          rw [atCommit_bind]
          apply atCommit_mono _ (ih own hsame)
          exact fun events _ hevents => hevents
        · intro row row' hrow hchange
          obtain rfl := Option.some.inj hchange
          rw [atCommit_bind]
          have hclaimed := hsame.trans (IntakeSame.of_event hrow rfl id :
            IntakeSame (own ++ world.rows) (⟨IntakeKey.outboxEvent eventId,
              some (claimed workerId leaseUntil row)⟩ :: (own ++ world.rows)))
          apply atCommit_mono _ (ih _ hclaimed)
          intro events _ hevents event hmem
          rcases List.mem_cons.mp hmem with rfl | hrest
          · exact hrows own hsame eventId row hrow
          · exact hevents event hrest
  simp only [claimPending, atCommit_bind, atCommit_lift]
  intro _ _ _ _ _ _ earlier _
  exact heach _ _ [] (.refl _)

/-- A record that is read is the request of its id. -/
theorem atCommit_getByRequestId_loaded {requestId : String}
    (hsound : IntakeSound known world.rows) :
    (getByRequestId requestId).atCommit (soundEvolution known) (fun found _ world =>
      ∀ record ∈ found, record.requestId = requestId ∧ Loaded known world.rows record)
      [] world := by
  have hnone : ∀ record ∈ (none : Option PublicIntakeRecord),
      record.requestId = requestId ∧ Loaded known world.rows record := by
    intro record hmem
    cases hmem
  rw [getByRequestId, atCommit_bind, atCommit_select]
  intro first hfirst
  rw [List.nil_append]
  cases hrequest : first.rows.get (IntakeKey.request requestId) with
  | none => exact hnone
  | some row =>
      obtain ⟨_, hnow⟩ := hfirst.evolved.1.request requestId row hrequest
      have hkey := hsound.requestKeys requestId _ hnow
      simp only [getByIdempotencyKey, atCommit_bind, atCommit_select]
      intro second hsecond
      rw [List.nil_append]
      cases hfound : second.rows.get (IntakeKey.requestKey row.idempotencyKey) with
      | none => exact hnone
      | some found =>
          have hsame := hsecond.evolved.1.requestKey _ found hfound
          obtain rfl := Option.some.inj (hkey.symm.trans hsame)
          simp only [load, atCommit_bind, atCommit_select]
          intro third hthird
          rw [List.nil_append]
          cases hagain : third.rows.get (IntakeKey.request requestId) with
          | none => exact hnone
          | some row =>
              obtain ⟨projectedAt, hlast⟩ :=
                hthird.evolved.1.request requestId row hagain
              simp only [snapshotOf, atCommit_bind, atCommit_select, atCommit_pure]
              intro fourth hfourth
              rw [List.nil_append]
              cases hsnapshot : fourth.rows.get
                  (IntakeKey.preflightSnapshot row.preflightSnapshotId) with
              | none => trivial
              | some stored =>
                  obtain ⟨hid, hknown⟩ := (hfourth.evolved.2.mpr hsound).snapshots _ stored
                    hsnapshot
                  intro record hmem
                  obtain rfl := Option.some.inj hmem
                  exact ⟨rfl, ⟨⟨_, row.projectedAt, stored.snapshot, hlast, rfl, hknown,
                    hid⟩⟩⟩

theorem atCommit_dispatch_leaves {dispatch : Dispatch} {stage : Dispatch.Stage}
    {body : IntakeTx Dispatch.Stage} (hbody : dispatch.transaction stage = some body)
    (h : (Session.dispatch dispatch stage).Knows sha256 service known world.rows)
    (hsound : IntakeSound known world.rows) :
    body.atCommit (soundEvolution known) (fun after _ world =>
      Leaves sha256 service known (.dispatch dispatch stage) (.dispatch dispatch after)
        world.rows) [] world := by
  have hidle : ∀ events : List PublicIntakeOutboxEvent, (∀ event ∈ events,
      event ∈ (Session.dispatch dispatch stage).undelivered) →
      Leaves sha256 service known (.dispatch dispatch stage)
        (.dispatch dispatch (.delivering events)) world.rows := by
    intro events hevents
    apply h.deliver
    · exact fun event hmem => h.undelivered event (hevents event hmem)
    · intro record eventId hinHand
      cases hinHand
    · intro record hmarks
      cases hmarks
  cases stage with
  | claiming =>
      obtain rfl := Option.some.inj hbody
      rw [Dispatch.claim, atCommit_bind]
      apply atCommit_mono _ (atCommit_claimPending_stored hsound)
      intro events _ hevents
      apply h.deliver
      · exact hevents
      · intro record eventId hinHand
        cases hinHand
      · intro record hmarks
        cases hmarks
  | delivering events =>
      cases events with
      | nil => cases hbody
      | cons event rest =>
          obtain rfl := Option.some.inj hbody
          obtain ⟨row, hrow, hevent⟩ := h.undelivered event List.mem_cons_self
          rw [Dispatch.deliver]
          cases hnotify : event.notifyOperator with
          | true =>
              rw [if_pos rfl, atCommit_bind]
              apply atCommit_mono _ (atCommit_getByRequestId_loaded hsound)
              rintro (_ | record) _ hloaded
              · trivial
              · obtain ⟨hsame, hrecord⟩ := hloaded record rfl
                apply h.deliver
                · exact fun later hmem => h.undelivered later (List.mem_cons_of_mem _ hmem)
                · intro found eventId hinHand
                  obtain ⟨rfl, rfl⟩ := Prod.mk.inj (Option.some.inj hinHand)
                  exact ⟨hrecord, row, hrow, by rw [hevent, hsame], by rw [hevent, hnotify]⟩
                · intro found hmarks
                  cases hmarks
          | false =>
              rw [if_neg (by simp), atCommit_bind]
              apply (writes_markOutboxPublished _ _ _).atCommit_written
              intro _ _ _
              exact hidle rest fun later hmem => List.mem_cons_of_mem _ hmem
  | marking record eventId rest =>
      obtain rfl := Option.some.inj hbody
      rw [Dispatch.mark, PublicIntakeOutboxDispatcher.mark, atCommit_bind, atCommit_bind]
      apply (writes_markProjected _ _).atCommit_written
      intro _ _ _
      apply (writes_markOutboxPublished _ _ _).atCommit_written
      intro _ _ _
      exact hidle rest fun later hmem => hmem
  | _ => cases hbody

/-- What a commit does: rows change as permitted and stay sound, and the session knows
what it holds. -/
structure Proceeds (sha256 : String → String) (service : PublicIntakeService)
    (known : CounterpartyPreflightSnapshot → Prop) (before after : Session)
    (rows rows' : IntakeRows) : Prop where
  opened : (flow sha256 service).code before ≠ none
  effect : Effect sha256 service rows rows' before after
  changes : ∀ key, (before.permit sha256).Change key (rows.get key) (rows'.get key)
  keyed : ∀ call preflight, before = .submit call (.assessed preflight) →
    rows.get (IntakeKey.request call.requestId) = none →
      rows'.get (IntakeKey.request call.requestId) ≠ none →
        rows'.get (IntakeKey.requestKey call.key) = some call.requestId
  leaves : Leaves sha256 service known before after rows

/-- Only an assessed submission may store a request. -/
theorem Session.permit_record {record : PublicIntakeRecord}
    (h : record ∈ (session.permit sha256).record) : ∃ call preflight,
      session = .submit call (.assessed preflight) ∧ record = call.record sha256 preflight := by
  unfold Session.permit at h
  split at h
  · exact ⟨_, _, rfl, (Option.some.inj h).symm⟩
  · cases h
  · split at h
    · cases h
    · cases h
  · cases h
  · cases h

/-- A snapshot that may be stored is one that the session carries. -/
theorem Session.permit_snapshot (h : preflight ∈ (session.permit sha256).snapshot) :
    preflight ∈ session.carried := by
  unfold Session.permit at h
  split at h
  · exact h
  · exact h
  · split at h
    · cases h
    · cases h
  · cases h
  · cases h

variable {before after : Session}

theorem Proceeds.keeps (h : Proceeds sha256 service known before after rows rows') :
    IntakeKeeps rows rows' :=
  h.effect.keeps

/-- New requests and events come with the record that a submission makes of them. -/
theorem Proceeds.adds (h : Proceeds sha256 service known before after rows rows') :
    (∃ call preflight, before = .submit call (.assessed preflight) ∧
        after = .submit call (.recorded (call.record sha256 preflight))) ∨
      (∀ requestId, rows.get (IntakeKey.request requestId) = none →
        rows'.get (IntakeKey.request requestId) = none) ∧
        ∀ eventId, intakeEventAt rows eventId = none → intakeEventAt rows' eventId = none := by
  cases h.effect with
  | reserves call hprior hrows =>
      subst hrows
      right
      constructor
      · exact fun requestId hnone => (Rows.get_cons_ne (by simp) _ _).trans hnone
      · exact fun eventId hnone => (Rows.get_cons_ne (by simp) _ _).trans hnone
  | records call preflight reserved hrecords => exact Or.inl ⟨call, preflight, rfl, rfl⟩
  | clashes call preflight reserved happends _ _ _ => exact Or.inl ⟨call, preflight, rfl, rfl⟩
  | other before after hsame _ _ => exact Or.inr ⟨hsame.noRequest, hsame.noEvent⟩

theorem Proceeds.sound (h : Proceeds sha256 service known before after rows rows')
    (hknows : before.Knows sha256 service known rows) (hsound : IntakeSound known rows) :
    IntakeSound known rows' := by
  constructor
  · intro snapshotId row hrow
    rcases h.changes (.preflightSnapshot snapshotId) row hrow with ⟨old, hold, hsame⟩ |
      ⟨hmem, hid⟩
    · rw [hsame]
      exact hsound.snapshots snapshotId old hold
    · exact ⟨hid, hknows.carried _ (Session.permit_snapshot hmem)⟩
  · intro requestId row hrow
    rcases h.changes (.request requestId) row hrow with ⟨old, hold, projectedAt, rfl⟩ |
      ⟨record, hmem, rfl, projectedAt, rfl⟩
    · exact h.keeps.requestKey _ _ (hsound.requestKeys requestId old hold)
    · obtain ⟨call, preflight, hbefore, rfl⟩ := Session.permit_record hmem
      cases hearlier : rows.get (IntakeKey.request call.requestId) with
      | none =>
          apply h.keyed call preflight hbefore hearlier
          intro hnone
          cases hnone.symm.trans hrow
      | some old =>
          obtain ⟨later, hlater⟩ := h.keeps.request _ old hearlier
          have hsame : (old : IntakeRequestRow).idempotencyKey = call.key :=
            congrArg IntakeRequestRow.idempotencyKey (Option.some.inj (hlater.symm.trans hrow))
          have hkey := h.keeps.requestKey _ _ (hsound.requestKeys call.requestId old hearlier)
          rw [hsame] at hkey
          exact hkey
  · intro eventId row hrow
    rcases h.changes (.outboxEvent eventId) row hrow with ⟨old, hold, hsame, _⟩ | ⟨_, hid, _⟩
    · rw [hsame]
      exact hsound.events eventId old hold
    · exact hid

theorem Proceeds.knows (h : Proceeds sha256 service known before after rows rows') :
    after.Knows sha256 service known rows' :=
  h.leaves.knows.keeps h.keeps

/-- The snapshot of an answer of the provider is a known one. -/
def Answered (known : CounterpartyPreflightSnapshot → Prop) (_ : Session) (action : Outside)
    (after : Session) : Prop :=
  ∀ answer, action = .submission (.asked answer) → ∀ preflight ∈ after.carried, known preflight

/-- What is done outside leaves a session with what it knows. -/
theorem Session.Acts.leaves {action : Outside}
    (h : Session.Acts service before action after) (hanswered : Answered known before action after)
    (hknows : before.Knows sha256 service known rows) :
    Leaves sha256 service known before after rows := by
  cases h with
  | @submit call stage stage' action hacts =>
      cases hacts with
      | found lookup answer preflight record hask =>
          apply hknows.goes
          · rfl
          · exact hanswered answer rfl
          · intro call' lookup' hlookup
            cases hlookup
          · intro hearly
            cases hearly
      | unavailable lookup answer preflight hask =>
          exact hknows.goes_assessed rfl (hanswered answer rfl preflight rfl)
      | failed lookup answer error hask =>
          exact hknows.goes_empty rfl rfl (Or.inl rfl) fun _ => rfl
      | projects record => exact hknows.goes rfl hknows.carried hknows.lookups id
      | fails record error => exact hknows.goes rfl hknows.carried hknows.lookups id
  | @dispatch dispatch stage stage' outcome hacts =>
      cases hacts with
      | projects record eventId rest =>
          exact hknows.deliver hknows.undelivered hknows.inHand fun _ hmarks => hmarks
      | fails record eventId rest error =>
          apply hknows.deliver
          · intro event hmem
            cases hmem
          · intro found eventId hinHand
            cases hinHand
          · intro found hmarks
            cases hmarks

/-- An error leaves a session with what it knows. -/
theorem leaves_recover {error : Failure} (hknows : session.Knows sha256 service known rows) :
    Leaves sha256 service known session ((flow sha256 service).recover session error) rows := by
  cases session with
  | submit call stage =>
      cases stage with
      | recorded record => exact hknows.goes rfl hknows.carried hknows.lookups id
      | returned result => exact hknows.goes rfl hknows.carried hknows.lookups id
      | projected record => exact hknows.goes rfl hknows.carried hknows.lookups id
      | _ =>
          apply hknows.goes_empty
          · rfl
          · rfl
          · exact Or.inl rfl
          · intro hearly
            cases hearly
  | dispatch dispatch stage =>
      apply hknows.deliver
      · intro event hmem
        cases hmem
      · intro found eventId hinHand
        cases hinHand
      · intro found hmarks
        cases hmarks

theorem atCommit_code_leaves {p : IntakeTx Session}
    (hcode : (flow sha256 service).code session = some p)
    (hsound : IntakeSound known world.rows)
    (hknows : session.Knows sha256 service known world.rows) :
    p.atCommit (soundEvolution known) (fun after _ world =>
      Leaves sha256 service known session after world.rows) [] world := by
  cases session with
  | submit call stage =>
      obtain ⟨body, hbody, rfl⟩ := Option.map_eq_some_iff.mp hcode
      rw [atCommit_bind]
      exact atCommit_submission_leaves hbody hknows hsound
  | dispatch dispatch stage =>
      obtain ⟨body, hbody, rfl⟩ := Option.map_eq_some_iff.mp hcode
      rw [atCommit_bind]
      exact atCommit_dispatch_leaves hbody hknows hsound

theorem atCommit_code_keyed {p : IntakeTx Session}
    (hcode : (flow sha256 service).code session = some p) :
    p.atCommit intakeEvolution (fun _ own world => ∀ call preflight,
      session = .submit call (.assessed preflight) →
      world.rows.get (IntakeKey.request call.requestId) = none →
      Rows.get (own ++ world.rows) (IntakeKey.request call.requestId) ≠ none →
        Rows.get (own ++ world.rows) (IntakeKey.requestKey call.key) = some call.requestId)
      [] world := by
  by_cases hassessed : ∃ call preflight, session = .submit call (.assessed preflight)
  · obtain ⟨call, preflight, rfl⟩ := hassessed
    obtain rfl := Option.some.inj hcode
    rw [atCommit_bind]
    apply atCommit_mono _ atCommit_record_keyed
    rintro _ _ hkeyed call' preflight' hsame
    cases hsame
    exact hkeyed
  · apply (writes_code hcode).atCommit_written
    intro _ _ _ call preflight hsame
    exact absurd ⟨call, preflight, hsame⟩ hassessed

/-- Every commit proceeds from what its session knows. -/
def provenance (sha256 : String → String) (service : PublicIntakeService)
    (known : CounterpartyPreflightSnapshot → Prop) :
    Certificate ((flow sha256 service).restrict (Answered known)) (soundEvolution known) where
  knows session world := IntakeSound known world.rows ∧
    session.Knows sha256 service known world.rows
  does before after own world :=
    Proceeds sha256 service known before after world.rows (own ++ world.rows)
  stable hrel hknows := ⟨hrel.2.mp hknows.1, hknows.2.keeps hrel.1⟩
  code_ok {session p world} hcode hknows := by
    have hfiner : ∀ a b, (soundEvolution known).rel a b → intakeEvolution.rel a b :=
      fun _ _ hrel => hrel.1
    have heffect : p.atCommit (soundEvolution known) ((effects sha256 service).does session)
        [] world := atCommit_of_finer hfiner ((effects sha256 service).code_ok hcode trivial)
    have hchanges := @Changes.atCommit _ _ _ _ _ _ _ (soundEvolution known) [] world _
      (changes_code hcode) (Permit.Change.trans _) fun key => Permit.Change.refl _ key _
    have hkeyed := atCommit_of_finer hfiner (@atCommit_code_keyed _ _ world _ _ hcode)
    have hleaves := atCommit_code_leaves hcode hknows.1 hknows.2
    apply atCommit_mono _ (atCommit_and (atCommit_and heffect hchanges)
      (atCommit_and hkeyed hleaves))
    rintro _ _ ⟨⟨hdoes, hpermitted⟩, hkeys, hafter⟩
    have hopened : (flow sha256 service).code session ≠ none := by
      intro hnone
      cases hnone.symm.trans hcode
    exact ⟨hopened, hdoes, hpermitted, hkeys, hafter⟩
  commit_ok hdoes hknows := by
    have hsound := hdoes.sound hknows.2 hknows.1
    exact ⟨⟨hdoes.keeps, iff_of_true hknows.1 hsound⟩, hsound, hdoes.knows⟩
  recover_ok error hknows := ⟨hknows.1, (leaves_recover hknows.2).knows⟩
  outside_ok houtside hknows :=
    ⟨⟨.refl _, Iff.rfl⟩, hknows.1, (houtside.1.2.leaves houtside.2 hknows.2).knows⟩
  drift_ok _ := ⟨.refl _, Iff.rfl⟩

end PublicIntakeService

end ShemaPlatform
