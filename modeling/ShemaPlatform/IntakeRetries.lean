/-
What becomes of a key of the public intake whose call raised after it had reserved
it: who is turned away from it, and until when.
-/
import ShemaPlatform.AcceptedOnce

namespace ShemaPlatform

open Calendar ReadCommitted ReadCommitted.Prog PublicIntakeRepository

namespace PublicIntakeService

/-- What a call is told whose key another one has reserved. -/
def alreadyInProgress : Failure :=
  .idempotencyConflict
    "public intake request with this idempotency key is already in progress"

/-- A call of `submit` is turned away at its reservation. -/
def TurnedAway (sha256 : String → String) (service : PublicIntakeService) (call : Submission)
    (world : World (IntakeKey → Bool) IntakeRow) : Prop :=
  (reserve sha256 service call).atomically world.env world.rows = .error alreadyInProgress

/-- What a call must bring to reserve its key. -/
structure Reservable (sha256 : String → String) (service : PublicIntakeService)
    (call : Submission) : Prop where
  edge : validateEdgeProof service call = .ok ()
  key : PyText.blank call.key = false
  requestHash : PyText.blank (call.payload.requestHash sha256) = false
  requestId : PyText.blank call.requestId = false

/-- Between the reservation and the answer. -/
def Stage.running : Stage → Bool
  | .waiting => false
  | .returned _ => false
  | .raised _ => false
  | _ => true

/-- A call that goes on for the key. -/
inductive Running (key : String) :
    Phase (IntakeKey → Bool) IntakeRow Failure Session → Prop where
  | idle (call : Submission) (stage : Stage) (hkey : call.key = key)
      (hrunning : stage.running = true) : Running key (.idle (.submit call stage))
  | busy (call : Submission) (stage : Stage) (rest : IntakeTx Session) (own : IntakeRows)
      (held : List IntakeKey) (hkey : call.key = key) (hrunning : stage.running = true) :
      Running key (.busy (.submit call stage) rest own held)

/-- The reservation of its key is the one that the call made, and still open. -/
def Holds (rows : IntakeRows) (call : Submission) : Prop :=
  ∃ row : IntakeReservationRow, rows.get (IntakeKey.reservation call.key) = some row ∧
    row.completedAt = none ∧ row.requestId = call.requestId

section Reservations

variable {sha256 : String → String} {service : PublicIntakeService} {call : Submission}
  {locked : IntakeKey → Bool} {rows : IntakeRows}

theorem turnedAway_iff_execute : TurnedAway sha256 service call ⟨locked, rows⟩ ↔
    (reserve sha256 service call).execute locked rows [] = .error alreadyInProgress := by
  rw [TurnedAway, atomically]
  cases (reserve sha256 service call).execute locked rows [] with
  | ok outcome => simp
  | error error => simp

/-- The edge proof is refused for what it is. -/
theorem validateEdgeProof_ne : validateEdgeProof service call ≠ .error alreadyInProgress := by
  intro h
  delta validateEdgeProof at h
  simp only [bind_eq_error, require_eq_error, alreadyInProgress, reduceCtorEq, and_false,
    false_or] at h
  rcases h with ⟨_, _, _, _, h⟩
  split at h
  · simp only [bind_eq_error, require_eq_error, reduceCtorEq, and_false, false_or,
      exists_const] at h
  · cases h

/-- A call that cannot reserve its key is told so. -/
theorem not_turnedAway (h : ¬ Reservable sha256 service call) :
    ¬ TurnedAway sha256 service call ⟨locked, rows⟩ := by
  rw [turnedAway_iff_execute]
  cases hedge : validateEdgeProof service call with
  | error error =>
      intro herror
      simp only [reserve, execute_bind, hedge, execute_lift_error, Except.error.injEq] at herror
      exact validateEdgeProof_ne (hedge.trans (congrArg Except.error herror))
  | ok _ =>
      have hblank : (!PyText.blank call.key && !PyText.blank (call.payload.requestHash sha256) &&
          !PyText.blank call.requestId) = false := by
        apply Bool.eq_false_iff.mpr
        intro hall
        simp only [Bool.and_eq_true, Bool.not_eq_true'] at hall
        exact h ⟨hedge, hall.1.1, hall.1.2, hall.2⟩
      simp [reserve, reserveIdempotency, execute_bind, hedge, hblank, require, alreadyInProgress]

/-- A key that is free, or whose lease has run out, is reserved. -/
theorem execute_reserve_free (h : Reservable sha256 service call)
    (hprior : ∀ row : IntakeReservationRow,
      rows.get (IntakeKey.reservation call.key) = some row →
        row.completedAt = none ∧ row.leasedUntil ≤ call.reservedAt) :
    ∃ own, (reserve sha256 service call).execute locked rows [] = .ok (.reserved, own) := by
  cases hrow : rows.get (IntakeKey.reservation call.key) with
  | none =>
      simp [reserve, reserveIdempotency, execute_bind, execute_upsertWhere, h.edge, h.key,
        h.requestHash, h.requestId, hrow, require]
  | some row =>
      simp [reserve, reserveIdempotency, execute_bind, execute_upsertWhere, h.edge, h.key,
        h.requestHash, h.requestId, hrow, require, hprior row hrow]

/-- The key of another call that goes on, for all that its reservation tells. -/
theorem execute_reserve_open (h : Reservable sha256 service call) {row : IntakeReservationRow}
    (hrow : rows.get (IntakeKey.reservation call.key) = some row)
    (hopen : row.completedAt = none) (hhash : row.requestHash = call.payload.requestHash sha256)
    (hlease : call.reservedAt < row.leasedUntil) :
    (reserve sha256 service call).execute locked rows [] = .error alreadyInProgress := by
  simp [reserve, reserveIdempotency, execute_bind, execute_upsertWhere, h.edge, h.key,
    h.requestHash, h.requestId, hrow, require, hopen, hhash, hlease, alreadyInProgress,
    not_le.mpr hlease]

/-- The key of a request that is on record. -/
theorem execute_reserve_completed (h : Reservable sha256 service call)
    {row : IntakeReservationRow}
    (hrow : rows.get (IntakeKey.reservation call.key) = some row)
    (hhash : row.requestHash = call.payload.requestHash sha256)
    (hdone : row.completedAt ≠ none) :
    (reserve sha256 service call).execute locked rows [] ≠ .error alreadyInProgress := by
  have hsome : row.completedAt.isSome = true := Option.isSome_iff_ne_none.mpr hdone
  cases hkey : rows.get (IntakeKey.requestKey call.key) with
  | none =>
      simp [reserve, reserveIdempotency, execute_bind, execute_upsertWhere, h.edge, h.key,
        h.requestHash, h.requestId, hrow, require, hdone, hhash, hsome, getByIdempotencyKey, hkey,
        alreadyInProgress]
  | some requestId =>
      cases hrequest : rows.get (IntakeKey.request requestId) with
      | none =>
          simp [reserve, reserveIdempotency, execute_bind, execute_upsertWhere, h.edge, h.key,
            h.requestHash, h.requestId, hrow, require, hdone, hhash, hsome, getByIdempotencyKey,
            hkey, load, hrequest, alreadyInProgress]
      | some request =>
          cases hsnapshot : rows.get (IntakeKey.preflightSnapshot request.preflightSnapshotId) with
          | none =>
              simp [reserve, reserveIdempotency, execute_bind, execute_upsertWhere, h.edge, h.key,
                h.requestHash, h.requestId, hrow, require, hdone, hhash, hsome,
                getByIdempotencyKey, hkey, load, hrequest, snapshotOf, hsnapshot,
                alreadyInProgress]
          | some snapshot =>
              simp [reserve, reserveIdempotency, execute_bind, execute_upsertWhere, h.edge, h.key,
                h.requestHash, h.requestId, hrow, require, hdone, hhash, hsome,
                getByIdempotencyKey, hkey, load, hrequest, snapshotOf, hsnapshot]

/-- The key of another payload. -/
theorem execute_reserve_conflict (h : Reservable sha256 service call)
    {row : IntakeReservationRow}
    (hrow : rows.get (IntakeKey.reservation call.key) = some row)
    (hhash : row.requestHash ≠ call.payload.requestHash sha256)
    (htaken : ¬ (row.completedAt = none ∧ row.leasedUntil ≤ call.reservedAt)) :
    (reserve sha256 service call).execute locked rows [] ≠ .error alreadyInProgress := by
  simp [reserve, reserveIdempotency, execute_bind, execute_upsertWhere, h.edge, h.key,
    h.requestHash, h.requestId, hrow, require, hhash, htaken, alreadyInProgress]

/-- Who is turned away: whose key carries an open reservation with the same payload,
under a lease that has not run out. -/
theorem turnedAway_iff : TurnedAway sha256 service call ⟨locked, rows⟩ ↔
    Reservable sha256 service call ∧ ∃ row : IntakeReservationRow,
      rows.get (IntakeKey.reservation call.key) = some row ∧ row.completedAt = none ∧
        row.requestHash = call.payload.requestHash sha256 ∧
          call.reservedAt < row.leasedUntil := by
  constructor
  · intro hturned
    have h : Reservable sha256 service call := by
      by_contra hnot
      exact not_turnedAway hnot hturned
    rw [turnedAway_iff_execute] at hturned
    have hfree : ∀ own, (reserve sha256 service call).execute locked rows [] ≠
        .ok (.reserved, own) := by
      intro own hfree
      rw [hturned] at hfree
      cases hfree
    cases hrow : rows.get (IntakeKey.reservation call.key) with
    | none =>
        have hunreserved : ∀ row : IntakeReservationRow,
            rows.get (IntakeKey.reservation call.key) = some row →
              row.completedAt = none ∧ row.leasedUntil ≤ call.reservedAt := by
          intro row hsome
          cases hrow.symm.trans hsome
        rcases execute_reserve_free h hunreserved with ⟨own, hreserved⟩
        exact absurd hreserved (hfree own)
    | some row =>
        by_cases hprior : row.completedAt = none ∧ row.leasedUntil ≤ call.reservedAt
        · have hlapsed : ∀ found : IntakeReservationRow,
              rows.get (IntakeKey.reservation call.key) = some found →
                found.completedAt = none ∧ found.leasedUntil ≤ call.reservedAt := by
            intro found hfound
            obtain rfl := Option.some.inj (hrow.symm.trans hfound)
            exact hprior
          rcases execute_reserve_free h hlapsed with ⟨own, hreserved⟩
          exact absurd hreserved (hfree own)
        · by_cases hhash : row.requestHash = call.payload.requestHash sha256
          · by_cases hdone : row.completedAt = none
            · exact ⟨h, row, rfl, hdone, hhash, not_le.mp fun hle => hprior ⟨hdone, hle⟩⟩
            · exact absurd hturned (execute_reserve_completed h hrow hhash hdone)
          · exact absurd hturned (execute_reserve_conflict h hrow hhash hprior)
  · intro ⟨h, row, hrow, hopen, hhash, hlease⟩
    rw [turnedAway_iff_execute]
    exact execute_reserve_open h hrow hopen hhash hlease

end Reservations

section Retries

variable {ι : Type} {sha256 : String → String} {service : PublicIntakeService}
  {session state : ι → Session} {rows : IntakeRows} {locked : IntakeKey → Bool}
  {later : Submission}

/-- Who is turned away, from the calls that have reserved the key. -/
theorem Ledger.turnedAway_iff (h : Ledger sha256 session state rows)
    (hown : OwnRequests session) : TurnedAway sha256 service later ⟨locked, rows⟩ ↔
      Reservable sha256 service later ∧ ∃ client call, (session client).client = .inl call ∧
        call.key = later.key ∧ Holds rows call ∧
          call.payload.requestHash sha256 = later.payload.requestHash sha256 ∧
            later.reservedAt < call.reservedAt + seconds 120 := by
  rw [PublicIntakeService.turnedAway_iff]
  constructor
  · intro ⟨hreservable, row, hrow, hopen, hhash, hlease⟩
    rcases h.reserved later.key row hrow with ⟨client, call, hcall, hreserves⟩
    constructor
    · exact hreservable
    · use client, call
      constructor
      · exact hcall
      · constructor
        · exact hreserves.key
        · constructor
          · exact ⟨row, by rw [hreserves.key]; exact hrow, hopen, hreserves.requestId⟩
          · constructor
            · exact hreserves.requestHash.symm.trans hhash
            · rwa [← hreserves.leasedUntil]
  · intro ⟨hreservable, client, call, hcall, hkey, hholds, hhash, hlease⟩
    rcases hholds with ⟨row, hrow, hopen, hmine⟩
    have hreserves := h.reserved_by hown hcall hrow hmine
    constructor
    · exact hreservable
    · use row
      constructor
      · rw [← hkey]
        exact hrow
      · constructor
        · exact hopen
        · constructor
          · exact hreserves.requestHash.trans hhash
          · rwa [hreserves.leasedUntil]

/-- In every reachable state a call is turned away only while another call of its key
goes on, exactly when one does, or the call that holds the key has reserved it 120
seconds before, or has another payload. -/
theorem turned_away_in_progress_iff [DecidableEq ι] {events : List (IntakeEvent ι)}
    {last : IntakeSys ι} (hfresh : ∀ client, (session client).fresh)
    (hown : OwnRequests session)
    (hrun : Run (flow sha256 service) (Sys.start ⟨locked, []⟩ session) events last)
    (later : Submission) :
    (TurnedAway sha256 service later last.world →
        ∃ client, Running later.key (last.phase client)) ↔
      (∃ client, Running later.key (last.phase client)) ∨
        (Reservable sha256 service later → ∀ client call,
          (session client).client = .inl call → call.key = later.key →
            Holds last.world.rows call →
              call.payload.requestHash sha256 = later.payload.requestHash sha256 →
                call.reservedAt + seconds 120 ≤ later.reservedAt) := by
  have hledger := ledger_of_run hfresh hown hrun
  have hturned := @Ledger.turnedAway_iff ι sha256 service session last.states last.world.rows
    last.world.env later hledger hown
  constructor
  · intro hclaim
    by_cases hrunning : ∃ client, Running later.key (last.phase client)
    · exact Or.inl hrunning
    · apply Or.inr
      intro hreservable client call hcall hkey hholds hhash
      by_contra hearly
      exact hrunning (hclaim (hturned.mpr
        ⟨hreservable, client, call, hcall, hkey, hholds, hhash, not_le.mp hearly⟩))
  · intro hcondition hrejected
    rcases hcondition with hrunning | hlate
    · exact hrunning
    · rcases hturned.mp hrejected with
        ⟨hreservable, client, call, hcall, hkey, hholds, hhash, hearly⟩
      exact absurd (hlate hreservable client call hcall hkey hholds hhash) (not_le.mpr hearly)

end Retries

section Sample

/-- A number in superscript digits, at which the preflight raises. -/
def superscriptCall : Submission :=
  { sampleCall with payload := { sampleCall.payload with inn := some "²²²²²²²²²²" } }

/-- The same submission ten seconds later. -/
def retryCall : Submission :=
  { superscriptCall with requestId := "request-2", reservedAt := seconds 10 }

def superscriptRaised : Failure :=
  .valueError "invalid literal for int() with base 10: '²'"

theorem run_superscript : Run (flow sampleDigest tightService)
    (Sys.start ⟨fun _ => false, []⟩ fun _ : Unit => .submit superscriptCall .waiting)
    [.committed () (.submit superscriptCall .waiting) (.submit superscriptCall .reserved)
        reservedRows,
      .committed () (.submit superscriptCall .reserved)
        (.submit superscriptCall (.raised superscriptRaised)) admittedRows]
    (Sys.start ⟨fun _ => false, admittedRows ++ reservedRows⟩
      fun _ => .submit superscriptCall (.raised superscriptRaised)) := by
  have hreserve : (reserve sampleDigest tightService superscriptCall).execute (fun _ => false)
      [] [] = .ok (.reserved, reservedRows) := by
    with_unfolding_all rfl
  have hpassed : (admitCall sampleDigest tightService superscriptCall).execute (fun _ => false)
      (reservedRows ++ []) [] = .ok (.raised superscriptRaised, admittedRows) := by
    with_unfolding_all rfl
  have hfirst : Run (flow sampleDigest tightService)
      (Sys.start ⟨fun _ => false, []⟩ fun _ : Unit => .submit superscriptCall .waiting) _ _ :=
    run_submission rfl hreserve
  have hsecond : Run (flow sampleDigest tightService)
      (Sys.start ⟨fun _ => false, reservedRows ++ []⟩
        fun _ : Unit => .submit superscriptCall .reserved) _ _ :=
    run_submission rfl hpassed
  exact hfirst.trans hsecond

/-- What the run has come to. -/
def superscriptLast : IntakeSys Unit :=
  Sys.start ⟨fun _ => false, admittedRows ++ reservedRows⟩
    fun _ => .submit superscriptCall (.raised superscriptRaised)

theorem fresh_superscript : ∀ client : Unit,
    ((fun _ => .submit superscriptCall .waiting : Unit → Session) client).fresh :=
  fun _ => rfl

theorem own_superscript :
    OwnRequests (fun _ : Unit => Session.submit superscriptCall .waiting) :=
  fun _ _ _ _ _ _ _ => rfl

theorem turned_away_in_progress_iff_retry :
    (TurnedAway sampleDigest tightService retryCall superscriptLast.world →
        ∃ client, Running retryCall.key (superscriptLast.phase client)) ↔
      (∃ client, Running retryCall.key (superscriptLast.phase client)) ∨
        (Reservable sampleDigest tightService retryCall → ∀ (_ : Unit) call,
          (Session.submit superscriptCall .waiting).client = .inl call →
            call.key = retryCall.key → Holds superscriptLast.world.rows call →
              call.payload.requestHash sampleDigest =
                retryCall.payload.requestHash sampleDigest →
                call.reservedAt + seconds 120 ≤ retryCall.reservedAt) :=
  turned_away_in_progress_iff fresh_superscript own_superscript run_superscript retryCall

/-- Nobody goes on for the key, and yet it is in progress. -/
theorem retry_turned_away : ∃ (events : List (IntakeEvent Unit)) (last : IntakeSys Unit),
    Run (flow sampleDigest tightService) (Sys.start ⟨fun _ => false, []⟩
        fun _ => .submit superscriptCall .waiting) events last ∧
      Event.committed () (.submit superscriptCall .waiting) (.submit superscriptCall .reserved)
        reservedRows ∈ events ∧
      last.phase () = .idle (.submit superscriptCall (.raised superscriptRaised)) ∧
      retryCall.key = superscriptCall.key ∧ retryCall.payload = superscriptCall.payload ∧
      TurnedAway sampleDigest tightService retryCall last.world ∧
      ¬ ∃ client, Running retryCall.key (last.phase client) := by
  refine ⟨_, _, run_superscript, List.mem_cons_self, rfl, rfl, rfl, ?_, ?_⟩
  · rw [TurnedAway]
    with_unfolding_all rfl
  · rintro ⟨client, hrunning⟩
    cases hrunning with
    | idle call stage hkey hgoes => cases hgoes

end Sample

end PublicIntakeService

end ShemaPlatform
