/-
The backlog of the intake outbox, over any number of submissions and dispatchers.
-/
import ShemaPlatform.AdmissionLimits
import ShemaPlatform.GuardedRun
import ShemaPlatform.IntakeEffects

namespace ShemaPlatform

open Calendar ReadCommitted ReadCommitted.Prog PublicIntakeRepository

namespace PublicIntakeService

/-- A request that brings a second event is recorded only where there is room for
two. -/
def HasRoom (service : PublicIntakeService) (world : World (IntakeKey → Bool) IntakeRow) :
    Session → Session → Prop
  | .submit call (.assessed preflight), .submit _ (.recorded _) =>
      (call.secondEvent preflight).isSome → pendingCount world.rows + 2 ≤
        service.maxPendingOutbox
  | _, _ => True

variable {sha256 : String → String} {service : PublicIntakeService} {call : Submission}
  {preflight : CounterpartyPreflightSnapshot} {rows rows' : IntakeRows}

theorem length_events :
    (call.events preflight).length = if (call.secondEvent preflight).isSome then 2 else 1 := by
  rw [Submission.events]
  cases call.secondEvent preflight with
  | none => rfl
  | some event => rfl

theorem Appends.pendingCount_le (h : Appends service call preflight rows rows')
    (hroom : (call.secondEvent preflight).isSome → pendingCount rows + 2 ≤
      service.maxPendingOutbox) : pendingCount rows' ≤ service.maxPendingOutbox := by
  have hcapacity := h.capacity
  have hevents := h.events.pendingCount_le
  rw [length_events] at hevents
  split_ifs at hevents with hsecond
  · exact hevents.trans (hroom hsecond)
  · omega

theorem pendingCount_append {own : IntakeRows} (hown : own.Only fun key => key.table ≠ .outbox) :
    pendingCount (own ++ rows) = pendingCount rows := by
  rw [pendingCount, events_append hown, pendingCount]

theorem pendingCount_same (h : IntakeSame rows rows') : pendingCount rows' ≤ pendingCount rows := by
  rw [← length_pendingIds, ← length_pendingIds]
  apply (List.Nodup.subperm (nodup_pendingIds rows') _).length_le
  intro eventId hmem
  obtain ⟨row', hrow', hopen⟩ := mem_pendingIds.mp hmem
  obtain ⟨row, hrow, _, hbefore⟩ := h.event_before hrow'
  exact mem_pendingIds.mpr ⟨row, hrow, hbefore hopen⟩

/-- No transaction that has room lets the backlog grow past the limit. -/
theorem Effect.backlog {before after : Session}
    {world : World (IntakeKey → Bool) IntakeRow}
    (h : Effect sha256 service world.rows rows' before after)
    (hroom : HasRoom service world before after)
    (hbacklog : pendingCount world.rows ≤ service.maxPendingOutbox) :
    pendingCount rows' ≤ service.maxPendingOutbox := by
  cases h with
  | reserves call hprior hrows =>
      subst hrows
      rw [← List.singleton_append, pendingCount_append (by simp [IntakeKey.table])]
      exact hbacklog
  | records call preflight reserved hrecords => exact hrecords.pendingCount_le hroom
  | clashes call preflight reserved happends _ _ _ => exact happends.pendingCount_le hroom
  | other before after hsame _ _ => exact (pendingCount_same hsame).trans hbacklog

/-- Where every request that brings a second event finds room for two, no more than
`max_pending_outbox` events are ever unpublished. -/
theorem backlog_bounded {ι : Type} [DecidableEq ι]
    {world : World (IntakeKey → Bool) IntakeRow} {session : ι → Session}
    {events : List (IntakeEvent ι)} {last : IntakeSys ι}
    (hfirst : pendingCount world.rows ≤ service.maxPendingOutbox)
    (hrun : GuardedRun (flow sha256 service) (HasRoom service) (Sys.start world session)
      events last) :
    pendingCount last.world.rows ≤ service.maxPendingOutbox := by
  apply (effects sha256 service).keeps_of_commits
    (fun rows => pendingCount rows ≤ service.maxPendingOutbox) _ hfirst _ hrun
  · exact Certificate.Good.start world session fun _ => trivial
  · exact fun _ hdoes hroom hbacklog => Effect.backlog hdoes hroom hbacklog

/-- The three transactions of a submission that is alone and asks nobody. -/
theorem run_recorded {locked : IntakeKey → Bool} {reserved admitted recorded : IntakeRows}
    {record : PublicIntakeRecord}
    (hreserve : (reserve sha256 service call).execute locked rows [] =
      .ok (.reserved, reserved))
    (hpassed : (admitCall sha256 service call).execute locked (reserved ++ rows) [] =
      .ok (.assessed preflight, admitted))
    (hrecord : (PublicIntakeService.record sha256 service call preflight).execute locked
      (admitted ++ (reserved ++ rows)) [] = .ok (.recorded record, recorded)) :
    Run (flow sha256 service) (Sys.start ⟨locked, rows⟩ fun _ : Unit => .submit call .waiting)
      [.committed () (.submit call .waiting) (.submit call .reserved) reserved,
        .committed () (.submit call .reserved) (.submit call (.assessed preflight)) admitted,
        .committed () (.submit call (.assessed preflight)) (.submit call (.recorded record))
          recorded]
      (Sys.start ⟨locked, recorded ++ (admitted ++ (reserved ++ rows))⟩
        fun _ => .submit call (.recorded record)) := by
  have hfirst : Run (flow sha256 service)
      (Sys.start ⟨locked, rows⟩ fun _ : Unit => .submit call .waiting) _ _ :=
    run_submission rfl hreserve
  have hsecond : Run (flow sha256 service)
      (Sys.start ⟨locked, reserved ++ rows⟩ fun _ : Unit => .submit call .reserved) _ _ :=
    run_submission rfl hpassed
  have hthird : Run (flow sha256 service) (Sys.start ⟨locked, admitted ++ (reserved ++ rows)⟩
      fun _ : Unit => .submit call (.assessed preflight)) _ _ :=
    run_submission rfl hrecord
  exact (hfirst.trans hsecond).trans hthird

/-- One event needs no more room than the transaction has seen. -/
theorem hasRoom_recorded (service : PublicIntakeService)
    {reserved admitted recorded : IntakeRows} {record : PublicIntakeRecord}
    (hsecond : call.secondEvent preflight = none) :
    ∀ (client : Unit) (before after : Session) (own : IntakeRows)
      (world : World (IntakeKey → Bool) IntakeRow), Event.committed client before after own ∈
        ([.committed () (.submit call .waiting) (.submit call .reserved) reserved,
          .committed () (.submit call .reserved) (.submit call (.assessed preflight)) admitted,
          .committed () (.submit call (.assessed preflight)) (.submit call (.recorded record))
            recorded] : List (IntakeEvent Unit)) → HasRoom service world before after := by
  intro _ before after own world hmem
  simp only [List.mem_cons, Event.committed.injEq, List.not_mem_nil, or_false] at hmem
  rcases hmem with ⟨_, rfl, rfl, _⟩ | ⟨_, rfl, rfl, _⟩ | ⟨_, rfl, rfl, _⟩
  · trivial
  · trivial
  · intro hroom
    rw [hsecond] at hroom
    cases hroom

/-- Room for one event. -/
def tightService : PublicIntakeService :=
  { sampleService with
    maxPendingOutbox := 1
    valid := by decide }

def sampleDigest (_ : String) : String := "digest"

def reservedRows : IntakeRows :=
  [⟨IntakeKey.reservation "key-0001", some ⟨"digest", "request-1", 120000000, none⟩⟩]

def admittedRows : IntakeRows :=
  [⟨IntakeKey.rateLimit "digest" "submission" 0, some 1⟩,
    ⟨IntakeKey.outboxCapacity, some 1⟩,
    ⟨IntakeKey.globalCircuit, some ⟨0, 1, some 600000000⟩⟩]

def unaskedPreflight : CounterpartyPreflightSnapshot :=
  PublicPreflight.unchecked "request-1" 0 none .unknown "IDENTIFIER_NOT_PROVIDED" none

/-- A submission that brings one event is recorded. -/
theorem backlog_bounded_sample : ∃ (events : List (IntakeEvent Unit)) (last : IntakeSys Unit),
    GuardedRun (flow sampleDigest tightService) (HasRoom tightService)
        (Sys.start ⟨fun _ => false, []⟩ fun _ => .submit sampleCall .waiting) events last ∧
      pendingCount last.world.rows = 1 ∧
      pendingCount last.world.rows ≤ tightService.maxPendingOutbox := by
  have hreserve : (reserve sampleDigest tightService sampleCall).execute (fun _ => false) [] [] =
      .ok (.reserved, reservedRows) := by
    with_unfolding_all rfl
  have hpassed : (admitCall sampleDigest tightService sampleCall).execute (fun _ => false)
      (reservedRows ++ []) [] = .ok (.assessed unaskedPreflight, admittedRows) := by
    with_unfolding_all rfl
  obtain ⟨recorded, hrecord, hcount⟩ : ∃ recorded,
      (record sampleDigest tightService sampleCall unaskedPreflight).execute (fun _ => false)
        (admittedRows ++ (reservedRows ++ [])) [] =
          .ok (.recorded (sampleCall.record sampleDigest unaskedPreflight), recorded) ∧
      pendingCount (recorded ++ (admittedRows ++ (reservedRows ++ []))) = 1 := by
    constructor
    · constructor
      · with_unfolding_all rfl
      · with_unfolding_all rfl
  have hrun := run_recorded hreserve hpassed hrecord
  have hguarded := hrun.guarded (hasRoom_recorded tightService rfl)
  exact ⟨_, _, hguarded, hcount, backlog_bounded (Nat.zero_le _) hguarded⟩

def blockedCall : Submission :=
  { sampleCall with payload := { sampleCall.payload with inn := some "1234567890" } }

def blockedPreflight : CounterpartyPreflightSnapshot :=
  PublicPreflight.unchecked "request-1" 0 (some (.inn, "1234567890")) .blockingFact
    "INVALID_IDENTIFIER_CHECKSUM" (some "INVALID_IDENTIFIER")

/-- A submission about a wrong number brings two events where there is room for
one. -/
theorem backlog_exceeded : ∃ (events : List (IntakeEvent Unit)) (last : IntakeSys Unit),
    Run (flow sampleDigest tightService)
        (Sys.start ⟨fun _ => false, []⟩ fun _ => .submit blockedCall .waiting) events last ∧
      tightService.maxPendingOutbox < pendingCount last.world.rows := by
  have hreserve : (reserve sampleDigest tightService blockedCall).execute (fun _ => false) [] [] =
      .ok (.reserved, reservedRows) := by
    with_unfolding_all rfl
  have hpassed : (admitCall sampleDigest tightService blockedCall).execute (fun _ => false)
      (reservedRows ++ []) [] = .ok (.assessed blockedPreflight, admittedRows) := by
    with_unfolding_all rfl
  obtain ⟨recorded, hrecord, hcount⟩ : ∃ recorded,
      (record sampleDigest tightService blockedCall blockedPreflight).execute (fun _ => false)
        (admittedRows ++ (reservedRows ++ [])) [] =
          .ok (.recorded (blockedCall.record sampleDigest blockedPreflight), recorded) ∧
      pendingCount (recorded ++ (admittedRows ++ (reservedRows ++ []))) = 2 := by
    constructor
    · constructor
      · with_unfolding_all rfl
      · with_unfolding_all rfl
  refine ⟨_, _, run_recorded hreserve hpassed hrecord, ?_⟩
  change 1 < pendingCount (recorded ++ (admittedRows ++ (reservedRows ++ [])))
  rw [hcount]
  exact Nat.one_lt_two

end PublicIntakeService

end ShemaPlatform
