/-
How many submissions the public intake lets through: its circuit over all of
them, and the budgets of each client, in any interleaved run.
-/
import Mathlib.Algebra.Order.Ring.Int
import ShemaPlatform.IntakeFrames
import ShemaPlatform.TumblingWindow

namespace ShemaPlatform

open Calendar ReadCommitted ReadCommitted.Prog

/-- The circuit as a counter over windows. -/
def IntakeCircuitRow.counter (row : IntakeCircuitRow) : TumblingWindow.Counter Instant :=
  ⟨row.windowStartedAt, row.usedCount, row.trippedUntil⟩

section Statements

variable {evolution : Evolution (IntakeKey → Bool) IntakeRow} {own : IntakeRows}
  {world : World (IntakeKey → Bool) IntakeRow} {limit : ℕ} {windowSeconds : ℤ}
  {now : Instant}

/-- What an admission does to the circuit. -/
def Admits (limit : ℕ) (windowSeconds : ℤ) (now : Instant) (rows : IntakeRows)
    (row : IntakeCircuitRow) : Prop :=
  (rows.get IntakeKey.globalCircuit = none ∧
      row.counter = TumblingWindow.Counter.first limit (seconds windowSeconds) now) ∨
    ∃ before, rows.get IntakeKey.globalCircuit = some before ∧
      (∀ tripped ∈ before.trippedUntil, tripped ≤ now) ∧
      row.counter = before.counter.next limit (seconds windowSeconds) now

theorem PublicIntakeRepository.atCommit_consumeGlobalCircuit
    {post : Unit → IntakeRows → World (IntakeKey → Bool) IntakeRow → Prop}
    (h : ∀ row written, Admits limit windowSeconds now world.rows row →
      written.Only (· = IntakeKey.globalCircuit) →
      written.get IntakeKey.globalCircuit = some row → post () written world) :
    (consumeGlobalCircuit limit windowSeconds now).atCommit evolution post [] world := by
  simp only [consumeGlobalCircuit, atCommit_bind, atCommit_require, decide_eq_true_eq]
  intro _ _
  rw [atCommit_selectForUpdate]
  constructor
  · intro earlier _ _
    rw [atCommit_insert]
    intro hnone
    exact h _ _ (Or.inl ⟨hnone, rfl⟩) (by simp) (Rows.get_cons_self _ _ _)
  · intro before hbefore
    simp only [atCommit_bind, atCommit_require, Bool.not_eq_true', atCommit_updateWhere]
    intro hopen
    have htripped : ∀ tripped ∈ before.trippedUntil, tripped ≤ now := by
      intro tripped hmem
      by_contra hlater
      rw [hmem, Option.any_some, decide_eq_false_iff_not] at hopen
      exact hopen (not_le.mp hlater)
    constructor
    · intro earlier _ hupdate
      simp at hupdate
    · intro row row' hrow hrow'
      obtain rfl := Option.some.inj hrow'
      exact h _ _ (Or.inr ⟨before, hbefore, htripped, rfl⟩) (by simp)
        (Rows.get_cons_self _ _ _)

/-- What a call takes from a budget, none of which it used up. -/
def Consumes (limit : ℕ) (counter : IntakeKey) (rows own : IntakeRows) : Prop :=
  ∃ client budget started used, counter = .rateLimit client budget started ∧
    own.get (IntakeKey.rateLimit client budget started) = some (used + 1) ∧ used < limit ∧
    (rows.get (IntakeKey.rateLimit client budget started)).getD 0 = used

theorem PublicIntakeRepository.atCommit_consumeBudget {sha256 : String → String}
    {publicClientKey budget : String}
    {post : Unit → IntakeRows → World (IntakeKey → Bool) IntakeRow → Prop}
    (hfree : ∀ key ∈ own.keys, key.table ≠ .rateLimits)
    (h : ∀ used, used < limit → (world.rows.get (IntakeKey.rateLimit
        (sha256 (PyText.strip publicClientKey)) budget
        (windowStart windowSeconds now))).getD 0 = used →
      post () (⟨IntakeKey.rateLimit (sha256 (PyText.strip publicClientKey)) budget
        (windowStart windowSeconds now), some (used + 1)⟩ :: own) world) :
    (consumeBudget sha256 publicClientKey budget limit windowSeconds now).atCommit evolution
      post own world := by
  have hown : ∀ rows : IntakeRows, Rows.get (own ++ rows) (IntakeKey.rateLimit
      (sha256 (PyText.strip publicClientKey)) budget (windowStart windowSeconds now)) =
        rows.get (IntakeKey.rateLimit (sha256 (PyText.strip publicClientKey)) budget
          (windowStart windowSeconds now)) := by
    intro rows
    apply Rows.get_append_of_not_mem
    exact fun hmem => hfree _ hmem rfl
  simp only [consumeBudget, atCommit_bind, atCommit_require, decide_eq_true_eq]
  intro hlimit
  apply atCommit_upsertWhere
  · intro earlier existing _ _ _
    trivial
  · intro hnone
    rw [hown] at hnone
    exact h 0 hlimit (by rw [hnone]; rfl)
  · intro used row' hrow hchange
    rw [hown] at hrow
    split at hchange
    · rename_i hused
      obtain rfl := Option.some.inj hchange
      exact h used hused (by rw [hrow]; rfl)
    · cases hchange

end Statements

namespace PublicIntakeService

section Effects

variable (sha256 : String → String) (service : PublicIntakeService)

/-- The counter of a budget that a commit takes from, with its limit. -/
def takes : Session → Session → Option (IntakeKey × ℕ)
  | .submit _ .reserved, .submit _ (.returned _) => none
  | .submit call .reserved, _ => some (.rateLimit (sha256 (PyText.strip call.publicClientKey))
      "submission" (PublicIntakeRepository.windowStart service.windowSeconds call.submittedAt),
      service.submissionLimit)
  | .submit call (.budgeting _), _ => some (.rateLimit
      (sha256 (PyText.strip call.publicClientKey)) "registry_lookup"
      (PublicIntakeRepository.windowStart service.windowSeconds call.submittedAt),
      service.lookupLimit)
  | _, _ => none

/-- How many calls a budget lets through in one of its windows. -/
def limitOf (budget : String) : ℕ :=
  if budget = "submission" then service.submissionLimit else service.lookupLimit

/-- What a commit does to the counters. -/
structure Counts (before after : Session) (own rows : IntakeRows) : Prop where
  circuit : ∀ call, before = .submit call .reserved → ∃ row,
    own.get IntakeKey.globalCircuit = some row ∧
      Admits service.globalSubmissionLimit service.windowSeconds call.submittedAt rows row
  elsewhere : (∀ call, before ≠ .submit call .reserved) →
    IntakeKey.globalCircuit ∉ own.keys
  taken : ∀ counter limit, takes sha256 service before after = some (counter, limit) →
    Consumes limit counter rows own
  untouched : ∀ key ∈ own.keys, key.table = .rateLimits →
    ∃ limit, takes sha256 service before after = some (key, limit)

/-- Nothing needs to be known of the others. -/
def anyEvolution : Evolution (IntakeKey → Bool) IntakeRow where
  rel _ _ := True
  refl _ := trivial
  trans _ _ := trivial

end Effects

variable {sha256 : String → String} {service : PublicIntakeService} {call : Submission}
  {world : World (IntakeKey → Bool) IntakeRow}

theorem takes_limit {before after : Session} {client budget : String} {started : Instant}
    {limit : ℕ}
    (htakes : takes sha256 service before after = some (.rateLimit client budget started, limit)) :
    limit = service.limitOf budget := by
  unfold takes at htakes
  split at htakes
  · cases htakes
  · cases htakes
    rfl
  · cases htakes
    rfl
  · cases htakes

theorem atCommit_ensureOutboxCapacity {evolution : Evolution (IntakeKey → Bool) IntakeRow}
    {own : IntakeRows} {maxPending : ℕ}
    {post : Unit → IntakeRows → World (IntakeKey → Bool) IntakeRow → Prop}
    (h : ∀ holders, post () (⟨IntakeKey.outboxCapacity, holders⟩ :: own) world) :
    (PublicIntakeRepository.ensureOutboxCapacity maxPending).atCommit evolution post own
      world := by
  simp only [PublicIntakeRepository.ensureOutboxCapacity, atCommit_bind, atCommit_require]
  intro _
  rw [atCommit_store, atCommit_scan]
  intro earlier _ _
  exact h _

theorem takes_preflighted : takes sha256 service (.submit call .reserved)
    (.submit call (service.preflighted call)) = some (.rateLimit
      (sha256 (PyText.strip call.publicClientKey)) "submission"
      (PublicIntakeRepository.windowStart service.windowSeconds call.submittedAt),
      service.submissionLimit) := by
  rw [preflighted]
  split
  · rfl
  · rfl
  · rfl

theorem atCommit_admitCall : (admitCall sha256 service call).atCommit anyEvolution
    (fun after own world => Counts sha256 service (.submit call .reserved)
      (.submit call after) own world.rows) [] world := by
  simp only [admitCall, atCommit_bind, atCommit_lift]
  intro _ _
  apply PublicIntakeRepository.atCommit_consumeGlobalCircuit
  intro row written hadmits honly hrow
  apply atCommit_ensureOutboxCapacity
  intro holders
  have hfree : ∀ key ∈ Rows.keys (⟨IntakeKey.outboxCapacity, holders⟩ :: written),
      key.table ≠ .rateLimits := by
    intro key hkey
    rcases List.mem_cons.mp hkey with rfl | hkey
    · intro htable
      cases htable
    · rw [honly key hkey]
      intro htable
      cases htable
  have hcircuit : Rows.get (⟨IntakeKey.outboxCapacity, holders⟩ :: written)
      IntakeKey.globalCircuit = some row := by
    rw [Rows.get_cons_ne (by decide)]
    exact hrow
  apply (PublicIntakeRepository.writes_getByIdempotencyKey call.key).atCommit_reads
  rintro (_ | existing)
  · simp only [atCommit_bind, atCommit_pure]
    apply PublicIntakeRepository.atCommit_consumeBudget hfree
    intro used hused hcount
    constructor
    · rintro other hother
      obtain ⟨rfl, _⟩ := Session.submit.inj hother
      refine ⟨row, ?_, hadmits⟩
      rw [Rows.get_cons_ne (by simp)]
      exact hcircuit
    · exact fun hother => absurd rfl (hother call)
    · intro counter limit htakes
      rw [takes_preflighted] at htakes
      obtain ⟨rfl, rfl⟩ := Prod.mk.inj (Option.some.inj htakes)
      exact ⟨_, _, _, used, rfl, Rows.get_cons_self _ _ _, hused, hcount⟩
    · intro key hkey htable
      rcases List.mem_cons.mp hkey with rfl | hkey
      · exact ⟨_, takes_preflighted⟩
      · exact absurd htable (hfree key hkey)
  · simp only [deduplicate, atCommit_bind, atCommit_require, atCommit_pure]
    intro _
    constructor
    · rintro other hother
      obtain ⟨rfl, _⟩ := Session.submit.inj hother
      exact ⟨row, hcircuit, hadmits⟩
    · exact fun hother => absurd rfl (hother call)
    · intro counter limit htakes
      cases htakes
    · exact fun key hkey htable => absurd htable (hfree key hkey)

theorem atCommit_budget {lookup : PreflightLookup} :
    (budget sha256 service call lookup).atCommit anyEvolution
      (fun after own world => Counts sha256 service (.submit call (.budgeting lookup))
        (.submit call after) own world.rows) [] world := by
  simp only [budget, atCommit_bind, atCommit_pure]
  apply PublicIntakeRepository.atCommit_consumeBudget (by simp)
  intro used hused hcount
  constructor
  · rintro other hother
    cases hother
  · intro _
    simp
  · intro counter limit htakes
    obtain ⟨rfl, rfl⟩ := Prod.mk.inj (Option.some.inj htakes)
    exact ⟨_, _, _, used, rfl, Rows.get_cons_self _ _ _, hused, hcount⟩
  · intro key hkey htable
    obtain rfl := List.mem_singleton.mp hkey
    exact ⟨_, rfl⟩

/-- The other transactions leave the counters alone. -/
theorem counts_other {before after : Session} {own : IntakeRows}
    (hown : own.Only fun key => key.table ∈ before.tables)
    (hcircuit : .circuit ∉ before.tables) (hlimits : .rateLimits ∉ before.tables)
    (hnone : takes sha256 service before after = none) :
    Counts sha256 service before after own world.rows := by
  constructor
  · rintro call rfl
    exact absurd List.mem_cons_self hcircuit
  · intro _ hmem
    exact hcircuit (hown _ hmem)
  · intro counter limit htakes
    rw [hnone] at htakes
    cases htakes
  · intro key hkey htable
    exact absurd (htable ▸ hown key hkey) hlimits

theorem atCommit_other {session : Session} {p : IntakeTx Session}
    (hp : WritesTables session.tables p)
    (hcircuit : .circuit ∉ session.tables) (hlimits : .rateLimits ∉ session.tables)
    (hnone : ∀ after, takes sha256 service session after = none) :
    p.atCommit anyEvolution
      (fun after own world => Counts sha256 service session after own world.rows) [] world := by
  apply atCommit_mono _ (hp.only.atCommit (by simp))
  intro after own hown
  exact counts_other hown hcircuit hlimits (hnone after)

/-- The transactions certify what they do to the counters. -/
def countsCertificate (sha256 : String → String) (service : PublicIntakeService) :
    Certificate (flow sha256 service) anyEvolution where
  knows _ _ := True
  does before after own world := Counts sha256 service before after own world.rows
  stable _ _ := trivial
  code_ok {session p world} hcode _ := by
    have hwrites := writes_code hcode
    cases session with
    | dispatch call stage =>
        exact atCommit_other hwrites (by simp [Session.tables]) (by simp [Session.tables])
          fun _ => rfl
    | submit call stage =>
        cases stage with
        | reserved =>
            simp only [flow, transaction, Option.map_some, Option.some.injEq] at hcode
            rw [← hcode]
            simp only [atCommit_bind, atCommit_pure]
            exact atCommit_admitCall
        | budgeting lookup =>
            simp only [flow, transaction, Option.map_some, Option.some.injEq] at hcode
            rw [← hcode]
            simp only [atCommit_bind, atCommit_pure]
            exact atCommit_budget
        | _ =>
            exact atCommit_other hwrites (by simp [Session.tables])
              (by simp [Session.tables]) fun _ => rfl
  commit_ok _ _ := ⟨trivial, trivial⟩
  recover_ok _ _ := trivial
  outside_ok _ _ := ⟨trivial, trivial⟩
  drift_ok _ := trivial

section Runs

variable {ι : Type}

/-- The submissions that passed the circuit, their transactions committed. -/
def admitted (events : List (IntakeEvent ι)) : List Submission :=
  events.filterMap fun
    | .committed _ (.submit call .reserved) _ _ => some call
    | _ => none

/-- Their clock readings, with the begins of their windows. -/
def admissions (events : List (IntakeEvent ι)) : List (TumblingWindow.Admission Instant) :=
  events.filterMap fun
    | .committed _ (.submit call .reserved) _ own =>
        (own.get IntakeKey.globalCircuit).map fun (row : IntakeCircuitRow) =>
          ⟨call.submittedAt, row.windowStartedAt⟩
    | _ => none

/-- How often a budget has let a call through in one of its windows. -/
def consumed (sha256 : String → String) (service : PublicIntakeService)
    (counter : IntakeKey) (events : List (IntakeEvent ι)) : ℕ :=
  events.countP fun
    | .committed _ before after _ =>
        ((takes sha256 service before after).map Prod.fst) = some counter
    | _ => false

variable {events : List (IntakeEvent ι)} {client : ι} {before after : Session}
  {own : IntakeRows} {counter : IntakeKey}

theorem consumed_committed : consumed sha256 service counter
    (events ++ [.committed client before after own]) = consumed sha256 service counter events +
      if (takes sha256 service before after).map Prod.fst = some counter then 1 else 0 := by
  simp only [consumed, List.countP_append, List.countP_singleton, decide_eq_true_eq]

theorem consumed_rolledBack {error : Failure} : consumed sha256 service counter
    (events ++ [.rolledBack client before error]) = consumed sha256 service counter events := by
  simp [consumed, List.countP_append]

theorem consumed_acted {action : Outside} : consumed sha256 service counter
    (events ++ [.acted client before action after]) =
      consumed sha256 service counter events := by
  simp [consumed, List.countP_append]

theorem admissions_admitCall {call : Submission} {row : IntakeCircuitRow}
    (hrow : own.get IntakeKey.globalCircuit = some row) :
    admissions (events ++ [.committed client (.submit call .reserved) after own]) =
      admissions events ++ [⟨call.submittedAt, row.windowStartedAt⟩] := by
  simp [admissions, List.filterMap_append, hrow]

theorem admitted_admitCall {call : Submission} :
    admitted (events ++ [.committed client (.submit call .reserved) after own]) =
      admitted events ++ [call] := by
  simp [admitted, List.filterMap_append]

theorem admissions_other (hother : ∀ call, before ≠ .submit call .reserved) :
    admissions (events ++ [.committed client before after own]) = admissions events := by
  rw [admissions, List.filterMap_append]
  cases before with
  | dispatch call stage => exact List.append_nil _
  | submit call stage =>
      cases stage with
      | reserved => exact absurd rfl (hother call)
      | _ => exact List.append_nil _

theorem admitted_other (hother : ∀ call, before ≠ .submit call .reserved) :
    admitted (events ++ [.committed client before after own]) = admitted events := by
  rw [admitted, List.filterMap_append]
  cases before with
  | dispatch call stage => exact List.append_nil _
  | submit call stage =>
      cases stage with
      | reserved => exact absurd rfl (hother call)
      | _ => exact List.append_nil _

/-- What is known of the counters after a run. -/
structure Counted (sha256 : String → String) (service : PublicIntakeService)
    (rows : IntakeRows) (events : List (IntakeEvent ι)) : Prop where
  times : (admissions events).map TumblingWindow.Admission.time =
    (admitted events).map Submission.submittedAt
  circuit : (admissions events = [] ∧ rows.get IntakeKey.globalCircuit = none) ∨
    ∃ row, rows.get IntakeKey.globalCircuit = some row ∧
      (((admissions events).map TumblingWindow.Admission.time).Pairwise (· ≤ ·) →
        TumblingWindow.History service.globalSubmissionLimit (seconds service.windowSeconds)
          (admissions events) row.counter)
  budget : ∀ client budget started,
    consumed sha256 service (.rateLimit client budget started) events = 0 ∨
      ∃ used, rows.get (IntakeKey.rateLimit client budget started) = some used ∧
        consumed sha256 service (.rateLimit client budget started) events ≤ used ∧
        used ≤ service.limitOf budget

namespace Counted

variable {rows : IntakeRows}

/-- An admission continues the history of the circuit. -/
theorem circuit_admitCall (h : Counted sha256 service rows events) {call : Submission}
    {row : IntakeCircuitRow}
    (hadmits : Admits service.globalSubmissionLimit service.windowSeconds call.submittedAt
      rows row)
    (hsorted : (List.map TumblingWindow.Admission.time (admissions events ++
      [⟨call.submittedAt, row.windowStartedAt⟩])).Pairwise (· ≤ ·)) :
    TumblingWindow.History service.globalSubmissionLimit (seconds service.windowSeconds)
      (admissions events ++ [⟨call.submittedAt, row.windowStartedAt⟩]) row.counter := by
  rw [List.map_append, List.pairwise_append] at hsorted
  obtain ⟨hbefore, _, hlater⟩ := hsorted
  have hnow : ∀ admission ∈ admissions events, admission.time ≤ call.submittedAt := by
    intro admission hmem
    exact hlater _ (List.mem_map_of_mem hmem) _ (by simp)
  rcases hadmits with ⟨hnone, hfirst⟩ | ⟨earlier, hearlier, hopen, hnext⟩
  · rcases h.circuit with ⟨hempty, _⟩ | ⟨other, hother, _⟩
    · have hstarted : row.windowStartedAt = call.submittedAt :=
        congrArg TumblingWindow.Counter.started hfirst
      rw [hempty, hfirst, hstarted]
      exact .first call.submittedAt
    · rw [hnone] at hother
      cases hother
  · rcases h.circuit with ⟨_, hnone⟩ | ⟨other, hother, hhistory⟩
    · rw [hnone] at hearlier
      cases hearlier
    · obtain rfl := Option.some.inj (hearlier.symm.trans hother)
      have hstarted : row.windowStartedAt = (earlier.counter.next
          service.globalSubmissionLimit (seconds service.windowSeconds)
          call.submittedAt).started :=
        congrArg TumblingWindow.Counter.started hnext
      rw [hnext, hstarted]
      exact (hhistory hbefore).accept hnow hopen

theorem commit (h : Counted sha256 service rows events)
    (hcounts : Counts sha256 service before after own rows) :
    Counted sha256 service (own ++ rows)
      (events ++ [.committed client before after own]) := by
  have hcircuit : (∃ call, before = .submit call .reserved) ∨
      ∀ call, before ≠ .submit call .reserved := by
    by_cases hadmits : ∃ call, before = .submit call .reserved
    · exact Or.inl hadmits
    · exact Or.inr fun call hbefore => hadmits ⟨call, hbefore⟩
  constructor
  · rcases hcircuit with ⟨call, rfl⟩ | hother
    · obtain ⟨row, hrow, _⟩ := hcounts.circuit call rfl
      rw [admissions_admitCall hrow, admitted_admitCall, List.map_append, List.map_append, h.times]
      rfl
    · rw [admissions_other hother, admitted_other hother]
      exact h.times
  · rcases hcircuit with ⟨call, rfl⟩ | hother
    · obtain ⟨row, hrow, hadmits⟩ := hcounts.circuit call rfl
      right
      refine ⟨row, ?_, ?_⟩
      · rw [Rows.get_append_of_mem (Rows.mem_keys_of_get hrow)]
        exact hrow
      · rw [admissions_admitCall hrow]
        intro hsorted
        exact h.circuit_admitCall hadmits hsorted
    · rw [admissions_other hother,
        Rows.get_append_of_not_mem (hcounts.elsewhere hother) rows]
      exact h.circuit
  · intro client budget started
    rw [consumed_committed]
    by_cases hkey : IntakeKey.rateLimit client budget started ∈ own.keys
    · obtain ⟨limit, htakes⟩ := hcounts.untouched _ hkey rfl
      obtain ⟨client', budget', started', used, hcounter, hused, hlimit, hbefore⟩ :=
        hcounts.taken _ _ htakes
      cases hcounter
      right
      refine ⟨used + 1, ?_, ?_, ?_⟩
      · rw [Rows.get_append_of_mem hkey]
        exact hused
      · rw [htakes, Option.map_some, if_pos rfl]
        rcases h.budget client budget started with hnone | ⟨count, hcount, hle, _⟩
        · omega
        · obtain rfl : count = used := by
            rw [hcount] at hbefore
            exact hbefore
          omega
      · rw [takes_limit htakes] at hlimit
        exact hlimit
    · have hnot : (takes sha256 service before after).map Prod.fst ≠
          some (.rateLimit client budget started) := by
        intro htakes
        obtain ⟨⟨counter, limit⟩, htaken, rfl⟩ := Option.map_eq_some_iff.mp htakes
        obtain ⟨_, _, _, used, hcounter, hused, _⟩ := hcounts.taken _ _ htaken
        cases hcounter
        exact hkey (Rows.mem_keys_of_get hused)
      rw [if_neg hnot, Nat.add_zero, Rows.get_append_of_not_mem hkey]
      exact h.budget client budget started

/-- What is not a commit counts for nothing. -/
theorem same {event : IntakeEvent ι} (h : Counted sha256 service rows events)
    (hadmissions : admissions (events ++ [event]) = admissions events)
    (hadmitted : admitted (events ++ [event]) = admitted events)
    (hconsumed : ∀ counter, consumed sha256 service counter (events ++ [event]) =
      consumed sha256 service counter events) :
    Counted sha256 service rows (events ++ [event]) := by
  constructor
  · rw [hadmissions, hadmitted]
    exact h.times
  · rw [hadmissions]
    exact h.circuit
  · intro client budget started
    rw [hconsumed]
    exact h.budget client budget started

end Counted

variable [DecidableEq ι] {state : ι → Session} {last : IntakeSys ι}

theorem counted_run (hempty : world.rows.get IntakeKey.globalCircuit = none)
    (hrun : Run (flow sha256 service) (Sys.start world state) events last) :
    Counted sha256 service last.world.rows events := by
  have hgood : (countsCertificate sha256 service).Good (Sys.start world state) :=
    Certificate.Good.start world state fun _ => trivial
  apply (countsCertificate sha256 service).run_induction
    (fun world _ events => Counted sha256 service world.rows events) hgood _ _ _ _ _ hrun
  · exact ⟨rfl, Or.inl ⟨rfl, hempty⟩, fun _ _ _ => Or.inl rfl⟩
  · intro world state events client after own _ hcounts h
    exact h.commit hcounts
  · intro world state events client error _ h
    exact h.same (by simp [admissions]) (by simp [admitted]) fun _ => consumed_rolledBack
  · intro world state events client action after env _ _ h
    exact h.same (by simp [admissions]) (by simp [admitted]) fun _ => consumed_acted
  · exact fun _ h => h

/-- The limits of the circuit over what it has let through. -/
structure CircuitLimits (limit : ℕ) (window : Instant)
    (log : List (TumblingWindow.Admission Instant)) : Prop where
  begins : ∀ before admission next after, log = before ++ admission :: next :: after →
    next.started = admission.started ∨
      next.started = next.time ∧ admission.started + window ≤ next.time
  inWindow : ∀ started,
    (log.filter fun admission => admission.started = started).length ≤ limit
  closed : ∀ before filling after, log = before ++ filling :: after →
    ((before ++ [filling]).filter fun admission =>
      admission.started = filling.started).length = limit →
    ∀ later ∈ after, filling.time + window ≤ later.time
  interval : ∀ start, (log.filter fun admission => start ≤ admission.time ∧
    admission.time < start + window).length ≤ 2 * limit - 1

/-- A window of a budget: it begins at a multiple of its length. -/
structure Aligned (windowSeconds : ℤ) (started now : Instant) : Prop where
  multiple : ∃ n : ℤ, started = seconds (n * windowSeconds)
  begun : started ≤ now
  running : now < started + seconds windowSeconds

theorem aligned_floor {n length : ℤ} (hlength : 0 < length) :
    Aligned length (seconds (n / 1000000 - n / 1000000 % length)) n := by
  have hmod := Int.emod_nonneg (n / 1000000) hlength.ne'
  have hlt := Int.emod_lt_of_pos (n / 1000000) hlength
  have hdiv := Int.ediv_mul_add_emod (n / 1000000) length
  have hbegun : (n / 1000000 - n / 1000000 % length) * 1000000 ≤ n := by
    omega
  have hrunning : n < (n / 1000000 - n / 1000000 % length) * 1000000 + length * 1000000 := by
    omega
  constructor
  · refine ⟨n / 1000000 / length, congrArg seconds ?_⟩
    omega
  · exact hbegun
  · exact hrunning

theorem windowStart_aligned {windowSeconds : ℤ} {now : Instant} (hwindow : 0 < windowSeconds)
    (hnow : 0 ≤ now) :
    Aligned windowSeconds (PublicIntakeRepository.windowStart windowSeconds now) now := by
  have hstart : PublicIntakeRepository.windowStart windowSeconds now =
      seconds (now / 1000000 - now / 1000000 % windowSeconds) := by
    rw [PublicIntakeRepository.windowStart, Int.tdiv_eq_ediv_of_nonneg hnow,
      Int.fmod_eq_emod_of_nonneg _ hwindow.le]
  rw [hstart]
  exact aligned_floor hwindow

/-- In every run the circuit and the budgets keep their limits, and a submission
that is rejected leaves them as they were. -/
theorem limits_kept (hempty : world.rows.get IntakeKey.globalCircuit = none)
    (hrun : Run (flow sha256 service) (Sys.start world state) events last)
    (hclock : ((admitted events).map Submission.submittedAt).Pairwise (· ≤ ·)) :
    (admissions events).map TumblingWindow.Admission.time =
        (admitted events).map Submission.submittedAt ∧
      CircuitLimits service.globalSubmissionLimit (seconds service.windowSeconds)
        (admissions events) ∧
      (∀ client started, consumed sha256 service (.rateLimit (sha256 (PyText.strip client))
        "submission" started) events ≤ service.submissionLimit) ∧
      (∀ client started, consumed sha256 service (.rateLimit (sha256 (PyText.strip client))
        "registry_lookup" started) events ≤ service.lookupLimit) ∧
      (∀ now, 0 ≤ now → Aligned service.windowSeconds
        (PublicIntakeRepository.windowStart service.windowSeconds now) now) ∧
      ∀ sys' client before error, Step (flow sha256 service) last
        [.rolledBack client before error] sys' → sys'.world = last.world := by
  have hcounted := counted_run hempty hrun
  obtain ⟨_, _, hlimit, _, hseconds⟩ := service.valid
  have hpos : (0 : ℤ) < service.windowSeconds * 1000000 := by
    omega
  have hwindow : 0 < seconds service.windowSeconds := hpos
  have hbudget : ∀ client budget started, consumed sha256 service
      (.rateLimit client budget started) events ≤ service.limitOf budget := by
    intro client budget started
    rcases hcounted.budget client budget started with hnone | ⟨used, _, hle, hused⟩
    · rw [hnone]
      exact Nat.zero_le _
    · exact hle.trans hused
  refine ⟨hcounted.times, ?_, ?_, ?_, ?_, ?_⟩
  · rcases hcounted.circuit with ⟨hnone, _⟩ | ⟨row, _, hhistory⟩
    · rw [hnone]
      constructor
      · intro before admission next after hlog
        simp at hlog
      · simp
      · intro before filling after hlog
        simp at hlog
      · simp
    · have hlog := hhistory (by rw [hcounted.times]; exact hclock)
      constructor
      · exact hlog.begins
      · exact hlog.count_window_le hlimit hwindow
      · exact hlog.closed_after hlimit hwindow
      · intro start
        have hlt := hlog.count_interval_lt hlimit hwindow start
        omega
  · exact fun client started => hbudget _ "submission" started
  · exact fun client started => hbudget _ "registry_lookup" started
  · exact fun now hnow => windowStart_aligned (by omega) hnow
  · exact fun sys' client before error hstep => hstep.world_of_rolledBack

end Runs

def samplePreflight : PublicCounterpartyPreflightService where
  provider := none
  cacheTtlSeconds := 300
  operatorReuseSeconds := 900
  valid := by decide

def sampleService : PublicIntakeService where
  preflight := samplePreflight
  submissionLimit := 5
  lookupLimit := 20
  windowSeconds := 600
  globalSubmissionLimit := 1
  maxPendingOutbox := 1000
  enforceEdgeProof := true
  allowedOrigins := ["https://shema.example"]
  valid := by decide

def sampleCall : Submission where
  payload :=
    { serviceType := "transport"
      location := "Kazan"
      preferredDateOrPeriod := "June"
      workOrCargoDescription := "furniture"
      contactName := "Anna"
      contactChannel := "+70000000000" }
  idempotencyKey := "key-0001"
  publicClientKey := "client-0001"
  origin := some "https://shema.example"
  botChallengePassed := true
  correlationId := "correlation-1"
  honeypotValue := ""
  requestId := "request-1"
  eventId := "event-1"
  reservedAt := 0
  submittedAt := 0
  completedAt := 0
  projectedAt := 0

theorem sample_admitCall : (admitCall id sampleService sampleCall).execute (fun _ => false) [] [] =
    .ok (sampleService.preflighted sampleCall,
      [⟨IntakeKey.rateLimit "client-0001" "submission" 0, some 1⟩,
        ⟨IntakeKey.outboxCapacity, some 1⟩,
        ⟨IntakeKey.globalCircuit, some ⟨0, 1, some 600000000⟩⟩]) := by
  with_unfolding_all rfl

/-- One submission is let through, which is all that the circuit allows. -/
theorem limits_kept_sample : ∃ (events : List (IntakeEvent Unit)) (last : IntakeSys Unit),
    Run (flow id sampleService) (Sys.start ⟨fun _ => false, []⟩
        fun _ => .submit sampleCall .reserved) events last ∧
      admitted events = [sampleCall] ∧
      CircuitLimits 1 (seconds 600) (admissions events) := by
  have hcode : (flow id sampleService).code (.submit sampleCall .reserved) =
      some (admitCall id sampleService sampleCall >>= fun after =>
        Pure.pure (.submit sampleCall after)) := rfl
  have hexecute : (admitCall id sampleService sampleCall >>= fun after =>
      Pure.pure (Session.submit sampleCall after)).execute (fun _ => false) [] [] =
        .ok (.submit sampleCall (sampleService.preflighted sampleCall),
          [⟨IntakeKey.rateLimit "client-0001" "submission" 0, some 1⟩,
            ⟨IntakeKey.outboxCapacity, some 1⟩,
            ⟨IntakeKey.globalCircuit, some ⟨0, 1, some 600000000⟩⟩]) := by
    rw [execute_bind, sample_admitCall]
    rfl
  have hrun := @run_transaction_start _ _ _ _ _ _ _ _ _ (flow id sampleService)
    ⟨fun _ => false, []⟩ (fun _ : Unit => Session.submit sampleCall .reserved) () _ _ _
    hcode hexecute
  have hadmitted : (admitted [.committed () (.submit sampleCall .reserved)
      (.submit sampleCall (sampleService.preflighted sampleCall))
      [⟨IntakeKey.rateLimit "client-0001" "submission" 0, some 1⟩,
        ⟨IntakeKey.outboxCapacity, some 1⟩,
        ⟨IntakeKey.globalCircuit, some ⟨0, 1, some 600000000⟩⟩]] : List Submission) =
        [sampleCall] := rfl
  have hlimits := limits_kept rfl hrun (by
    rw [hadmitted]
    exact List.pairwise_singleton _ _)
  exact ⟨_, _, hrun, hadmitted, hlimits.2.1⟩

end PublicIntakeService

end ShemaPlatform
