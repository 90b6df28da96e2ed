/-
The in-memory outbox and the outbox table, called with the same arguments.
The store keeps leases beside the events and compares whole events; the table
also looks at the moment an event is dated.
-/
import ShemaPlatform.OutboxRules

namespace ShemaPlatform

open Calendar ReadCommitted ReadCommitted.Prog

inductive OutboxStatus where
  | pending | published
deriving DecidableEq, Repr

/-- An event together with its status. -/
structure OutboxEntry where
  event : OutboxEvent
  status : OutboxStatus
deriving DecidableEq

/-- `_to_event` -/
def OutboxRow.toEntry (row : OutboxRow) : OutboxEntry :=
  ⟨row.event, if row.publishedAt.isSome then .published else .pending⟩

/-- The two dictionaries of the reference implementation. -/
structure OutboxStore where
  events : Rows fun _ : String => OutboxEntry
  leases : Rows fun _ : String => OutboxDelivery

namespace OutboxStore

def append (store : OutboxStore) (entry : OutboxEntry) :
    Except Failure (OutboxEntry × OutboxStore) :=
  match store.events.get entry.event.eventId with
  | some existing => do
      require (existing == entry) (.integrityViolation
        "outbox event_id collision with different event")
      return (existing, store)
  | none => .ok (entry, { store with
      events := ⟨entry.event.eventId, some entry⟩ :: store.events })

def pending (store : OutboxStore) : List OutboxEntry :=
  (store.events.live.map Sigma.snd).filter fun entry => entry.status == .pending

/-- `lease is not None and lease.lease_until > now` -/
def leased (now : Instant) : Option OutboxDelivery → Bool
  | some lease => decide (now < lease.leaseUntil)
  | none => false

/-- The key of `sorted`. -/
def ordered (a b : OutboxEntry) : Prop :=
  a.event.occurredAt < b.event.occurredAt ∨
    (a.event.occurredAt = b.event.occurredAt ∧ a.event.eventId ≤ b.event.eventId)

instance : DecidableRel ordered := fun _ _ =>
  inferInstanceAs (Decidable (_ ∨ (_ ∧ _)))

def delivery (workerId : String) (leaseUntil : Instant) (entry : OutboxEntry)
    (lease : Option OutboxDelivery) : OutboxDelivery where
  event := entry.event
  attempt := (lease.map fun lease => lease.attempt + 1).getD 1
  workerId := workerId
  leaseUntil := leaseUntil

/-- The loop over the sorted events; `remaining` is what the limit leaves. -/
def claimLoop (workerId : String) (now leaseUntil : Instant) :
    List OutboxEntry → ℕ → (Rows fun _ : String => OutboxDelivery) →
      List OutboxDelivery × Rows fun _ : String => OutboxDelivery
  | [], _, leases => ([], leases)
  | entry :: rest, remaining, leases =>
      let lease := leases.get entry.event.eventId
      if leased now lease then claimLoop workerId now leaseUntil rest remaining leases
      else
        let taken := delivery workerId leaseUntil entry lease
        let leases := ⟨entry.event.eventId, some taken⟩ :: leases
        if remaining ≤ 1 then ([taken], leases)
        else
          let (selected, leases) :=
            claimLoop workerId now leaseUntil rest (remaining - 1) leases
          (taken :: selected, leases)

def claimPending (store : OutboxStore) (workerId : String) (leaseSeconds : ℤ)
    (now : Instant) (limit : ℕ) :
    Except Failure (List OutboxDelivery × OutboxStore) := do
  require (!PyText.blank workerId) (.valueError "worker_id is required")
  require (decide (0 < leaseSeconds)) (.valueError "lease_seconds must be > 0")
  require (decide (1 ≤ limit)) (.valueError "limit must be >= 1")
  let (selected, leases) := claimLoop workerId now (now + seconds leaseSeconds)
    (store.pending.insertionSort ordered) limit store.leases
  return (selected, { store with leases })

def markPublished (store : OutboxStore) (eventId workerId : String)
    (now : Instant) : Except Failure (OutboxEntry × OutboxStore) :=
  match store.leases.get eventId with
  | none => .error (.integrityViolation
      "outbox publication rejected: missing or different worker lease")
  | some lease => do
      require (lease.workerId == workerId) (.integrityViolation
        "outbox publication rejected: missing or different worker lease")
      require (decide (now < lease.leaseUntil)) (.integrityViolation
        "outbox publication rejected: missing or expired delivery lease")
      match store.events.get eventId with
      | none => .error (.keyError eventId)
      | some entry =>
          let published : OutboxEntry := ⟨entry.event, .published⟩
          return (published, ⟨⟨eventId, some published⟩ :: store.events,
            ⟨eventId, none⟩ :: store.leases⟩)

section Reading

variable {store : OutboxStore}

theorem mem_pending {entry : OutboxEntry} :
    entry ∈ store.pending ↔
      ∃ eventId, store.events.get eventId = some entry ∧ entry.status = .pending := by
  simp only [pending, List.mem_filter, List.mem_map, beq_iff_eq]
  constructor
  · rintro ⟨⟨⟨eventId, found⟩, hmem, rfl⟩, hstatus⟩
    exact ⟨eventId, Rows.mem_live.mp hmem, hstatus⟩
  · rintro ⟨eventId, hentry, hstatus⟩
    exact ⟨⟨⟨eventId, entry⟩, Rows.mem_live.mpr hentry, rfl⟩, hstatus⟩

/-- Every event is kept under its own id. -/
structure Keyed (store : OutboxStore) : Prop where
  eventId_eq : ∀ {eventId entry}, store.events.get eventId = some entry →
    entry.event.eventId = eventId

/-- No event is pending twice. -/
theorem nodup_pending (hkeyed : store.Keyed) :
    (store.pending.map fun entry => entry.event.eventId).Nodup := by
  have hids : (store.events.live.map Sigma.snd).map
      (fun entry : OutboxEntry => entry.event.eventId) =
        store.events.live.map Sigma.fst := by
    rw [List.map_map]
    apply List.map_congr_left
    rintro ⟨eventId, entry⟩ hmem
    exact hkeyed.eventId_eq (Rows.mem_live.mp hmem)
  have hnodup := Rows.nodup_live_keys store.events
  rw [← hids] at hnodup
  exact (List.filter_sublist.map _).nodup hnodup

end Reading

section Claiming

variable {workerId : String} {now leaseUntil : Instant}

/-- With an ample limit the loop takes every event that is not leased. -/
theorem claimLoop_spec {entries : List OutboxEntry} {remaining : ℕ}
    {leases : Rows fun _ : String => OutboxDelivery}
    (hnodup : (entries.map fun entry => entry.event.eventId).Nodup)
    (hample : (entries.filter fun entry =>
      !leased now (leases.get entry.event.eventId)).length ≤ remaining) :
    (claimLoop workerId now leaseUntil entries remaining leases).1 =
      (entries.filter fun entry => !leased now (leases.get entry.event.eventId)).map
        (fun entry => delivery workerId leaseUntil entry
          (leases.get entry.event.eventId)) ∧
    (∀ entry ∈ entries, leased now (leases.get entry.event.eventId) = false →
      (claimLoop workerId now leaseUntil entries remaining leases).2.get
        entry.event.eventId = some (delivery workerId leaseUntil entry
          (leases.get entry.event.eventId))) ∧
    ∀ eventId, (∀ entry ∈ entries, entry.event.eventId = eventId →
        leased now (leases.get eventId) = true) →
      (claimLoop workerId now leaseUntil entries remaining leases).2.get eventId =
        leases.get eventId := by
  induction entries generalizing remaining leases with
  | nil => simp [claimLoop]
  | cons entry rest ih =>
      simp only [List.map_cons, List.nodup_cons, List.mem_map, not_exists,
        not_and] at hnodup
      obtain ⟨hnew, hnodup⟩ := hnodup
      by_cases hleased : leased now (leases.get entry.event.eventId) = true
      · simp only [List.filter_cons, hleased, Bool.not_true, Bool.false_eq_true,
          ↓reduceIte] at hample
        obtain ⟨hselected, htaken, hkept⟩ := ih hnodup hample
        simp only [claimLoop, hleased, ↓reduceIte, List.filter_cons, Bool.not_true,
          Bool.false_eq_true, List.mem_cons, forall_eq_or_imp]
        refine ⟨hselected, ⟨by simp, htaken⟩, ?_⟩
        intro eventId hothers
        exact hkept eventId hothers.2
      · simp only [Bool.not_eq_true] at hleased
        simp only [List.filter_cons, hleased, Bool.not_false, ↓reduceIte,
          List.length_cons] at hample
        let taken := delivery workerId leaseUntil entry
          (leases.get entry.event.eventId)
        have hsame : ∀ later ∈ rest,
            Rows.get (⟨entry.event.eventId, some taken⟩ :: leases)
              later.event.eventId = leases.get later.event.eventId := by
          intro later hlater
          exact Rows.get_cons_ne (fun hids => hnew later hlater hids.symm) _ _
        have hother : ∀ eventId, entry.event.eventId ≠ eventId →
            Rows.get (⟨entry.event.eventId, some taken⟩ :: leases) eventId =
              leases.get eventId :=
          fun eventId hne => Rows.get_cons_ne hne _ _
        have hfilter : (rest.filter fun later => !leased now (Rows.get
            (⟨entry.event.eventId, some taken⟩ :: leases) later.event.eventId)) =
            rest.filter fun later =>
              !leased now (leases.get later.event.eventId) := by
          apply List.filter_congr
          intro later hlater
          rw [hsame later hlater]
        have hgone : ∀ eventId, (∀ later, later = entry ∨ later ∈ rest →
            later.event.eventId = eventId →
              leased now (leases.get eventId) = true) →
            entry.event.eventId ≠ eventId := by
          intro eventId hothers hids
          have hcontra := hothers entry (.inl rfl) hids
          rw [← hids, hleased] at hcontra
          exact Bool.false_ne_true hcontra
        by_cases hlast : remaining ≤ 1
        · have hnone : (rest.filter fun later =>
              !leased now (leases.get later.event.eventId)) = [] :=
            List.length_eq_zero_iff.mp (by omega)
          have hrest := List.filter_eq_nil_iff.mp hnone
          simp only [claimLoop, hleased, Bool.false_eq_true, ↓reduceIte, hlast,
            List.filter_cons, Bool.not_false, hnone, List.map_cons, List.map_nil,
            List.mem_cons, true_and]
          constructor
          · rintro later (rfl | hlater) hunleased
            · exact Rows.get_cons_self _ _ _
            · exact absurd (by simp [hunleased]) (hrest later hlater)
          · intro eventId hothers
            exact hother eventId (hgone eventId hothers)
        · obtain ⟨hselected, htaken, hkept⟩ := @ih (remaining - 1)
            (⟨entry.event.eventId, some taken⟩ :: leases) hnodup
            (by rw [hfilter]; omega)
          rw [hfilter] at hselected
          simp only [claimLoop, hleased, Bool.false_eq_true, ↓reduceIte, hlast,
            List.filter_cons, Bool.not_false, List.map_cons, List.mem_cons]
          refine ⟨?_, ?_, ?_⟩
          · congr 1
            refine hselected.trans (List.map_congr_left ?_)
            intro later hlater
            rw [hsame later (List.mem_of_mem_filter hlater)]
          · rintro later (rfl | hlater) hunleased
            · refine (hkept _ ?_).trans (Rows.get_cons_self _ _ _)
              intro other hmem hids
              exact absurd hids (hnew other hmem)
            · rw [← hsame later hlater] at hunleased ⊢
              exact htaken later hlater hunleased
          · intro eventId hothers
            have hne := hgone eventId hothers
            refine (hkept eventId ?_).trans (hother eventId hne)
            intro other hmem hids
            rw [hother eventId hne]
            exact hothers other (.inr hmem) hids

theorem claimPending_eq_loop (store : OutboxStore) {leaseSeconds : ℤ} {limit : ℕ}
    (hworker : PyText.blank workerId = false) (hlease : 0 < leaseSeconds)
    (hlimit : 1 ≤ limit) : store.claimPending workerId leaseSeconds now limit =
      let taken := claimLoop workerId now (now + seconds leaseSeconds)
        (store.pending.insertionSort ordered) limit store.leases
      .ok (taken.1, ⟨store.events, taken.2⟩) := by
  simp only [claimPending, require, hworker, hlease, hlimit]
  rfl

/-- What the claim leaves as the lease of an event. -/
def leaseAfter (store : OutboxStore) (workerId : String) (now leaseUntil : Instant)
    (eventId : String) : Option OutboxDelivery :=
  let lease := store.leases.get eventId
  match store.events.get eventId with
  | some entry =>
      if entry.status = .pending ∧ leased now lease = false then
        some (delivery workerId leaseUntil entry lease)
      else lease
  | none => lease

theorem claimPending_spec {store : OutboxStore} {leaseSeconds : ℤ} {limit : ℕ}
    (hkeyed : store.Keyed) (hworker : PyText.blank workerId = false)
    (hlease : 0 < leaseSeconds) (hlimit : 1 ≤ limit)
    (hample : (store.pending.filter fun entry =>
      !leased now (store.leases.get entry.event.eventId)).length ≤ limit) :
    ∃ selected leases, store.claimPending workerId leaseSeconds now limit =
        .ok (selected, ⟨store.events, leases⟩) ∧
      (∀ taken, taken ∈ selected ↔ ∃ eventId entry,
        store.events.get eventId = some entry ∧ entry.status = .pending ∧
          leased now (store.leases.get eventId) = false ∧
          taken = delivery workerId (now + seconds leaseSeconds) entry
            (store.leases.get eventId)) ∧
      ∀ eventId, leases.get eventId =
        store.leaseAfter workerId now (now + seconds leaseSeconds) eventId := by
  have hsorted := List.perm_insertionSort ordered store.pending
  have hnodup : ((store.pending.insertionSort ordered).map
      fun entry => entry.event.eventId).Nodup :=
    (hsorted.map _).nodup_iff.mpr (nodup_pending hkeyed)
  have hcount : ((store.pending.insertionSort ordered).filter fun entry =>
      !leased now (store.leases.get entry.event.eventId)).length ≤ limit := by
    rw [(hsorted.filter _).length_eq]
    exact hample
  obtain ⟨hselected, htaken, hkept⟩ := @claimLoop_spec workerId now
    (now + seconds leaseSeconds) _ _ _ hnodup hcount
  have hmem : ∀ {entry}, entry ∈ store.pending.insertionSort ordered ↔
      store.events.get entry.event.eventId = some entry ∧
        entry.status = .pending := by
    intro entry
    rw [List.mem_insertionSort, mem_pending]
    constructor
    · rintro ⟨eventId, hentry, hstatus⟩
      rw [hkeyed.eventId_eq hentry]
      exact ⟨hentry, hstatus⟩
    · rintro ⟨hentry, hstatus⟩
      exact ⟨_, hentry, hstatus⟩
  refine ⟨_, _, store.claimPending_eq_loop hworker hlease hlimit, ?_, ?_⟩
  · intro taken
    rw [hselected]
    simp only [List.mem_map, List.mem_filter, hmem, Bool.not_eq_true']
    constructor
    · rintro ⟨entry, ⟨⟨hentry, hstatus⟩, hunleased⟩, rfl⟩
      exact ⟨_, entry, hentry, hstatus, hunleased, rfl⟩
    · rintro ⟨eventId, entry, hentry, hstatus, hunleased, rfl⟩
      obtain rfl := hkeyed.eventId_eq hentry
      exact ⟨entry, ⟨⟨hentry, hstatus⟩, hunleased⟩, rfl⟩
  · intro eventId
    cases hentry : store.events.get eventId with
    | none =>
        simp only [leaseAfter, hentry]
        apply hkept
        intro entry hentries hids
        obtain ⟨hfound, _⟩ := hmem.mp hentries
        rw [hids, hentry] at hfound
        cases hfound
    | some entry =>
        obtain rfl := hkeyed.eventId_eq hentry
        simp only [leaseAfter, hentry]
        split_ifs with hclaims
        · exact htaken entry (hmem.mpr ⟨hentry, hclaims.1⟩) hclaims.2
        · apply hkept
          intro found hentries hids
          obtain ⟨hfound, hstatus⟩ := hmem.mp hentries
          rw [hids, hentry] at hfound
          obtain rfl := Option.some.inj hfound
          simpa [hstatus] using hclaims

end Claiming

section Publishing

variable {store : OutboxStore} {eventId workerId : String} {now : Instant}

theorem markPublished_held {lease : OutboxDelivery} {entry : OutboxEntry}
    (hlease : store.leases.get eventId = some lease)
    (hworker : lease.workerId = workerId) (hlive : now < lease.leaseUntil)
    (hentry : store.events.get eventId = some entry) :
    store.markPublished eventId workerId now = .ok (⟨entry.event, .published⟩,
      ⟨⟨eventId, some ⟨entry.event, .published⟩⟩ :: store.events,
        ⟨eventId, none⟩ :: store.leases⟩) := by
  simp only [markPublished, hlease, hworker, require, beq_self_eq_true, hlive,
    decide_true, hentry]
  rfl

theorem markPublished_rejected (hnot : ¬ ∃ lease, store.leases.get eventId = some lease ∧
      lease.workerId = workerId ∧ now < lease.leaseUntil) :
    ∃ failure, store.markPublished eventId workerId now = .error failure := by
  unfold markPublished
  cases hlease : store.leases.get eventId with
  | none => exact ⟨_, rfl⟩
  | some lease =>
      by_cases hworker : lease.workerId = workerId
      · have hlapsed : ¬ now < lease.leaseUntil := by
          intro hlive
          exact hnot ⟨lease, hlease, hworker, hlive⟩
        simp only [require, hworker, beq_self_eq_true, hlapsed, decide_false]
        exact ⟨_, rfl⟩
      · simp only [require, beq_eq_false_iff_ne.mpr hworker]
        exact ⟨_, rfl⟩

end Publishing

end OutboxStore

namespace OutboxRefinement

inductive Call where
  | append (entry : OutboxEntry)
  | claimPending (workerId : String) (leaseSeconds : ℤ) (now : Instant)
      (limit : ℕ)
  | markPublished (eventId workerId : String) (now : Instant)
  | pending

inductive Answer where
  | stored (entry : OutboxEntry)
  | claimed (deliveries : List OutboxDelivery)
  | listed (entries : List OutboxEntry)

/-- Claims and listings agree as sets. -/
def Answer.Same : Answer → Answer → Prop
  | .stored entry, .stored entry' => entry = entry'
  | .claimed deliveries, .claimed deliveries' =>
      ∀ delivery, delivery ∈ deliveries ↔ delivery ∈ deliveries'
  | .listed entries, .listed entries' =>
      ∀ entry, entry ∈ entries ↔ entry ∈ entries'
  | _, _ => False

/-- The call on the store. -/
def Call.store (store : OutboxStore) : Call → Except Failure (Answer × OutboxStore)
  | .append entry => do
      let (entry, store) ← store.append entry
      return (.stored entry, store)
  | .claimPending workerId leaseSeconds now limit => do
      let (selected, store) ← store.claimPending workerId leaseSeconds now limit
      return (.claimed selected, store)
  | .markPublished eventId workerId now => do
      let (entry, store) ← store.markPublished eventId workerId now
      return (.stored entry, store)
  | .pending => .ok (.listed store.pending, store)

/-- The call on the table; `append` does not write the status. -/
def Call.program : Call → WorkTx Answer
  | .append entry => do
      let row ← OutboxRepository.append entry.event
      return .stored row.toEntry
  | .claimPending workerId leaseSeconds now limit => do
      let deliveries ← OutboxRepository.claimPending workerId leaseSeconds now limit
      return .claimed deliveries
  | .markPublished eventId workerId now => do
      let row ← OutboxRepository.markPublished eventId workerId now
      return .stored row.toEntry
  | .pending => do
      let rows ← OutboxRepository.pending
      return .listed (rows.map OutboxRow.toEntry)

def Call.table (rows : WorkRows) (call : Call) : Except Failure (Answer × WorkRows) :=
  call.program.atomically (fun _ => false) rows

/-- One event in the table and in the store, with the store's lease. -/
def Matches (row : Option OutboxRow) (entry : Option OutboxEntry)
    (lease : Option OutboxDelivery) : Prop :=
  match row, entry with
  | none, none => lease = none
  | some row, some entry => row.toEntry = entry ∧
      (row.publishedAt.isSome → lease = none) ∧
      (row.publishedAt = none →
        row.deliveryAttempt = (lease.map OutboxDelivery.attempt).getD 0 ∧
        row.delivery = lease.map fun lease => ⟨lease.workerId, lease.leaseUntil⟩)
  | _, _ => False

namespace Matches

open OutboxRepository OutboxStore

variable {row : OutboxRow} {entry : OutboxEntry} {lease : Option OutboxDelivery}
  {workerId : String} {now leaseUntil : Instant}

theorem pending_iff (h : Matches (some row) (some entry) lease) :
    entry.status = .pending ↔ row.publishedAt = none := by
  obtain ⟨rfl, _⟩ := h
  cases hpublished : row.publishedAt <;> simp [OutboxRow.toEntry, hpublished]

theorem event_eq (h : Matches (some row) (some entry) lease) :
    row.event = entry.event := by
  obtain ⟨rfl, _⟩ := h
  rfl

/-- They offer the same events, those dated later apart. -/
theorem claimable_iff (h : Matches (some row) (some entry) lease) :
    claimable now row = true ↔ entry.status = .pending ∧
      leased now lease = false ∧ entry.event.occurredAt ≤ now := by
  rw [claimable_eq_true, h.event_eq, h.pending_iff]
  constructor
  · rintro ⟨hpublished, hdue, hlapsed⟩
    refine ⟨hpublished, ?_, hdue⟩
    cases lease with
    | none => rfl
    | some lease =>
        have hdelivery := (h.2.2 hpublished).2
        simpa [leased] using hlapsed ⟨lease.workerId, lease.leaseUntil⟩ hdelivery
  · rintro ⟨hpublished, hleased, hdue⟩
    refine ⟨hpublished, hdue, ?_⟩
    rw [(h.2.2 hpublished).2]
    cases lease with
    | none => simp
    | some lease => simpa [leased] using hleased

theorem delivered_eq (h : Matches (some row) (some entry) lease)
    (hpending : entry.status = .pending) :
    delivered workerId leaseUntil row = delivery workerId leaseUntil entry lease := by
  have hattempt := (h.2.2 (h.pending_iff.mp hpending)).1
  cases lease <;> simp_all [delivered, delivery, h.event_eq]

theorem claimed (h : Matches (some row) (some entry) lease)
    (hpending : entry.status = .pending) :
    Matches (some (OutboxRepository.claimed workerId leaseUntil row)) (some entry)
      (some (delivery workerId leaseUntil entry lease)) := by
  have hpublished := h.pending_iff.mp hpending
  have hattempt := (h.2.2 hpublished).1
  refine ⟨h.1, ?_, fun _ => ⟨?_, rfl⟩⟩
  · simp [OutboxRepository.claimed, hpublished]
  · cases lease <;> simp_all [OutboxRepository.claimed, delivery]

/-- A worker holds the same deliveries in both. -/
theorem heldBy_iff (h : Matches (some row) (some entry) lease) :
    heldBy workerId now row = true ↔ ∃ held, lease = some held ∧
      held.workerId = workerId ∧ now < held.leaseUntil := by
  rw [heldBy_eq_true]
  cases hpublished : row.publishedAt with
  | some _ =>
      have hnone := h.2.1 (by simp [hpublished])
      simp [hnone]
  | none =>
      rw [(h.2.2 hpublished).2]
      cases lease with
      | none => simp
      | some held =>
          simp only [Option.map_some, Option.some.injEq, DeliveryLease.mk.injEq,
            true_and, exists_eq_left']
          constructor
          · rintro ⟨_, ⟨rfl, rfl⟩, hlive⟩
            exact ⟨rfl, hlive⟩
          · rintro ⟨rfl, hlive⟩
            exact ⟨_, ⟨rfl, rfl⟩, hlive⟩

theorem published (h : Matches (some row) (some entry) lease) :
    Matches (some (OutboxRepository.published now row))
      (some ⟨entry.event, .published⟩) none := by
  refine ⟨?_, fun _ => rfl, ?_⟩
  · simp [OutboxRow.toEntry, OutboxRepository.published, h.event_eq]
  · simp [OutboxRepository.published]

end Matches

/-- The table holds what the store holds. -/
structure Simulates (store : OutboxStore) (rows : WorkRows) : Prop where
  matched : ∀ eventId, Matches (eventAt rows eventId) (store.events.get eventId)
    (store.leases.get eventId)
  keyed : store.Keyed
  named : ∀ {eventId lease}, store.leases.get eventId = some lease →
    PyText.blank lease.workerId = false

/-- Both calls succeed with the same answer, or both fail. -/
def Agrees (left : Except Failure (Answer × OutboxStore))
    (right : Except Failure (Answer × WorkRows)) : Prop :=
  match left, right with
  | .ok (answer, store), .ok (answer', rows) =>
      answer.Same answer' ∧ Simulates store rows
  | .error _, .error _ => True
  | _, _ => False

namespace Simulates

variable {store : OutboxStore} {rows : WorkRows}

theorem entry_of_row (hsim : Simulates store rows) {eventId : String}
    {row : OutboxRow} (hrow : eventAt rows eventId = some row) :
    store.events.get eventId = some row.toEntry := by
  have hmatched := hsim.matched eventId
  rw [hrow] at hmatched
  cases hentry : store.events.get eventId with
  | none => simp [Matches, hentry] at hmatched
  | some entry =>
      rw [hentry] at hmatched
      rw [hmatched.1]

theorem row_of_entry (hsim : Simulates store rows) {eventId : String}
    {entry : OutboxEntry} (hentry : store.events.get eventId = some entry) :
    ∃ row, eventAt rows eventId = some row ∧ row.toEntry = entry := by
  have hmatched := hsim.matched eventId
  rw [hentry] at hmatched
  cases hrow : eventAt rows eventId with
  | none => simp [Matches, hrow] at hmatched
  | some row =>
      rw [hrow] at hmatched
      exact ⟨row, rfl, hmatched.1⟩

/-- What the rows of an event in the table and in the store agree on. -/
theorem matches_of_row (hsim : Simulates store rows) {eventId : String}
    {row : OutboxRow} (hrow : eventAt rows eventId = some row) :
    Matches (some row) (some row.toEntry) (store.leases.get eventId) := by
  have hmatched := hsim.matched eventId
  rwa [hrow, hsim.entry_of_row hrow] at hmatched

theorem none_iff (hsim : Simulates store rows) (eventId : String) :
    eventAt rows eventId = none ↔ store.events.get eventId = none := by
  constructor
  · intro hrow
    by_contra hentry
    obtain ⟨entry, hentry⟩ := Option.ne_none_iff_exists'.mp hentry
    obtain ⟨row, hfound, _⟩ := hsim.row_of_entry hentry
    simp [hrow] at hfound
  · intro hentry
    by_contra hrow
    obtain ⟨row, hrow⟩ := Option.ne_none_iff_exists'.mp hrow
    simp [hsim.entry_of_row hrow] at hentry

/-- The store and the table change one event to matching values. -/
theorem update (hsim : Simulates store rows) {store' : OutboxStore}
    {rows' : WorkRows} (eventId : String)
    (hmatched : Matches (eventAt rows' eventId) (store'.events.get eventId)
      (store'.leases.get eventId))
    (hkeyed : ∀ entry, store'.events.get eventId = some entry →
      entry.event.eventId = eventId)
    (hnamed : ∀ lease, store'.leases.get eventId = some lease →
      PyText.blank lease.workerId = false)
    (hother : ∀ other, other ≠ eventId → eventAt rows' other = eventAt rows other ∧
      store'.events.get other = store.events.get other ∧
      store'.leases.get other = store.leases.get other) :
    Simulates store' rows' := by
  constructor
  · intro other
    by_cases hsame : other = eventId
    · subst hsame
      exact hmatched
    · obtain ⟨hrow, hentry, hlease⟩ := hother other hsame
      rw [hrow, hentry, hlease]
      exact hsim.matched other
  · constructor
    intro other entry hentry
    by_cases hsame : other = eventId
    · subst hsame
      exact hkeyed entry hentry
    · rw [(hother other hsame).2.1] at hentry
      exact hsim.keyed.eventId_eq hentry
  · intro other lease hlease
    by_cases hsame : other = eventId
    · subst hsame
      exact hnamed lease hlease
    · rw [(hother other hsame).2.2] at hlease
      exact hsim.named hlease

end Simulates

/-- The condition on a call: an event is new or as the store has it, and
nothing that is offered is dated later than the claim. -/
def Call.Current (store : OutboxStore) : Call → Prop
  | .append entry =>
      match store.events.get entry.event.eventId with
      | none => entry.status = .pending
      | some existing =>
          existing.event = entry.event → existing.status = entry.status
  | .claimPending _ _ now _ => ∀ entry ∈ store.pending,
      OutboxStore.leased now (store.leases.get entry.event.eventId) = false →
        entry.event.occurredAt ≤ now
  | _ => True

/-- The limit of a claim is at least the number of claimable events. -/
def Call.Ample (store : OutboxStore) (rows : WorkRows) : Call → Prop
  | .claimPending _ _ now limit =>
      (store.pending.filter fun entry => !OutboxStore.leased now
        (store.leases.get entry.event.eventId)).length ≤ limit ∧
      ((OutboxRepository.all rows).filter fun entry =>
        OutboxRepository.claimable now entry.2).length ≤ limit
  | _ => True

section Calls

variable {store : OutboxStore} {rows : WorkRows}

theorem append_agrees (hsim : Simulates store rows) {entry : OutboxEntry}
    (hcurrent : (Call.append entry).Current store) :
    Agrees ((Call.append entry).store store) ((Call.append entry).table rows) := by
  simp only [Call.table, Call.program, atomically_map,
    OutboxRepository.append_atomically, Call.store, OutboxStore.append]
  cases hentry : store.events.get entry.event.eventId with
  | none =>
      have hrow := (hsim.none_iff _).mpr hentry
      have hlease : store.leases.get entry.event.eventId = none := by
        simpa [Matches, hrow, hentry] using hsim.matched entry.event.eventId
      simp only [Call.Current, hentry] at hcurrent
      have hstored : OutboxRow.toEntry ⟨entry.event, none, 0, none⟩ = entry := by
        cases entry
        simp_all [OutboxRow.toEntry]
      simp only [hrow]
      refine ⟨hstored.symm, hsim.update entry.event.eventId ?_ ?_ ?_ ?_⟩
      · simp [Matches, hstored, hlease]
      · intro found hfound
        rw [Rows.get_cons_self] at hfound
        rw [Option.some.inj hfound]
      · intro lease hfound
        rw [hlease] at hfound
        cases hfound
      · intro other hother
        simp [hother.symm]
  | some existing =>
      obtain ⟨row, hrow, rfl⟩ := hsim.row_of_entry hentry
      simp only [hrow]
      simp only [Call.Current, hentry] at hcurrent
      by_cases hevent : row.event = entry.event
      · have hsame : row.toEntry = entry := by
          have hstatus := hcurrent hevent
          cases entry
          simp_all [OutboxRow.toEntry]
        simp only [hsame, hevent, beq_self_eq_true, require, ↓reduceIte]
        exact ⟨rfl, hsim⟩
      · have hdiffer : row.toEntry ≠ entry := by
          rintro rfl
          exact hevent rfl
        simp [hevent, require, hdiffer, Agrees]

theorem pending_agrees (hsim : Simulates store rows) :
    Agrees (Call.pending.store store) (Call.pending.table rows) := by
  refine ⟨?_, hsim⟩
  intro entry
  simp only [OutboxStore.mem_pending, List.mem_map, List.mem_insertionSort,
    List.mem_filter, Prod.exists, OutboxRepository.mem_all, List.nil_append]
  constructor
  · rintro ⟨eventId, hentry, hstatus⟩
    obtain ⟨row, hrow, rfl⟩ := hsim.row_of_entry hentry
    have hmatched := hsim.matches_of_row hrow
    have hpublished := hmatched.pending_iff.mp hstatus
    exact ⟨row, ⟨eventId, row, ⟨hrow, by simp [hpublished]⟩, rfl⟩, rfl⟩
  · rintro ⟨row, ⟨eventId, _, ⟨hrow, hpublished⟩, rfl⟩, rfl⟩
    have hmatched := hsim.matches_of_row hrow
    refine ⟨eventId, hsim.entry_of_row hrow, hmatched.pending_iff.mpr ?_⟩
    simpa using hpublished

theorem claimPending_agrees (hsim : Simulates store rows) {workerId : String}
    {leaseSeconds : ℤ} {now : Instant} {limit : ℕ}
    (hcurrent : (Call.claimPending workerId leaseSeconds now limit).Current store)
    (hample : (Call.claimPending workerId leaseSeconds now limit).Ample store rows) :
    Agrees ((Call.claimPending workerId leaseSeconds now limit).store store)
      ((Call.claimPending workerId leaseSeconds now limit).table rows) := by
  by_cases hvalid : PyText.blank workerId = false ∧ 0 < leaseSeconds ∧ 1 ≤ limit
  · obtain ⟨hworker, hlease, hlimit⟩ := hvalid
    obtain ⟨selected, leases, hstore, hselected, hleases⟩ :=
      OutboxStore.claimPending_spec hsim.keyed hworker hlease hlimit hample.1
    obtain ⟨deliveries, rows', htable, hdeliveries, hrows⟩ :=
      OutboxRepository.claimPending_atomically hworker hlease hlimit hample.2
    simp only [Call.table, Call.program, atomically_map, htable, Call.store, hstore]
    have hclaimable : ∀ {eventId row}, eventAt rows eventId = some row →
        (OutboxRepository.claimable now row = true ↔
          row.toEntry.status = .pending ∧
            OutboxStore.leased now (store.leases.get eventId) = false) := by
      intro eventId row hrow
      have hentry := hsim.entry_of_row hrow
      rw [(hsim.matches_of_row hrow).claimable_iff]
      constructor
      · rintro ⟨hstatus, hunleased, _⟩
        exact ⟨hstatus, hunleased⟩
      · rintro ⟨hstatus, hunleased⟩
        refine ⟨hstatus, hunleased, hcurrent row.toEntry ?_ ?_⟩
        · exact OutboxStore.mem_pending.mpr ⟨eventId, hentry, hstatus⟩
        · rwa [hsim.keyed.eventId_eq hentry]
    refine ⟨?_, ⟨?_, ⟨hsim.keyed.eventId_eq⟩, ?_⟩⟩
    · intro taken
      rw [hselected, hdeliveries]
      constructor
      · rintro ⟨eventId, entry, hentry, hstatus, hunleased, rfl⟩
        obtain ⟨row, hrow, rfl⟩ := hsim.row_of_entry hentry
        exact ⟨eventId, row, hrow, (hclaimable hrow).mpr ⟨hstatus, hunleased⟩,
          ((hsim.matches_of_row hrow).delivered_eq hstatus).symm⟩
      · rintro ⟨eventId, row, hrow, hdue, rfl⟩
        obtain ⟨hstatus, hunleased⟩ := (hclaimable hrow).mp hdue
        exact ⟨eventId, row.toEntry, hsim.entry_of_row hrow, hstatus, hunleased,
          (hsim.matches_of_row hrow).delivered_eq hstatus⟩
    · intro eventId
      rw [hrows, hleases]
      cases hrow : eventAt rows eventId with
      | none =>
          have hentry := (hsim.none_iff _).mp hrow
          have hmatched := hsim.matched eventId
          simpa [OutboxStore.leaseAfter, hentry, hrow] using hmatched
      | some row =>
          have hentry := hsim.entry_of_row hrow
          have hmatched := hsim.matches_of_row hrow
          by_cases hdue : OutboxRepository.claimable now row = true
          · obtain ⟨hstatus, hunleased⟩ := (hclaimable hrow).mp hdue
            simpa [OutboxStore.leaseAfter, hentry, hdue, hstatus, hunleased] using
              hmatched.claimed hstatus
          · have hnot := mt (hclaimable hrow).mpr hdue
            simpa [OutboxStore.leaseAfter, hentry, hdue, hnot] using hmatched
    · intro eventId lease hfound
      rw [hleases] at hfound
      simp only [OutboxStore.leaseAfter] at hfound
      split at hfound
      · split_ifs at hfound
        · rw [← Option.some.inj hfound]
          exact hworker
        · exact hsim.named hfound
      · exact hsim.named hfound
  · have hstore : ∃ failure, store.claimPending workerId leaseSeconds now limit =
        .error failure := by
      simp only [OutboxStore.claimPending, require]
      cases hworker : PyText.blank workerId with
      | true => exact ⟨_, rfl⟩
      | false =>
          by_cases hlease : 0 < leaseSeconds
          · have hlimit : ¬ 1 ≤ limit := fun hlimit => hvalid ⟨hworker, hlease, hlimit⟩
            simp only [hlease, hlimit, decide_true, decide_false]
            exact ⟨_, rfl⟩
          · simp only [hlease, decide_false]
            exact ⟨_, rfl⟩
    have htable : ∃ failure, (OutboxRepository.claimPending workerId leaseSeconds
        now limit).atomically (fun _ => false) rows = .error failure := by
      simp only [OutboxRepository.claimPending, atomically, execute_bind, require]
      cases hworker : PyText.blank workerId with
      | true => exact ⟨_, rfl⟩
      | false =>
          by_cases hlease : 0 < leaseSeconds
          · have hlimit : ¬ 1 ≤ limit := fun hlimit => hvalid ⟨hworker, hlease, hlimit⟩
            simp only [hlease, hlimit, decide_true, decide_false]
            exact ⟨_, rfl⟩
          · simp only [hlease, decide_false]
            exact ⟨_, rfl⟩
    obtain ⟨failure, hstore⟩ := hstore
    obtain ⟨failure', htable⟩ := htable
    simp only [Call.table, Call.program, atomically_map, htable, Call.store, hstore]
    trivial

theorem markPublished_agrees (hsim : Simulates store rows) (eventId workerId : String)
    (now : Instant) :
    Agrees ((Call.markPublished eventId workerId now).store store)
      ((Call.markPublished eventId workerId now).table rows) := by
  by_cases hheld : ∃ lease, store.leases.get eventId = some lease ∧
      lease.workerId = workerId ∧ now < lease.leaseUntil
  · obtain ⟨lease, hlease, rfl, hlive⟩ := hheld
    have hnamed := hsim.named hlease
    cases hrow : eventAt rows eventId with
    | none =>
        have hmatched := hsim.matched eventId
        simp [hrow, (hsim.none_iff _).mp hrow, hlease, Matches] at hmatched
    | some row =>
        have hentry := hsim.entry_of_row hrow
        have hmatched := hsim.matches_of_row hrow
        have hheld := hmatched.heldBy_iff.mpr ⟨lease, hlease, rfl, hlive⟩
        simp only [Call.table, Call.program, atomically_map,
          OutboxRepository.markPublished_atomically eventId hnamed, hrow,
          Option.filter_some, hheld, Call.store,
          OutboxStore.markPublished_held hlease rfl hlive hentry]
        have hpublished := @Matches.published _ _ _ now hmatched
        refine ⟨hpublished.1.symm, hsim.update eventId ?_ ?_ ?_ ?_⟩
        · simpa using hpublished
        · intro found hfound
          rw [Rows.get_cons_self] at hfound
          have hkey := hsim.keyed.eventId_eq hentry
          rw [← Option.some.inj hfound]
          exact hkey
        · intro found hfound
          rw [Rows.get_cons_self] at hfound
          cases hfound
        · intro other hother
          simp [hother.symm]
  · obtain ⟨failure, hstore⟩ := OutboxStore.markPublished_rejected hheld
    have htable : ∃ failure, (OutboxRepository.markPublished eventId workerId
        now).atomically (fun _ => false) rows = .error failure := by
      cases hworker : PyText.blank workerId with
      | true =>
          simp [OutboxRepository.markPublished, atomically, execute_bind, hworker,
            require]
      | false =>
          rw [OutboxRepository.markPublished_atomically eventId hworker]
          cases hrow : eventAt rows eventId with
          | none => exact ⟨_, rfl⟩
          | some row =>
              have hfree : ¬ OutboxRepository.heldBy workerId now row = true := by
                intro hrowHeld
                exact hheld ((hsim.matches_of_row hrow).heldBy_iff.mp hrowHeld)
              simp [Option.filter_some, hfree]
    obtain ⟨failure', htable⟩ := htable
    simp only [Call.table, Call.program, atomically_map, htable, Call.store, hstore]
    trivial

end Calls

theorem call_agrees {store : OutboxStore} {rows : WorkRows}
    (hsim : Simulates store rows) {call : Call} (hample : call.Ample store rows)
    (hcurrent : call.Current store) : Agrees (call.store store) (call.table rows) := by
  cases call with
  | append entry => exact append_agrees hsim hcurrent
  | claimPending workerId leaseSeconds now limit =>
      exact claimPending_agrees hsim hcurrent hample
  | markPublished eventId workerId now =>
      exact markPublished_agrees hsim eventId workerId now
  | pending => exact pending_agrees hsim

section Sequences

variable {σ : Type}

/-- The state after a call; a rejected call changes nothing. -/
def after (state : σ) : Except Failure (Answer × σ) → σ
  | .ok (_, state') => state'
  | .error _ => state

/-- The answers to a sequence of calls and the state they end in. -/
def answers (handle : Call → σ → Except Failure (Answer × σ)) (state : σ) :
    List Call → List (Except Failure Answer) × σ
  | [] => ([], state)
  | call :: rest =>
      let result := handle call state
      let (given, last) := answers handle (after state result) rest
      (result.map Prod.fst :: given, last)

/-- Both accept with the same answer or both reject. -/
def SameOutcome : Except Failure Answer → Except Failure Answer → Prop
  | .ok answer, .ok answer' => answer.Same answer'
  | .error _, .error _ => True
  | _, _ => False

/-- A condition that every call of a sequence meets when it is made. -/
def Along (condition : OutboxStore → WorkRows → Call → Prop) :
    OutboxStore → WorkRows → List Call → Prop
  | _, _, [] => True
  | store, rows, call :: rest => condition store rows call ∧
      Along condition (after store (call.store store))
        (after rows (call.table rows)) rest

def accepts : Except Failure Answer → Bool
  | .ok _ => true
  | .error _ => false

/-- The same calls are accepted. -/
theorem accepts_eq {given given' : List (Except Failure Answer)}
    (hsame : List.Forall₂ SameOutcome given given') :
    given.map accepts = given'.map accepts := by
  induction hsame with
  | nil => rfl
  | @cons outcome outcome' _ _ houtcome _ ih =>
      rw [List.map_cons, List.map_cons, ih]
      cases outcome <;> cases outcome' <;> first | rfl | exact houtcome.elim

theorem Agrees.outcome {left : Except Failure (Answer × OutboxStore)}
    {right : Except Failure (Answer × WorkRows)} (h : Agrees left right) :
    SameOutcome (left.map Prod.fst) (right.map Prod.fst) := by
  rcases left with _ | ⟨answer, store⟩ <;> rcases right with _ | ⟨answer', rows⟩
  · trivial
  · exact h
  · exact h
  · exact h.1

theorem Agrees.simulates {store : OutboxStore} {rows : WorkRows}
    (hsim : Simulates store rows) {left : Except Failure (Answer × OutboxStore)}
    {right : Except Failure (Answer × WorkRows)} (h : Agrees left right) :
    Simulates (after store left) (after rows right) := by
  rcases left with _ | ⟨answer, store⟩ <;> rcases right with _ | ⟨answer', rows⟩
  · exact hsim
  · exact h.elim
  · exact h.elim
  · exact h.2

theorem answers_agree {store : OutboxStore} {rows : WorkRows}
    (hsim : Simulates store rows) (calls : List Call)
    (hample : Along (fun store rows call => call.Ample store rows) store rows calls)
    (hcurrent : Along (fun store _ call => call.Current store) store rows calls) :
    List.Forall₂ SameOutcome (answers (fun call store => call.store store) store calls).1
      (answers (fun call rows => call.table rows) rows calls).1 ∧
    Simulates (answers (fun call store => call.store store) store calls).2
      (answers (fun call rows => call.table rows) rows calls).2 := by
  induction calls generalizing store rows with
  | nil => exact ⟨.nil, hsim⟩
  | cons call rest ih =>
      have hagrees := call_agrees hsim hample.1 hcurrent.1
      obtain ⟨hrest, hlast⟩ := ih (hagrees.simulates hsim) hample.2 hcurrent.2
      exact ⟨.cons hagrees.outcome hrest, hlast⟩

end Sequences

theorem simulates_empty {rows : WorkRows} (hempty : ∀ eventId, eventAt rows eventId = none) :
    Simulates ⟨[], []⟩ rows := by
  constructor
  · intro eventId
    simp [hempty, Matches]
  · constructor
    intro eventId entry hentry
    cases hentry
  · intro eventId lease hlease
    cases hlease

/-- One event, appended again after it was claimed and published. -/
def sampleCalls : List Call :=
  let event : OutboxEvent := ⟨"event-1", "job.completed", "job", "job-1", [], 0⟩
  [.append ⟨event, .pending⟩, .claimPending "worker-1" 60 5 1,
    .markPublished "event-1" "worker-1" 10, .append ⟨event, .pending⟩]

end OutboxRefinement

end ShemaPlatform
