/-
The repository of commercial actions where it leads an action through its send:
the reservation under a lease, its two ways out, and the plain save.
-/
import ShemaPlatform.Repositories

namespace ShemaPlatform

open Calendar ReadCommitted ReadCommitted.Prog

variable {E : Type}

namespace CommercialActions

/-- The largest value of an `integer` column. -/
def integerMax : Nat := 2147483647

/-- What the table asks of a row. -/
def writable (action : CommercialAction) : Except Failure Unit := do
  require (decide (action.sendAttempt ≤ integerMax)) (.numericOverflow "send_attempt")
  require ((action.status == .sending) == action.sendWorkerId.isSome &&
      (action.status == .sending) == action.sendLeaseUntil.isSome)
    (.checkViolation "commercial_action_send_lease_check")

def unknownAction (actionId : String) : Failure :=
  .keyError s!"unknown commercial action: {actionId}"

/-- `add` with the checks of the table. -/
def addWritable (action : CommercialAction) : Tx E Unit := do
  lift (writable action)
  add action

/-- The where clause of `claim_for_send`. -/
def claimable (now : Instant) (row : CommercialAction) : Bool :=
  row.status == .ready ||
    row.status == .sending && row.sendLeaseUntil.any fun leaseUntil => leaseUntil ≤ now

def claimed (workerId : String) (leaseUntil : Instant) (row : CommercialAction) :
    CommercialAction :=
  { row with
    status := .sending
    sendAttempt := row.sendAttempt + 1
    sendWorkerId := some workerId
    sendLeaseUntil := some leaseUntil }

/-- What is told to a claim that found no row to update. -/
def claimRefused : Option CommercialAction → Failure
  | some current =>
      if current.status = .sending then
        .quarantineRequired "commercial action send is already in progress"
      else .quarantineRequired "commercial action changed during send reservation"
  | none => .quarantineRequired "commercial action changed during send reservation"

def claimForSend (actionId workerId : String) (leaseUntil now : Instant) :
    Tx E CommercialAction := do
  lift (require (!PyText.blank workerId) (.valueError "send worker is required"))
  lift (require (decide (now < leaseUntil))
    (.valueError "send lease must be in the future"))
  match ← get actionId with
  | none => raise (unknownAction actionId)
  | some current => do
      lift (require (current.status == .ready || current.status == .sending)
        (.quarantineRequired "commercial action is not available for external send"))
      lift current.validateForSend
      match ← updateWhere (Key.commercialAction actionId) fun (row : CommercialAction) =>
          if claimable now row then some (claimed workerId leaseUntil row) else none with
      | some row => do
          lift (writable row)
          return row
      | none => do
          let current ← get actionId
          raise (claimRefused current)

/-- The reservation is still this worker's. -/
def reservedBy (workerId : String) (now : Instant) (row : CommercialAction) : Bool :=
  row.status == .sending && row.sendWorkerId == some workerId &&
    row.sendLeaseUntil.any fun leaseUntil => now < leaseUntil

/-- The row without a reservation. -/
def released (status : CommercialActionStatus) (row : CommercialAction) :
    CommercialAction :=
  { row with status, sendWorkerId := none, sendLeaseUntil := none }

def failExternalEffect (actionId workerId : String) (now : Instant) :
    Tx E (Option CommercialAction) := do
  lift (require (!PyText.blank workerId) (.valueError "send worker is required"))
  updateWhere (Key.commercialAction actionId) fun (row : CommercialAction) =>
    if reservedBy workerId now row then some (released .failed row) else none

def completeSend (actionId workerId : String) (now : Instant) :
    Tx E CommercialAction := do
  lift (require (!PyText.blank workerId) (.valueError "send worker is required"))
  match ← updateWhere (Key.commercialAction actionId) fun (row : CommercialAction) =>
      if reservedBy workerId now row then some (released .sent row) else none with
  | none => raise (.integrityViolation
      "commercial action completion rejected: missing or expired send lease")
  | some row => return row

def save (action : CommercialAction) : Tx E Unit := do
  lift (require (action.status != .sent) (.integrityViolation
    "commercial action SENT state requires lease-guarded completion"))
  match ← get action.actionId with
  | none => raise (unknownAction action.actionId)
  | some current => do
      lift (require (current.ownerActorId == action.ownerActorId)
        (.integrityViolation "commercial action owner scope is immutable"))
      match ← updateWhere (Key.commercialAction action.actionId)
          fun (_ : CommercialAction) => some action with
      | none => raise (unknownAction action.actionId)
      | some row => lift (writable row)

variable {rows rows' : Rows Row} {action result : CommercialAction}
  {actionId workerId : String} {leaseUntil now : Instant} {env : E}

theorem writable_eq_ok : writable action = .ok () ↔ action.sendAttempt ≤ integerMax ∧
    action.sendWorkerId.isSome = (action.status == .sending) ∧
    action.sendLeaseUntil.isSome = (action.status == .sending) := by
  simp only [writable, bind_eq_ok, require_eq_ok, decide_eq_true_eq, Bool.and_eq_true,
    beq_iff_eq, exists_const]
  rw [@eq_comm _ _ action.sendWorkerId.isSome, @eq_comm _ _ action.sendLeaseUntil.isSome]

theorem addWritable_eq_ok :
    (addWritable action : Tx E Unit).atomically env rows = .ok ((), rows') ↔
      writable action = .ok () ∧ rows.get (Key.commercialAction action.actionId) = none ∧
        rows' = ⟨.commercialAction action.actionId, some action⟩ :: rows := by
  rw [atomically_eq_ok]
  simp only [addWritable, add, execute_bind_eq_ok, execute_lift_eq_ok,
    execute_insert_eq_ok]
  constructor
  · rintro ⟨_, ⟨_, _, ⟨hwritable, rfl⟩, hnone, rfl⟩, rfl⟩
    exact ⟨hwritable, hnone, rfl⟩
  · rintro ⟨hwritable, hnone, rfl⟩
    exact ⟨_, ⟨(), [], ⟨hwritable, rfl⟩, hnone, rfl⟩, rfl⟩

theorem available_of_claimable {row : CommercialAction} (h : claimable now row = true) :
    (row.status == .ready || row.status == .sending) = true := by
  simp only [claimable, Bool.or_eq_true, Bool.and_eq_true] at h ⊢
  rcases h with hready | ⟨hsending, _⟩
  · exact Or.inl hready
  · exact Or.inr hsending

/-- What a successful claim found and left. -/
theorem claimForSend_eq_ok :
    (claimForSend actionId workerId leaseUntil now : Tx E _).atomically env rows =
        .ok (result, rows') ↔
      PyText.blank workerId = false ∧ now < leaseUntil ∧
        ∃ row : CommercialAction, rows.get (Key.commercialAction actionId) = some row ∧
          row.validateForSend = .ok () ∧ claimable now row = true ∧
          writable (claimed workerId leaseUntil row) = .ok () ∧
          result = claimed workerId leaseUntil row ∧
          rows' = ⟨.commercialAction actionId, some result⟩ :: rows := by
  rw [atomically_eq_ok]
  simp only [claimForSend, get, execute_bind_eq_ok, execute_lift_eq_ok, require_eq_ok,
    execute_select_eq_ok, decide_eq_true_eq, Bool.not_eq_true']
  constructor
  · rintro ⟨own, ⟨_, _, ⟨hworker, rfl⟩, _, _, ⟨hlease, rfl⟩, found, _, ⟨rfl, rfl⟩, hrest⟩,
      rfl⟩
    rw [List.nil_append] at hrest
    cases hrow : rows.get (Key.commercialAction actionId) with
    | none => simp [hrow] at hrest
    | some row =>
        simp only [hrow, execute_bind_eq_ok, execute_lift_eq_ok,
          execute_updateWhere_eq_ok] at hrest
        obtain ⟨_, _, ⟨_, rfl⟩, _, _, ⟨hvalid, rfl⟩, found, _, hupdate, hrest⟩ := hrest
        rw [List.nil_append, hrow, Option.bind_some] at hupdate
        rcases hupdate with ⟨_, rfl, rfl⟩ | ⟨updated, hchange, rfl, rfl⟩
        · simp [execute_bind_eq_ok] at hrest
        · simp only [execute_bind_eq_ok, execute_lift_eq_ok, execute_pure_eq_ok] at hrest
          obtain ⟨_, _, ⟨hwritable, rfl⟩, rfl, rfl⟩ := hrest
          cases hclaimable : claimable now row with
          | false => simp [hclaimable] at hchange
          | true =>
              simp only [hclaimable, ↓reduceIte, Option.some.injEq] at hchange
              subst hchange
              exact ⟨hworker, hlease, row, rfl, hvalid, hclaimable, hwritable, rfl, rfl⟩
  · rintro ⟨hworker, hlease, row, hrow, hvalid, hclaimable, hwritable, rfl, rfl⟩
    refine ⟨[⟨.commercialAction actionId, some (claimed workerId leaseUntil row)⟩],
      ⟨(), [], ⟨hworker, rfl⟩, (), [], ⟨hlease, rfl⟩, some row, [], ⟨hrow.symm, rfl⟩, ?_⟩,
      rfl⟩
    simp only [execute_bind_eq_ok, execute_lift_eq_ok, execute_updateWhere_eq_ok]
    refine ⟨(), [], ⟨by rw [available_of_claimable hclaimable]; rfl, rfl⟩, (), [],
      ⟨hvalid, rfl⟩, some (claimed workerId leaseUntil row), _,
      Or.inr ⟨_, ?_, rfl, rfl⟩, ?_⟩
    · rw [List.nil_append, hrow, Option.bind_some, hclaimable]
      rfl
    · simp only [execute_bind_eq_ok, execute_lift_eq_ok, execute_pure_eq_ok]
      exact ⟨(), _, ⟨hwritable, rfl⟩, trivial, rfl⟩

theorem status_of_reservedBy {row : CommercialAction}
    (h : reservedBy workerId now row = true) : row.status = .sending := by
  simp only [reservedBy, Bool.and_eq_true, beq_iff_eq] at h
  exact h.1.1

/-- An update under the reservation: the row it found and the row it left. -/
theorem reserved_update {status : CommercialActionStatus} {updated : CommercialAction}
    (h : (rows.get (Key.commercialAction actionId)).bind (fun (row : CommercialAction) =>
      if reservedBy workerId now row then some (released status row) else none) =
        some updated) :
    ∃ row : CommercialAction, rows.get (Key.commercialAction actionId) = some row ∧
      reservedBy workerId now row = true ∧ updated = released status row := by
  obtain ⟨row, hrow, hchange⟩ := Option.bind_eq_some_iff.mp h
  cases hreserved : reservedBy workerId now row with
  | false => simp [hreserved] at hchange
  | true =>
      simp only [hreserved, ↓reduceIte, Option.some.injEq] at hchange
      exact ⟨row, hrow, hreserved, hchange.symm⟩

theorem failExternalEffect_eq_ok {failed : Option CommercialAction}
    (h : (failExternalEffect actionId workerId now : Tx E _).atomically env rows =
      .ok (failed, rows')) :
    (failed = none ∧ rows' = rows) ∨
      ∃ row : CommercialAction, rows.get (Key.commercialAction actionId) = some row ∧
        reservedBy workerId now row = true ∧ failed = some (released .failed row) ∧
        rows' = ⟨.commercialAction actionId, failed⟩ :: rows := by
  obtain ⟨own, hrun, rfl⟩ := atomically_eq_ok.mp h
  simp only [failExternalEffect, execute_bind_eq_ok, execute_lift_eq_ok,
    execute_updateWhere_eq_ok] at hrun
  obtain ⟨_, _, ⟨_, rfl⟩, hupdate⟩ := hrun
  rcases hupdate with ⟨_, rfl, rfl⟩ | ⟨updated, hfound, rfl, rfl⟩
  · exact Or.inl ⟨rfl, rfl⟩
  · obtain ⟨row, hrow, hreserved, rfl⟩ := reserved_update hfound
    exact Or.inr ⟨row, hrow, hreserved, rfl, rfl⟩

theorem completeSend_eq_ok
    (h : (completeSend actionId workerId now : Tx E _).atomically env rows =
      .ok (result, rows')) :
    ∃ row : CommercialAction, rows.get (Key.commercialAction actionId) = some row ∧
      reservedBy workerId now row = true ∧ result = released .sent row ∧
      rows' = ⟨.commercialAction actionId, some result⟩ :: rows := by
  obtain ⟨own, hrun, rfl⟩ := atomically_eq_ok.mp h
  simp only [completeSend, execute_bind_eq_ok, execute_lift_eq_ok,
    execute_updateWhere_eq_ok] at hrun
  obtain ⟨_, _, ⟨_, rfl⟩, _, _, hupdate, hrest⟩ := hrun
  rcases hupdate with ⟨_, rfl, rfl⟩ | ⟨updated, hfound, rfl, rfl⟩
  · simp at hrest
  · obtain ⟨row, hrow, hreserved, rfl⟩ := reserved_update hfound
    obtain ⟨rfl, rfl⟩ := execute_pure_eq_ok.mp hrest
    exact ⟨row, hrow, hreserved, rfl, rfl⟩

theorem save_eq_ok :
    (save action : Tx E Unit).atomically env rows = .ok ((), rows') ↔
      action.status ≠ .sent ∧ writable action = .ok () ∧
        (∃ row : CommercialAction,
          rows.get (Key.commercialAction action.actionId) = some row ∧
            row.ownerActorId = action.ownerActorId) ∧
        rows' = ⟨.commercialAction action.actionId, some action⟩ :: rows := by
  rw [atomically_eq_ok]
  simp only [save, get, execute_bind_eq_ok, execute_lift_eq_ok, require_eq_ok,
    execute_select_eq_ok, bne_iff_ne]
  constructor
  · rintro ⟨own, ⟨_, _, ⟨hstatus, rfl⟩, found, _, ⟨rfl, rfl⟩, hrest⟩, rfl⟩
    rw [List.nil_append] at hrest
    cases hrow : rows.get (Key.commercialAction action.actionId) with
    | none => simp [hrow] at hrest
    | some row =>
        simp only [hrow, execute_bind_eq_ok, execute_lift_eq_ok, require_eq_ok,
          execute_updateWhere_eq_ok, beq_iff_eq] at hrest
        obtain ⟨_, _, ⟨howner, rfl⟩, _, _, hupdate, hrest⟩ := hrest
        rw [List.nil_append, hrow, Option.bind_some] at hupdate
        rcases hupdate with ⟨hnone, _⟩ | ⟨updated, hchange, rfl, rfl⟩
        · cases hnone
        · obtain rfl := Option.some.inj hchange
          obtain ⟨hwritable, rfl⟩ := execute_lift_eq_ok.mp hrest
          exact ⟨hstatus, hwritable, ⟨row, rfl, howner⟩, rfl⟩
  · rintro ⟨hstatus, hwritable, ⟨row, hrow, howner⟩, rfl⟩
    refine ⟨[⟨.commercialAction action.actionId, some action⟩],
      ⟨(), [], ⟨hstatus, rfl⟩, some row, [], ⟨hrow.symm, rfl⟩, ?_⟩, rfl⟩
    simp only [execute_bind_eq_ok, execute_lift_eq_ok, require_eq_ok,
      execute_updateWhere_eq_ok, beq_iff_eq]
    refine ⟨(), [], ⟨howner, rfl⟩, some action, _, Or.inr ⟨action, ?_, rfl, rfl⟩, ?_⟩
    · rw [List.nil_append, hrow, Option.bind_some]
    · exact execute_lift_eq_ok.mpr ⟨hwritable, rfl⟩

end CommercialActions

end ShemaPlatform
