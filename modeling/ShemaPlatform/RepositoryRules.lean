/-
What each repository call has established when its transaction commits.  The
workflow proofs use these rules and never look inside a repository.
-/
import ShemaPlatform.Repositories

namespace ShemaPlatform

open Calendar ReadCommitted ReadCommitted.Prog

theorem atCommit_require {E K : Type} [DecidableEq K] {V : K → Type}
    {evolution : Evolution E V} {own : Rows V} {world : World E V} {condition : Bool}
    {error : Failure} {post : Unit → Rows V → World E V → Prop} :
    atCommit evolution (lift (require condition error) : Prog E V Failure Unit) post own
      world ↔ (condition = true → post () own world) := by
  rw [atCommit_lift]
  constructor
  · intro h hcondition
    exact h () (require_eq_ok.mpr hcondition)
  · intro h _ hok
    exact h (require_eq_ok.mp hok)

variable {E : Type} {evolution : Evolution E Row} {own : Rows Row}
  {world : World E Row}

theorem atCommit_references {key : Key} {constraint : String}
    {post : Unit → Rows Row → World E Row → Prop} (h : post () own world) :
    atCommit evolution (references key constraint : Tx E Unit) post own world := by
  rw [references, atCommit_bind, atCommit_select]
  exact fun _ _ => atCommit_require.mpr fun _ => h

theorem Idempotency.atCommit_reserve {key requestHash resultRef : String}
    {post : IdempotencyRecord → Rows Row → World E Row → Prop}
    (hnew : Rows.get (own ++ world.rows) (Key.idempotencyKey key) = none →
      post ⟨key, requestHash, resultRef⟩
        (⟨Key.idempotencyKey key, some ⟨key, requestHash, resultRef⟩⟩ :: own)
        world)
    (hexisting : ∀ earlier (record : IdempotencyRecord),
      Meanwhile evolution own.keys earlier world →
      Rows.get (own ++ earlier.rows) (Key.idempotencyKey key) = some record →
      record.requestHash = requestHash → post record own world) :
    atCommit evolution (reserve key requestHash resultRef) post own world := by
  rw [reserve, atCommit_bind, atCommit_insertNew]
  constructor
  · intro _ _ _ _
    simp only [Bool.false_eq_true, if_false, Idempotency.get, atCommit_bind,
      atCommit_select]
    intro earlier hearlier
    cases hrecord : Rows.get (own ++ earlier.rows) (Key.idempotencyKey key) with
    | none => trivial
    | some record =>
        simp only [atCommit_bind, atCommit_require, beq_iff_eq, atCommit_pure]
        exact hexisting earlier record hearlier hrecord
  · intro hnone
    simpa using hnew hnone

theorem Audits.atCommit_append {record : AuditRecord}
    {post : Unit → Rows Row → World E Row → Prop}
    (h : Rows.get (own ++ world.rows) (Key.auditLog record.auditId) = none →
      post () (⟨Key.auditLog record.auditId, some record⟩ :: own) world) :
    atCommit evolution (append record) post own world := by
  rw [append, atCommit_bind, atCommit_lift]
  intro result hresult
  obtain rfl := AuditRecord.new_eq_ok hresult
  exact atCommit_insert.mpr h

theorem Outbox.atCommit_append {event : OutboxEvent}
    {post : OutboxEvent → Rows Row → World E Row → Prop}
    (hnew : Rows.get (own ++ world.rows) (Key.outboxEvent event.eventId) = none →
      post event (⟨Key.outboxEvent event.eventId, some event⟩ :: own) world)
    (hexisting : ∀ earlier, Meanwhile evolution own.keys earlier world →
      Rows.get (own ++ earlier.rows) (Key.outboxEvent event.eventId) =
        some event → post event own world) :
    atCommit evolution (append event) post own world := by
  rw [append, atCommit_bind, atCommit_insertNew]
  constructor
  · intro _ _ _ _
    simp only [Bool.false_eq_true, if_false, atCommit_bind, atCommit_select]
    intro earlier hearlier
    cases hstored : Rows.get (own ++ earlier.rows)
        (Key.outboxEvent event.eventId) with
    | none => trivial
    | some existing =>
        simp only [atCommit_bind, atCommit_require, beq_iff_eq, atCommit_pure]
        intro heq
        rw [heq] at hstored ⊢
        exact hexisting earlier hearlier hstored
  · intro hnone
    simpa using hnew hnone

theorem Economics.atCommit_add {entry : EconomicEntry}
    {post : Unit → Rows Row → World E Row → Prop}
    (h : Rows.get (own ++ world.rows) (Key.economicEntry entry.entryId) = none →
      post () (⟨Key.economicEntry entry.entryId, some entry⟩ :: own) world) :
    atCommit evolution (add entry) post own world := by
  rw [add, atCommit_bind, atCommit_lift]
  intro _ _
  rw [atCommit_bind, atCommit_require]
  exact fun _ => atCommit_insert.mpr h

namespace Orders

/-- An order as its header and its lines say, each from its own listing. -/
def read (headers lines : Rows Row) (orderId : String) :
    Except Failure (Option Order) :=
  match headers.get (Key.orderHeader orderId) with
  | none => .ok none
  | some header => do
      let lines ← OrderLineRow.readLines (lines.get (Key.orderLines orderId))
      let order ← OrderHeader.toOrder orderId header lines
      return some order

theorem read_eq_some {headers lines : Rows Row} {orderId : String}
    {order : Order} (h : read headers lines orderId = .ok (some order)) :
    ∃ header, headers.get (Key.orderHeader orderId) = some header ∧
      OrderLineRow.readLines (lines.get (Key.orderLines orderId)) =
        .ok order.lines ∧
      order = ⟨orderId, header.identityId, header.sourceActionId, order.lines,
        header.ownerActorId, header.status⟩ := by
  unfold read at h
  cases hheader : headers.get (Key.orderHeader orderId) with
  | none => simp [hheader] at h
  | some header =>
      simp only [hheader, bind_eq_ok] at h
      obtain ⟨stored, hstored, found, hfound, horder⟩ := h
      obtain rfl := Option.some.inj (Except.ok.inj horder)
      obtain rfl := Order.new_eq_ok hfound
      exact ⟨header, rfl, hstored, rfl⟩

theorem atCommit_get {orderId : String}
    {post : Option Order → Rows Row → World E Row → Prop}
    (h : ∀ first second result, Meanwhile evolution own.keys first world →
      Meanwhile evolution own.keys second world →
      read (own ++ first.rows) (own ++ second.rows) orderId = .ok result →
        post result own world) :
    atCommit evolution (get orderId) post own world := by
  rw [get, atCommit_bind, atCommit_select]
  intro first hfirst
  cases hheader : Rows.get (own ++ first.rows) (Key.orderHeader orderId) with
  | none => exact h first first none hfirst hfirst (by simp [read, hheader])
  | some header =>
      simp only [selectLines, atCommit_bind, atCommit_select, atCommit_lift]
      intro second hsecond lines hlines order horder
      refine h first second (some order) hfirst hsecond ?_
      simp only [read, hheader, bind_eq_ok]
      exact ⟨lines, hlines, order, horder, rfl⟩

/-- The rows a transaction touches for the lines of one order. -/
def ofLines (orderId : String) : Key → Prop
  | .orderLines owner => owner = orderId
  | .orderLine _ => True
  | _ => False

theorem atCommit_insertLines {orderId : String} {lines : List OrderLine}
    {post : Unit → Rows Row → World E Row → Prop}
    (h : ∀ written rows, lines.mapM OrderLineRow.ofLine = .ok rows →
      Rows.Only (ofLines orderId) written →
      (Rows.get (written ++ own ++ world.rows) (Key.orderLines orderId)).getD [] =
        (Rows.get (own ++ world.rows) (Key.orderLines orderId)).getD [] ++ rows →
      post () (written ++ own) world) :
    atCommit evolution (insertLines orderId lines) post own world := by
  induction lines generalizing own with
  | nil => exact h [] [] rfl Rows.only_nil (by simp)
  | cons line rest ih =>
      simp only [insertLines, insertLine, atCommit_bind, atCommit_lift,
        atCommit_insert, atCommit_store, List.cons_append, Rows.get_cons_ne,
        ne_eq, reduceCtorEq, not_false_eq_true]
      intro row hrow _
      refine ih fun written rows hrows hkeys hlines => ?_
      have hall := h (written ++ [⟨Key.orderLines orderId, some
        ((Rows.get (own ++ world.rows) (Key.orderLines orderId)).getD [] ++
          [row])⟩, ⟨Key.orderLine row.lineId, some orderId⟩]) (row :: rows)
        (by
          rw [List.mapM_cons, bind_eq_ok]
          exact ⟨row, hrow, bind_eq_ok.mpr ⟨rows, hrows, rfl⟩⟩)
        (by simp [hkeys, ofLines])
      simp only [List.append_assoc, List.cons_append, List.nil_append] at hall hlines ⊢
      exact hall (by rw [hlines]; simp)

theorem atCommit_deleteKeys {rows : List OrderLineRow}
    {post : Unit → Rows Row → World E Row → Prop}
    (h : ∀ written : Rows Row,
      written.Only (fun key => ∃ lineId, key = .orderLine lineId) →
      post () (written ++ own) world) :
    atCommit evolution (deleteKeys rows) post own world := by
  induction rows generalizing own with
  | nil => exact h [] Rows.only_nil
  | cons row rest ih =>
      rw [deleteKeys, atCommit_bind, atCommit_delete]
      refine ih fun written hkeys => ?_
      have hall := h (written ++ [⟨Key.orderLine row.lineId, none⟩])
        (by simp [hkeys])
      simpa using hall

/-- The rows a transaction touches for one order. -/
def ofOrder (orderId : String) : Key → Prop
  | .orderHeader owner => owner = orderId
  | .orderLines owner => owner = orderId
  | .orderLine _ => True
  | _ => False

theorem ofOrder_of_ofLines {orderId : String} {key : Key}
    (h : ofLines orderId key) : ofOrder orderId key := by
  cases key with
  | orderLines owner => exact h
  | orderLine lineId => trivial
  | _ => exact h.elim

/-- An order has been written over `base`, its lines after the `kept` ones. -/
structure Written (order : Order) (kept : List OrderLineRow)
    (written base : Rows Row) : Prop where
  touched : written.Only (ofOrder order.orderId)
  header : Rows.get (written ++ base) (Key.orderHeader order.orderId) =
    some (OrderHeader.ofOrder order)
  lines : ∃ rows, order.lines.mapM OrderLineRow.ofLine = .ok rows ∧
    (Rows.get (written ++ base) (Key.orderLines order.orderId)).getD [] =
      kept ++ rows

theorem Written.get_other {order : Order} {kept : List OrderLineRow}
    {written base : Rows Row} (h : Written order kept written base) {key : Key}
    (hkey : ¬ ofOrder order.orderId key) :
    Rows.get (written ++ base) key = Rows.get base key :=
  h.touched.get_append hkey base

theorem atCommit_add {order : Order}
    {post : Unit → Rows Row → World E Row → Prop}
    (h : ∀ written,
      Rows.get (own ++ world.rows) (Key.orderHeader order.orderId) = none →
      Written order
        ((Rows.get (own ++ world.rows) (Key.orderLines order.orderId)).getD [])
        written (own ++ world.rows) → post () (written ++ own) world) :
    atCommit evolution (add order) post own world := by
  rw [add, atCommit_bind]
  refine atCommit_references ?_
  rw [atCommit_bind, atCommit_insert]
  refine fun hnone => atCommit_insertLines fun written rows hrows hkeys hlines => ?_
  have hall := h (written ++ [⟨Key.orderHeader order.orderId,
    some (OrderHeader.ofOrder order)⟩]) hnone ?_
  · simpa using hall
  · constructor
    · simp [hkeys.mono fun _ => ofOrder_of_ofLines, ofOrder]
    · rw [List.append_assoc, hkeys.get_append (by simp [ofLines])]
      simp
    · refine ⟨rows, hrows, ?_⟩
      simpa using hlines

theorem atCommit_deleteLines {orderId : String}
    {post : Unit → Rows Row → World E Row → Prop}
    (h : ∀ written, Rows.Only (ofLines orderId) written →
      Rows.get (written ++ own ++ world.rows) (Key.orderLines orderId) = none →
      post () (written ++ own) world) :
    atCommit evolution (deleteLines orderId) post own world := by
  rw [deleteLines, atCommit_bind, atCommit_delete]
  refine atCommit_deleteKeys fun written hkeys => ?_
  have hlines : written.Only (ofLines orderId) := hkeys.mono (by
    rintro _ ⟨lineId, rfl⟩
    trivial)
  have hall := h (written ++ [⟨Key.orderLines orderId, none⟩])
    (by simp [hlines, ofLines]) ?_
  · simpa using hall
  · rw [List.append_assoc, List.append_assoc, hkeys.get_append (by simp)]
    simp

theorem atCommit_save {order : Order}
    {post : Unit → Rows Row → World E Row → Prop}
    (h : ∀ written (header : OrderHeader) earlier lines current,
      Rows.get (own ++ world.rows) (Key.orderHeader order.orderId) = some header →
      header.ownerActorId = order.ownerActorId → Meanwhile evolution own.keys earlier world →
      OrderLineRow.readLines
        (Rows.get (own ++ earlier.rows) (Key.orderLines order.orderId)) = .ok lines →
      header.toOrder order.orderId lines = .ok current →
      current.identityId = order.identityId ∧
        current.sourceActionId = order.sourceActionId →
      permits current order = .ok () →
      Written order [] written (own ++ world.rows) →
      post () (written ++ own) world) :
    atCommit evolution (save order) post own world := by
  rw [save, atCommit_bind, atCommit_selectForUpdate]
  refine ⟨fun _ _ _ => trivial, fun header hheader => ?_⟩
  simp only [selectLines, atCommit_bind, atCommit_select, atCommit_lift,
    require_eq_ok, beq_iff_eq, Bool.and_eq_true, atCommit_updateWhere]
  intro _ howner earlier hearlier lines hlinesRead current hcurrent _ hlineage _ hpermits
  -- the header was just locked, so the update finds it
  refine ⟨fun earlier _ hnone => by simp at hnone, fun row row' _ hrow' => ?_⟩
  obtain rfl := Option.some.inj hrow'
  refine atCommit_deleteLines fun removed hremoved hgone => ?_
  refine atCommit_insertLines fun inserted rows hrows hinserted hlines => ?_
  have hall := h (inserted ++ removed ++
    [⟨Key.orderHeader order.orderId, some (OrderHeader.ofOrder order)⟩,
      ⟨Key.orderHeader order.orderId, some header⟩]) header earlier lines current
    hheader howner (hearlier.weaken fun _ => List.mem_cons_of_mem _)
    (by simpa using hlinesRead) hcurrent hlineage hpermits ?_
  · simpa using hall
  · have hlineRows := Rows.only_append.mpr ⟨hinserted, hremoved⟩
    constructor
    · rw [Rows.only_append]
      exact ⟨hlineRows.mono fun _ => ofOrder_of_ofLines, by simp [ofOrder]⟩
    · rw [List.append_assoc, hlineRows.get_append (by simp [ofLines])]
      simp
    · refine ⟨rows, hrows, ?_⟩
      rw [hgone] at hlines
      simpa using hlines

end Orders

namespace RepeatOrders

/-- A plan as its row says. -/
def read (rows : Rows Row) (planId : String) :
    Except Failure (Option RepeatOrderPlan) :=
  match rows.get (Key.repeatOrderPlan planId) with
  | none => .ok none
  | some row => do
      let plan ← RepeatPlanRow.toPlan planId row
      return some plan

/-- The columns of a row that a plan read from it carries unchanged. -/
structure Shows (row : RepeatPlanRow) (plan : RepeatOrderPlan) : Prop where
  sourceOrderId : plan.sourceOrderId = row.sourceOrderId
  ownerActorId : plan.ownerActorId = row.ownerActorId
  identityId : plan.identityId = row.identityId
  status : plan.status = row.status
  scheduledFor : plan.context.scheduledFor = row.scheduledFor
  pendingOrderId : plan.pendingOrderId = row.pendingOrderId
  revision : plan.revision = row.revision

theorem shows_of_toPlan {row : RepeatPlanRow} {planId : String}
    {plan : RepeatOrderPlan} (h : row.toPlan planId = .ok plan) :
    plan.planId = planId ∧ Shows row plan := by
  simp only [RepeatPlanRow.toPlan, bind_eq_ok] at h
  obtain ⟨cadence, _, context, hcontext, hplan⟩ := h
  obtain rfl := RepeatOrderContext.new_eq_ok hcontext
  obtain rfl := RepeatOrderPlan.new_eq_ok hplan
  exact ⟨rfl, rfl, rfl, rfl, rfl, rfl, rfl, rfl⟩

theorem shows_of_ofPlan {row : RepeatPlanRow} {plan : RepeatOrderPlan}
    (h : RepeatPlanRow.ofPlan plan = .ok row) : Shows row plan := by
  simp only [RepeatPlanRow.ofPlan, bind_eq_ok] at h
  obtain ⟨_, _, _, _, _, _, hrow⟩ := h
  obtain rfl := Except.ok.inj hrow
  exact ⟨rfl, rfl, rfl, rfl, rfl, rfl, rfl⟩

/-- A save writes the changed plan under the next revision and keeps whose
plan it is. -/
theorem shows_of_updated {row new : RepeatPlanRow} {plan : RepeatOrderPlan}
    {nextRevision : Nat} (h : updated plan nextRevision row = .ok new) :
    Shows new { plan with
      sourceOrderId := row.sourceOrderId
      ownerActorId := row.ownerActorId
      identityId := row.identityId
      revision := nextRevision } := by
  simp only [updated, bind_eq_ok] at h
  obtain ⟨written, hwritten, hnew⟩ := h
  obtain rfl := Except.ok.inj hnew
  have hshows := shows_of_ofPlan hwritten
  exact ⟨rfl, rfl, rfl, hshows.status, hshows.scheduledFor,
    hshows.pendingOrderId, rfl⟩

theorem read_eq_some {rows : Rows Row} {planId : String}
    {plan : RepeatOrderPlan} (h : read rows planId = .ok (some plan)) :
    ∃ row, rows.get (Key.repeatOrderPlan planId) = some row ∧
      RepeatPlanRow.toPlan planId row = .ok plan := by
  unfold read at h
  cases hrow : rows.get (Key.repeatOrderPlan planId) with
  | none => simp [hrow] at h
  | some row =>
      simp only [hrow, bind_eq_ok] at h
      obtain ⟨found, hfound, hplan⟩ := h
      obtain rfl := Option.some.inj (Except.ok.inj hplan)
      exact ⟨row, rfl, hfound⟩

theorem atCommit_referencesOrder {orderId : Option String} {constraint : String}
    {post : Unit → Rows Row → World E Row → Prop} (h : post () own world) :
    atCommit evolution (referencesOrder orderId constraint) post own world := by
  cases orderId with
  | none => exact h
  | some orderId => exact atCommit_references h

theorem atCommit_add {plan : RepeatOrderPlan}
    {post : Unit → Rows Row → World E Row → Prop}
    (h : ∀ row, RepeatPlanRow.ofPlan plan = .ok row →
      Rows.get (own ++ world.rows) (Key.repeatOrderPlan plan.planId) = none →
      post () (⟨Key.repeatOrderPlan plan.planId, some row⟩ :: own) world) :
    atCommit evolution (add plan) post own world := by
  rw [add, atCommit_bind, atCommit_lift]
  intro row hrow
  rw [atCommit_bind]
  refine atCommit_references ?_
  rw [atCommit_bind]
  refine atCommit_references ?_
  rw [atCommit_bind]
  refine atCommit_referencesOrder ?_
  rw [atCommit_bind]
  refine atCommit_referencesOrder ?_
  exact atCommit_insert.mpr (h row hrow)

theorem atCommit_get {planId : String}
    {post : Option RepeatOrderPlan → Rows Row → World E Row → Prop}
    (h : ∀ earlier result, Meanwhile evolution own.keys earlier world →
      read (own ++ earlier.rows) planId = .ok result → post result own world) :
    atCommit evolution (get planId) post own world := by
  rw [get, atCommit_bind, atCommit_select]
  intro earlier hearlier
  cases hrow : Rows.get (own ++ earlier.rows) (Key.repeatOrderPlan planId) with
  | none => exact h earlier none hearlier (by simp [read, hrow])
  | some row =>
      simp only [atCommit_bind, atCommit_lift]
      intro plan hplan
      refine h earlier (some plan) hearlier ?_
      simp only [read, hrow, bind_eq_ok]
      exact ⟨plan, hplan, rfl⟩

/-- A save replaces exactly the row whose revision it expected. -/
theorem atCommit_save {plan : RepeatOrderPlan} {expectedRevision : Nat}
    {post : RepeatOrderPlan → Rows Row → World E Row → Prop}
    (h : ∀ (row new : RepeatPlanRow) current saved,
      Rows.get (own ++ world.rows) (Key.repeatOrderPlan plan.planId) = some row →
      row.toPlan plan.planId = .ok current → current.revision = expectedRevision →
      updated plan (current.revision + 1) row = .ok new →
      new.toPlan plan.planId = .ok saved →
      post saved (⟨Key.repeatOrderPlan plan.planId, some new⟩ ::
        ⟨Key.repeatOrderPlan plan.planId, some row⟩ :: own) world) :
    atCommit evolution (save plan expectedRevision) post own world := by
  rw [save, atCommit_bind, atCommit_require]
  intro _
  rw [atCommit_bind, atCommit_selectForUpdate]
  refine ⟨fun _ _ _ => trivial, fun row hrow => ?_⟩
  simp only [atCommit_bind, atCommit_lift, require_eq_ok, beq_iff_eq]
  intro current hcurrent _ hrevision _ _ _ _ new hnew
  refine atCommit_referencesOrder ?_
  refine atCommit_referencesOrder ?_
  rw [atCommit_updateWhere]
  refine ⟨fun _ _ _ => trivial, fun stored new' hstored hnew' => ?_⟩
  split at hnew'
  · obtain rfl := Option.some.inj hnew'
    exact (atCommit_lift _).mpr fun saved hsaved =>
      h row new current saved hrow hcurrent hrevision hnew hsaved
  · simp at hnew'

end RepeatOrders

end ShemaPlatform
