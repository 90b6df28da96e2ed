/-
Plans, orders and economics stay consistent over every interleaved run: which
orders are open, which are settled and paid, and how plans are revised.
-/
import ShemaPlatform.OrderLines
import ShemaPlatform.RepeatOrderBoard

namespace ShemaPlatform

open Calendar ReadCommitted Recurrence

namespace RepeatOrderService

/-- A revenue entry of an order. -/
def IsRevenue (rows : Rows Row) (orderId entryId : String)
    (entry : EconomicEntry) : Prop :=
  rows.get (Key.economicEntry entryId) = some entry ∧
    entry.kind = .revenue ∧ entry.entityRef = orderId

/-- A confirmed order with exactly one revenue entry, over its total. -/
def Settled (orderId : String) (rows : Rows Row) : Prop :=
  ∃ order entryId entry, Orders.read rows rows orderId = .ok (some order) ∧
    order.status = .confirmed ∧ order.total = .ok entry.amount ∧
    IsRevenue rows orderId entryId entry ∧
    ∀ entryId' entry', IsRevenue rows orderId entryId' entry' →
      entryId' = entryId ∧ entry' = entry

/-- The rows that say what an order is and what it earned are the same. -/
structure OrderKept (orderId : String) (before after : Rows Row) : Prop where
  header : after.get (Key.orderHeader orderId) =
    before.get (Key.orderHeader orderId)
  lines : after.get (Key.orderLines orderId) =
    before.get (Key.orderLines orderId)
  revenue : ∀ entryId entry, IsRevenue after orderId entryId entry ↔
    IsRevenue before orderId entryId entry

theorem OrderKept.settled {orderId : String} {before after : Rows Row}
    (h : OrderKept orderId before after) (hsettled : Settled orderId before) :
    Settled orderId after := by
  obtain ⟨order, entryId, entry, hread, hstatus, htotal, hrevenue, honly⟩ :=
    hsettled
  refine ⟨order, entryId, entry, ?_, hstatus, htotal,
    (h.revenue _ _).mpr hrevenue,
    fun entryId' entry' hother => honly _ _ ((h.revenue _ _).mp hother)⟩
  rwa [Orders.read, h.header, h.lines, ← Orders.read]

theorem Settled.stage {orderId : String} {rows : Rows Row}
    (h : Settled orderId rows) : (view rows).stage orderId = some .closed := by
  obtain ⟨order, _, _, hread, hstatus, _⟩ := h
  obtain ⟨header, hheader, _, horder⟩ := Orders.read_eq_some hread
  rw [horder] at hstatus
  have hheaderStatus : header.status = .confirmed := hstatus
  simp [view, hheader, hheaderStatus, OrderStatus.stage]

section Effects

variable {uuid5 : String → String} {evolution : Evolution Instant Row}
  {call : RepeatCall} {answer : RepeatAnswer} {own : Rows Row}
  {world : World Instant Row} {touches : Key → Prop}

/-- An application that touches neither the order nor any entry keeps both. -/
theorem Applied.orderKept
    (h : Applied uuid5 evolution call touches own world) {orderId : String}
    (hheader : ¬ touches (Key.orderHeader orderId))
    (hlines : ¬ touches (Key.orderLines orderId))
    (hentries : ∀ entryId, ¬ touches (Key.economicEntry entryId)) :
    OrderKept orderId world.rows (own ++ world.rows) := by
  refine ⟨h.get_untouched (by simp) hheader, h.get_untouched (by simp) hlines,
    fun entryId entry => ?_⟩
  rw [IsRevenue, IsRevenue, h.get_untouched (by simp) (hentries entryId)]

/-- What a commit does to an order: nothing, or it creates it, or it is the
confirmation of that order. -/
theorem Effect.order_cases (h : Effect uuid5 evolution call answer own world)
    (orderId : String) :
    OrderKept orderId world.rows (own ++ world.rows) ∨
      (world.rows.get (Key.orderHeader orderId) = none ∧
        (∃ header, Rows.get (own ++ world.rows) (Key.orderHeader orderId) =
          some header) ∧
        ∀ entryId entry, IsRevenue (own ++ world.rows) orderId entryId entry →
          IsRevenue world.rows orderId entryId entry) ∨
      ∃ planId, call.operation = .confirm planId orderId ∧ own ≠ [] := by
  cases h with
  | planReplayed hkind hreplayed => exact Or.inl ⟨rfl, rfl, fun _ _ => Iff.rfl⟩
  | orderReplayed hkind hreplayed => exact Or.inl ⟨rfl, rfl, fun _ _ => Iff.rfl⟩
  | planCreated hcall happlied =>
      exact Or.inl (happlied.orderKept (by simp) (by simp) (by simp))
  | planMutated hcall happlied =>
      exact Or.inl (happlied.orderKept (by simp) (by simp) (by simp))
  | orderCreated hcall happlied _ _ _ _ _ hfresh hheader =>
      by_cases heq : orderId = call.service.newOrderId
      · subst heq
        refine Or.inr (Or.inl ⟨hfresh, ⟨_, hheader⟩, fun entryId entry => ?_⟩)
        rw [IsRevenue, IsRevenue,
          happlied.get_untouched (by simp) (by simp [Orders.ofOrder])]
        exact id
      · exact Or.inl (happlied.orderKept (by simp [Orders.ofOrder, heq])
          (by simp [Orders.ofOrder, heq]) (by simp [Orders.ofOrder]))
  | @orderConfirmed planId confirmedId plan changed row new header identity order
      validation entry lineRows own world hcall happlied _ _ _ _ _ _ _ _ _ _ _ _
      hentry hunpaid hpaid hchanged hsaved =>
      by_cases heq : orderId = confirmedId
      · subst heq
        refine Or.inr (Or.inr ⟨planId, hcall, ?_⟩)
        rintro rfl
        rw [List.nil_append, hunpaid] at hpaid
        simp at hpaid
      · refine Or.inl ⟨happlied.get_untouched (by simp)
          (by simp [Orders.ofOrder, heq]), happlied.get_untouched (by simp)
          (by simp [Orders.ofOrder, heq]), fun entryId other => ?_⟩
        by_cases hid : entryId = entry.entryId
        · -- the entry just written is of the confirmed order
          subst hid
          rw [IsRevenue, IsRevenue, hpaid, hunpaid]
          constructor
          · rintro ⟨hsame, _, href⟩
            obtain rfl := Option.some.inj hsame
            exact absurd (href.symm.trans hentry.2.1) heq
          · rintro ⟨hnone, _⟩
            simp at hnone
        · rw [IsRevenue, IsRevenue, happlied.get_untouched (by simp)
            (by simp [Orders.ofOrder, hid])]

/-- A confirmation settles the open order of its plan. -/
theorem Effect.settles (h : Effect uuid5 evolution call answer own world)
    (hown : own ≠ []) {planId orderId : String}
    (hop : call.operation = .confirm planId orderId) :
    (view world.rows).pending planId = some orderId ∧
      ((∀ entryId entry, ¬ IsRevenue world.rows orderId entryId entry) →
        Settled orderId (own ++ world.rows)) := by
  cases h with
  | planReplayed hkind hreplayed => exact absurd rfl hown
  | orderReplayed hkind hreplayed => exact absurd rfl hown
  | planCreated hcall => simp [hop] at hcall
  | planMutated hcall => simp [hop] at hcall
  | orderCreated hcall => simp [hop] at hcall
  | @orderConfirmed planId' orderId' plan changed row new header identity order
      validation entry lineRows own world hcall happlied _ hpending horder hread
      _ _ hvalid _ _ hheader hrows hwritten hentry hunpaid hpaid hchanged hsaved =>
      rw [hop] at hcall
      obtain ⟨rfl, rfl⟩ := RepeatOperation.confirm.inj hcall
      obtain ⟨_, href, hkind, htotal⟩ := hentry
      refine ⟨hsaved.columns.2.1.trans hpending, fun hnone => ?_⟩
      refine ⟨{ order with status := .confirmed }, entry.entryId, entry, ?_, rfl,
        htotal, ⟨hpaid, hkind, href⟩, fun entryId other hother => ?_⟩
      · obtain ⟨earlier, _, hseen⟩ := hread
        simp only [Orders.read, hheader, bind_eq_ok,
          OrderLineRow.readLines_of_ofLine hseen hrows hwritten]
        exact ⟨_, rfl, _, horder ▸ hvalid, rfl⟩
      · by_cases hid : entryId = entry.entryId
        · subst hid
          exact ⟨rfl, Option.some.inj (hother.1.symm.trans hpaid)⟩
        · rw [IsRevenue, happlied.get_untouched (by simp)
            (by simp [Orders.ofOrder, hid])] at hother
          exact absurd hother (hnone entryId other)

end Effects

/-- An application that has created the order for the plan. -/
def Application.Creates (applied : Application) (planId orderId : String) :
    Prop :=
  applied.call.operation = .createNext planId ∧
    applied.call.service.newOrderId = orderId

theorem Application.creates_of_entry {applied : Application}
    {planId orderId : String} {due : DateTime}
    (h : applied.entry = some (.made planId orderId due)) :
    applied.Creates planId orderId := by
  unfold Application.entry at h
  split at h
  · simp at h
  · rename_i hop
    obtain ⟨_, _, hentry⟩ := Option.map_eq_some_iff.mp h
    obtain ⟨rfl, rfl, _⟩ := Entry.made.inj hentry
    exact ⟨hop, rfl⟩
  · simp at h
  · rename_i mutation _ _
    cases mutation <;> simp [mutationEntry] at h

theorem Application.confirm_of_entry {applied : Application}
    {planId orderId : String} {moved : Bool}
    (h : applied.entry = some (.closed planId orderId moved)) :
    applied.call.operation = .confirm planId orderId := by
  unfold Application.entry at h
  split at h
  · simp at h
  · obtain ⟨_, _, hentry⟩ := Option.map_eq_some_iff.mp h
    simp at hentry
  · rename_i hop
    obtain ⟨rfl, rfl, _⟩ := Entry.closed.inj (Option.some.inj h)
    exact hop
  · rename_i mutation _ _
    cases mutation <;> simp [mutationEntry] at h

section Created

variable {uuid5 : String → String} {evolution : Evolution Instant Row}
  {call : RepeatCall} {answer : RepeatAnswer} {own : Rows Row}
  {world : World Instant Row}

theorem Effect.created_entry (h : Effect uuid5 evolution call answer own world)
    (hown : own ≠ []) {planId orderId : String}
    (hcreates : Application.Creates ⟨call, answer, own⟩ planId orderId) :
    ∃ due, Application.entry ⟨call, answer, own⟩ =
      some (.made planId orderId due) := by
  obtain ⟨hop, rfl⟩ := hcreates
  have hop' : call.operation = .createNext planId := hop
  cases h with
  | planReplayed hkind hreplayed => exact absurd rfl hown
  | orderReplayed hkind hreplayed => exact absurd rfl hown
  | planCreated hcall => simp [hop'] at hcall
  | planMutated hcall => simp [hop'] at hcall
  | orderConfirmed hcall => simp [hop'] at hcall
  | orderCreated hcall _ _ _ _ _ _ _ _ _ hsaved =>
      simp [Application.entry, hcall,
        hsaved.planRow (by rw [hcall, RepeatOperation.planId])] at hop ⊢
      exact hop

end Created

/-- A platform before its first repeat plan: whatever revenue is recorded
belongs to orders that exist. -/
structure Initial (rows : Rows Row) : Prop where
  no_plan : ∀ planId, rows.get (Key.repeatOrderPlan planId) = none
  revenue_known : ∀ {orderId entryId entry}, IsRevenue rows orderId entryId entry →
    ∃ header, rows.get (Key.orderHeader orderId) = some header

/-- What the stored rows and the applied operations always agree on. -/
structure Consistent (applied : List Application) (rows : Rows Row) : Prop where
  pending_draft : ∀ {planId row orderId},
    rows.get (Key.repeatOrderPlan planId) = some row →
    RepeatPlanRow.pendingOrderId row = some orderId →
    (∃ header, rows.get (Key.orderHeader orderId) = some header ∧
      OrderHeader.status header = .draft) ∧
    ∃ item ∈ applied, item.Creates planId orderId
  pending_once : ∀ {planId planId' row row' orderId},
    rows.get (Key.repeatOrderPlan planId) = some row →
    rows.get (Key.repeatOrderPlan planId') = some row' →
    RepeatPlanRow.pendingOrderId row = some orderId →
    RepeatPlanRow.pendingOrderId row' = some orderId → planId = planId'
  created_kept : ∀ {item planId orderId}, item ∈ applied →
    item.Creates planId orderId →
    (∃ row, rows.get (Key.repeatOrderPlan planId) = some row ∧
      RepeatPlanRow.pendingOrderId row = some orderId) ∨
    ∃ header, rows.get (Key.orderHeader orderId) = some header ∧
      OrderHeader.status header = .confirmed
  confirmed_settled : ∀ {item planId orderId}, item ∈ applied →
    item.call.operation = .confirm planId orderId → Settled orderId rows

/-- The same in terms of the board, with what keeps it going: nothing earns
revenue before it exists or while it is open. -/
structure Balanced (applied : List Application) (rows : Rows Row) : Prop where
  kept : Kept (log applied) (view rows)
  logged : ∀ {item planId orderId}, item ∈ applied →
    item.Creates planId orderId →
    ∃ due, .made planId orderId due ∈ log applied
  settled : ∀ {item planId orderId}, item ∈ applied →
    item.call.operation = .confirm planId orderId → Settled orderId rows
  revenue_known : ∀ {orderId entryId entry}, IsRevenue rows orderId entryId entry →
    ∃ header, rows.get (Key.orderHeader orderId) = some header
  open_unpaid : ∀ {planId orderId entryId entry},
    (view rows).pending planId = some orderId →
    ¬ IsRevenue rows orderId entryId entry

theorem Balanced.of_initial {rows : Rows Row} (h : Initial rows) :
    Balanced [] rows := by
  have hfree : ∀ planId, (view rows).pending planId = none := fun planId => by
    simp [view, h.no_plan]
  refine ⟨⟨?_, ?_, ?_⟩, by simp, by simp, h.revenue_known, ?_⟩
  · intro planId orderId hpending
    simp [hfree] at hpending
  · intro planId planId' orderId hpending
    simp [hfree] at hpending
  · simp [log]
  · intro planId orderId _ _ hpending
    simp [hfree] at hpending

theorem Balanced.agree {applied : List Application} {rows : Rows Row}
    (h : Balanced applied rows) : Consistent applied rows := by
  have hview : ∀ {planId : String} {row : RepeatPlanRow} {orderId : String},
      rows.get (Key.repeatOrderPlan planId) = some row →
      row.pendingOrderId = some orderId →
      (view rows).pending planId = some orderId := fun hrow hpending => by
    simp [view, hrow, hpending]
  refine ⟨fun hrow hpending => ?_, fun hrow hrow' hpending hpending' =>
    h.kept.pending_unique (hview hrow hpending) (hview hrow' hpending'),
    fun hitem hcreates => ?_, h.settled⟩
  · obtain ⟨hopened, due, hmade⟩ := h.kept.pending_open (hview hrow hpending)
    obtain ⟨header, hheader, hstage⟩ := Option.map_eq_some_iff.mp hopened
    obtain ⟨item, hitem, hentry⟩ := List.mem_filterMap.mp hmade
    refine ⟨⟨header, hheader, ?_⟩, item, hitem,
      Application.creates_of_entry hentry⟩
    exact OrderStatus.stage_eq_opened.mp hstage
  · obtain ⟨due, hmade⟩ := h.logged hitem hcreates
    rcases h.kept.made_settled hmade with hpending | hclosed
    · obtain ⟨row, hrow, hpending⟩ := Option.bind_eq_some_iff.mp hpending
      exact Or.inl ⟨row, hrow, hpending⟩
    · obtain ⟨header, hheader, hstage⟩ := Option.map_eq_some_iff.mp hclosed
      exact Or.inr ⟨header, hheader, OrderStatus.stage_eq_closed.mp hstage⟩

section Runs

variable {uuid5 : String → String} {evolution : Evolution Instant Row}
  {call : RepeatCall} {answer : RepeatAnswer} {own : Rows Row}
  {world : World Instant Row} {applied : List Application}

/-- The open order of a plan is not settled yet. -/
theorem Balanced.open_unsettled {rows : Rows Row} (h : Balanced applied rows)
    {planId orderId : String}
    (hpending : (view rows).pending planId = some orderId) :
    ¬ Settled orderId rows := by
  intro hsettled
  have hopened := (h.kept.pending_open hpending).1
  rw [hsettled.stage] at hopened
  simp at hopened

/-- A confirmation leaves its order settled. -/
theorem Balanced.settles (h : Balanced applied world.rows)
    (heffect : Effect uuid5 evolution call answer own world) (hown : own ≠ [])
    {planId orderId : String} (hop : call.operation = .confirm planId orderId) :
    Settled orderId (own ++ world.rows) := by
  obtain ⟨hpending, hsettles⟩ := heffect.settles hown hop
  exact hsettles fun entryId entry => h.open_unpaid hpending

theorem Balanced.settled_kept (h : Balanced applied world.rows)
    (heffect : Effect uuid5 evolution call answer own world)
    {orderId : String} (hsettled : Settled orderId world.rows) :
    Settled orderId (own ++ world.rows) := by
  rcases heffect.order_cases orderId with
    hkept | ⟨hfresh, _⟩ | ⟨planId, hop, hown⟩
  · exact hkept.settled hsettled
  · obtain ⟨_, _, _, hread, _⟩ := hsettled
    obtain ⟨header, hheader, _⟩ := Orders.read_eq_some hread
    rw [hfresh] at hheader
    simp at hheader
  · exact absurd hsettled (h.open_unsettled (heffect.settles hown hop).1)

theorem Balanced.revenue_known_kept (h : Balanced applied world.rows)
    (heffect : Effect uuid5 evolution call answer own world)
    {orderId entryId : String} {entry : EconomicEntry}
    (hrevenue : IsRevenue (own ++ world.rows) orderId entryId entry) :
    ∃ header, Rows.get (own ++ world.rows) (Key.orderHeader orderId) =
      some header := by
  rcases heffect.order_cases orderId with
    hkept | ⟨_, hheader, _⟩ | ⟨planId, hop, hown⟩
  · obtain ⟨header, hheader⟩ :=
      h.revenue_known ((hkept.revenue entryId entry).mp hrevenue)
    exact ⟨header, hkept.header.trans hheader⟩
  · exact hheader
  · obtain ⟨_, _, _, hread, _⟩ := h.settles heffect hown hop
    obtain ⟨header, hheader, _⟩ := Orders.read_eq_some hread
    exact ⟨header, hheader⟩

theorem Balanced.commit (h : Balanced applied world.rows)
    (heffect : Effect uuid5 evolution call answer own world)
    (hown : own ≠ []) :
    Balanced (applied ++ [⟨call, answer, own⟩]) (own ++ world.rows) := by
  have hstep := heffect.board_step hown
  have hlog : log (applied ++ [⟨call, answer, own⟩]) =
      log applied ++ (Application.entry ⟨call, answer, own⟩).toList := by
    rw [log, List.filterMap_append, List.filterMap_cons, List.filterMap_nil, ← log]
    cases Application.entry ⟨call, answer, own⟩ <;> rfl
  have hkept := h.kept.step hstep
  rw [← hlog] at hkept
  refine ⟨hkept, fun hitem hcreates => ?_, fun hitem hop => ?_,
    h.revenue_known_kept heffect, fun hpending hrevenue => ?_⟩
  · rw [hlog]
    rw [List.mem_append, List.mem_singleton] at hitem
    rcases hitem with hitem | rfl
    · obtain ⟨due, hmade⟩ := h.logged hitem hcreates
      exact ⟨due, List.mem_append_left _ hmade⟩
    · obtain ⟨due, hentry⟩ := heffect.created_entry hown hcreates
      exact ⟨due, by simp [hentry]⟩
  · rw [List.mem_append, List.mem_singleton] at hitem
    rcases hitem with hitem | rfl
    · exact h.settled_kept heffect (h.settled hitem hop)
    · exact h.settles heffect hown hop
  · rename_i planId orderId entryId entry
    -- an open order was open and unpaid before, or has just been created
    rcases heffect.order_cases orderId with
      hsame | ⟨hfresh, _, hrevenueBefore⟩ | ⟨_, hop, _⟩
    · have hbefore := (hsame.revenue entryId entry).mp hrevenue
      rcases hstep.pending_cases hpending with hopen | ⟨hnew, _⟩
      · exact h.open_unpaid hopen hbefore
      · obtain ⟨header, hheader⟩ := h.revenue_known hbefore
        simp [view, hheader] at hnew
    · obtain ⟨header, hheader⟩ :=
        h.revenue_known (hrevenueBefore entryId entry hrevenue)
      rw [hfresh] at hheader
      simp at hheader
    · have hopened := (hkept.pending_open hpending).1
      rw [(h.settles heffect hown hop).stage] at hopened
      simp at hopened

variable {ι : Type} [DecidableEq ι] {calls : ι → RepeatCall}
  {last : Sys ι Instant Row Failure (Session RepeatCall Failure RepeatAnswer)}
  {events : List (RunEvent ι)}

theorem balanced (hfirst : Initial world.rows)
    (hrun : Run (flow uuid5) (Sys.ofCalls world calls) events last) :
    Balanced (history events) last.world.rows :=
  history_induction (rule uuid5)
    (fun world applied => Balanced applied world.rows) (fun _ => trivial)
    trivial (.of_initial hfirst)
    (fun _ _ heffect hown hholds => hholds.commit heffect hown)
    (fun hholds => hholds) hrun

/-- In every interleaving of any calls the stored plans, orders and revenue
entries stay consistent.  From there, an operation that raises changes nothing,
and one that commits changes nothing or revises its plan from the state in
which it is committed. -/
theorem rows_consistent (hfirst : Initial world.rows)
    (hrun : Run (flow uuid5) (Sys.ofCalls world calls) events last) :
    Consistent (history events) last.world.rows ∧
      (∀ client before error sys',
        Step (flow uuid5) last [.rolledBack client before error] sys' →
        sys'.world.rows = last.world.rows) ∧
      ∀ client before after own sys',
        Step (flow uuid5) last [.committed client before after own] sys' →
        sys'.world.rows = last.world.rows ∨
          Revised before.call last.world.rows sys'.world.rows := by
  refine ⟨?_, fun client before error sys' hstep => ?_,
    fun client before after own sys' hstep => ?_⟩
  · exact (balanced hfirst hrun).agree
  · rw [hstep.world_of_rolledBack]
  · obtain ⟨call, answer, rfl, rfl, heffect, hworld⟩ :=
      (rule uuid5).commit_effect (fun _ => trivial) trivial hrun hstep
    rw [hworld]
    by_cases hown : own = []
    · exact Or.inl (by rw [hown]; rfl)
    · exact Or.inr (heffect.revised hown)

end Runs

theorem sampleRows_initial : Initial sampleRows := by
  refine ⟨fun planId => by simp [sampleRows], ?_⟩
  rintro orderId entryId entry ⟨hentry, _⟩
  simp [sampleRows] at hentry

/-- A plan whose order is created, confirmed and followed by another. -/
def sampleOrders : ℕ → RepeatCall
  | 0 => sampleCall "create" "" samplePlan
  | 1 => sampleCall "next" "first" (.createNext "plan")
  | 2 => sampleCall "confirm" "first" (.confirm "plan" "first")
  | _ => sampleCall "next again" "second" (.createNext "plan")

theorem rows_consistent_orders : ∃ events last,
    Run (flow id) (Sys.ofCalls sampleWorld sampleOrders) events last ∧
      (history events).length = 4 ∧
      Consistent (history events) last.world.rows := by
  obtain ⟨events, last, hrun, hlength⟩ : ∃ events last,
      Run (flow id) (Sys.ofCalls sampleWorld sampleOrders) events last ∧
        (history events).length = 4 :=
    sample_run 4 (fun result => (history result.1).length) (by decide +kernel)
  exact ⟨events, last, hrun, hlength, (rows_consistent sampleRows_initial hrun).1⟩

end RepeatOrderService

end ShemaPlatform
