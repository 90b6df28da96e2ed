/-
A draft whose lines the revalidator no longer resolves.  It can neither be
confirmed nor replaced: as long as the new lines stand, its plan keeps it.
-/
import ShemaPlatform.RepeatOrderConsistency

namespace ShemaPlatform

open Calendar ReadCommitted Recurrence

namespace RepeatOrderService

/-- The plan waits for an order whose lines are not the given ones, and no
other plan waits for that order. -/
structure Stuck (planId orderId : String) (lines : List OrderLine)
    (rows : Rows Row) : Prop where
  pending : (view rows).pending planId = some orderId
  only : ∀ other, (view rows).pending other = some orderId → other = planId
  opened : (view rows).stage orderId = some .opened
  stale : OrderLineRow.readLines (rows.get (Key.orderLines orderId)) ≠ .ok lines

/-- The revalidator approves the plan, with these lines. -/
def KeepsReturning (lines : List OrderLine) (planId : String)
    (service : RepeatOrderService) : Prop :=
  ∀ identity order plan, plan.planId = planId →
    ∃ validation, service.revalidate identity order plan = .ok validation ∧
      validation.approved = true ∧ validation.resolvedLines = lines

/-- The plan has a draft with the given lines. -/
def Confirmable (planId : String) (lines : List OrderLine) (rows : Rows Row) :
    Prop :=
  ∃ row orderId order, rows.get (Key.repeatOrderPlan planId) = some row ∧
    RepeatPlanRow.pendingOrderId row = some orderId ∧
    Orders.read rows rows orderId = .ok (some order) ∧
    order.status = .draft ∧ order.lines = lines

/-- An active plan whose pending draft has other lines. -/
def StaleDraft (planId : String) (lines : List OrderLine) (rows : Rows Row) :
    Prop :=
  ∃ row orderId order, rows.get (Key.repeatOrderPlan planId) = some row ∧
    RepeatPlanRow.status row = .active ∧
    RepeatPlanRow.pendingOrderId row = some orderId ∧
    Orders.read rows rows orderId = .ok (some order) ∧ order.lines ≠ lines

theorem Stuck.not_confirmable {planId orderId : String} {lines : List OrderLine}
    {rows : Rows Row} (h : Stuck planId orderId lines rows) :
    ¬ Confirmable planId lines rows := by
  rintro ⟨row, pendingId, order, hrow, hpending, hread, _, rfl⟩
  have hsame := h.pending
  simp only [view, hrow, Option.bind_some, hpending, Option.some.injEq] at hsame
  obtain ⟨_, _, hlines, _⟩ := Orders.read_eq_some hread
  rw [hsame] at hlines
  exact h.stale hlines

/-- The draft of a plan that a run has reached is that plan's alone. -/
theorem Balanced.stuck {applied : List Application} {rows : Rows Row}
    (h : Balanced applied rows) {planId : String} {lines : List OrderLine}
    (hstale : StaleDraft planId lines rows) :
    ∃ orderId, Stuck planId orderId lines rows := by
  obtain ⟨row, orderId, order, hrow, _, hpending, hread, hne⟩ := hstale
  have hopen : (view rows).pending planId = some orderId := by
    simp [view, hrow, hpending]
  refine ⟨orderId, hopen, fun other hother => h.kept.pending_unique hother hopen,
    (h.kept.pending_open hopen).1, fun hsame => ?_⟩
  obtain ⟨_, _, hlines, _⟩ := Orders.read_eq_some hread
  exact hne (Except.ok.inj (hlines.symm.trans hsame))

section Stuck

variable {uuid5 : String → String} {base : Evolution Instant Row}
  {call : RepeatCall} {answer : RepeatAnswer} {own : Rows Row}
  {world : World Instant Row} {planId orderId : String}
  {lines : List OrderLine}

/-- A confirmation has seen the stored lines come back from the revalidator. -/
theorem Effect.confirmed_lines (h : Effect uuid5 base call answer own world)
    (hown : own ≠ []) (hop : call.operation = .confirm planId orderId)
    (hservice : KeepsReturning lines planId call.service) :
    ∃ earlier, base.rel earlier world ∧
      OrderLineRow.readLines (earlier.rows.get (Key.orderLines orderId)) =
        .ok lines := by
  cases h with
  | planReplayed hkind hreplayed => exact absurd rfl hown
  | orderReplayed hkind hreplayed => exact absurd rfl hown
  | planCreated hcall => simp [hop] at hcall
  | planMutated hcall => simp [hop] at hcall
  | orderCreated hcall => simp [hop] at hcall
  | @orderConfirmed planId' orderId' plan changed row new header identity order
      validation entry lineRows own world hcall _ _ _ _ hread hvalidation hlines
      _ _ _ _ _ _ _ _ _ _ hsaved =>
      rw [hop] at hcall
      obtain ⟨rfl, rfl⟩ := RepeatOperation.confirm.inj hcall
      obtain ⟨earlier, hearlier, hseen⟩ := hread
      obtain ⟨resolved, hresolved, _, rfl⟩ := hservice identity order plan
        (RepeatOrders.shows_of_toPlan hsaved.shown).1
      obtain rfl := Except.ok.inj (hvalidation.symm.trans hresolved)
      exact ⟨earlier, hearlier, hlines ▸ hseen⟩

/-- No operation releases the draft. -/
theorem Stuck.commit (hstuck : Stuck planId orderId lines world.rows)
    (heffect : Effect uuid5 base call answer own world)
    (hbase : ∀ {earlier}, base.rel earlier world →
      Stuck planId orderId lines earlier.rows)
    (hservice : KeepsReturning lines planId call.service) :
    Stuck planId orderId lines (own ++ world.rows) := by
  by_cases hempty : own = []
  · rw [hempty]
    exact hstuck
  have hstep := heffect.board_step hempty
  have hnotConfirmed : ∀ other, call.operation ≠ .confirm other orderId := by
    intro other hop
    obtain rfl := hstuck.only other (heffect.settles hempty hop).1
    obtain ⟨earlier, hearlier, hseen⟩ :=
      heffect.confirmed_lines hempty hop hservice
    exact (hbase hearlier).stale hseen
  have hkept : OrderKept orderId world.rows (own ++ world.rows) := by
    rcases heffect.order_cases orderId with hkept | ⟨hfresh, _⟩ | ⟨other, hop, _⟩
    · exact hkept
    · have hopened := hstuck.opened
      simp [view, hfresh] at hopened
    · exact absurd hop (hnotConfirmed other)
  refine ⟨?_, fun other hother => ?_, ?_, ?_⟩
  · rcases hstep.pending_kept hstuck.pending with hpending | ⟨moved, hentry⟩
    · exact hpending
    · exact absurd (Application.confirm_of_entry hentry) (hnotConfirmed planId)
  · rcases hstep.pending_cases hother with hbefore | ⟨hnew, _⟩
    · exact hstuck.only other hbefore
    · rw [hstuck.opened] at hnew
      simp at hnew
  · rw [← hstuck.opened]
    simp [view, hkept.header]
  · rw [hkept.lines]
    exact hstuck.stale

/-- The development of the database that does not touch the draft. -/
def stuckEvolution (planId orderId : String) (lines : List OrderLine) :
    Evolution Instant Row where
  rel before after := evolution.rel before after ∧
    (Stuck planId orderId lines before.rows ↔
      Stuck planId orderId lines after.rows)
  refl world := ⟨evolution.refl world, Iff.rfl⟩
  trans hab hbc := ⟨evolution.trans hab.1 hbc.1, hab.2.trans hbc.2⟩

theorem respects_stuckEvolution :
    Respects (stuckEvolution planId orderId lines) :=
  ⟨fun hrel => hrel.1.1 _ _, fun hrel => hrel.1.2 _ _⟩

/-- The rule of calls whose revalidators keep returning the lines, from a world
where the plan is stuck with others. -/
def stuckRule (uuid5 : String → String) (planId orderId : String)
    (lines : List OrderLine) :
    CallRule (RepeatCall.program uuid5) (fun _ _ => True)
      (stuckEvolution planId orderId lines) where
  inv world := Stuck planId orderId lines world.rows
  admits call := KeepsReturning lines planId call.service
  effect := Effect uuid5 (stuckEvolution planId orderId lines)
  stable hrel := hrel.2.mp
  body_ok _ _ := atCommit_program respects_stuckEvolution
  commit_ok hservice heffect hstuck :=
    ⟨heffect.rel, fun _ => hstuck.commit heffect (fun hrel => hrel.2.mpr hstuck)
      hservice, fun _ => hstuck⟩
  drift_ok _ := ⟨evolution.refl _, Iff.rfl⟩

end Stuck

/-- Some calls, under a revalidator that approves and keeps returning the
lines, lead to a draft of the plan with those lines. -/
def Recoverable (uuid5 : String → String) (planId : String)
    (lines : List OrderLine) (world : World Instant Row) : Prop :=
  ∃ (later : ℕ → RepeatCall) (events : List (RunEvent ℕ))
    (last : Sys ℕ Instant Row Failure (Session RepeatCall Failure RepeatAnswer)),
    (∀ client, KeepsReturning lines planId (later client).service) ∧
      Run (flow uuid5) (Sys.ofCalls world later) events last ∧
      Confirmable planId lines last.world.rows

section Runs

variable {ι : Type} [DecidableEq ι] {uuid5 : String → String}
  {calls : ι → RepeatCall} {world : World Instant Row}
  {last : Sys ι Instant Row Failure (Session RepeatCall Failure RepeatAnswer)}
  {events : List (RunEvent ι)} {planId : String} {lines : List OrderLine}

/-- Calls under a revalidator that keeps returning the lines leave the plan
stuck. -/
theorem Stuck.run {orderId : String}
    (hstuck : Stuck planId orderId lines world.rows)
    (hservices : ∀ client, KeepsReturning lines planId (calls client).service)
    (hrun : Run (flow uuid5) (Sys.ofCalls world calls) events last) :
    Stuck planId orderId lines last.world.rows :=
  history_induction (stuckRule uuid5 planId orderId lines)
    (fun world _ => Stuck planId orderId lines world.rows) hservices hstuck hstuck
    (fun hinv hservice heffect _ _ =>
      hinv.commit heffect (fun hrel => hrel.2.mpr hinv) hservice)
    (fun hholds => hholds) hrun

theorem Stuck.not_recoverable {orderId : String}
    (hstuck : Stuck planId orderId lines world.rows) :
    ¬ Recoverable uuid5 planId lines world := by
  rintro ⟨later, events, last, hservices, hrun, hconfirmable⟩
  exact (hstuck.run hservices hrun).not_confirmable hconfirmable

/-- No reachable state of a plan with a stale draft can be recovered from. -/
theorem stale_draft_unrecoverable (hfirst : Initial world.rows)
    (hrun : Run (flow uuid5) (Sys.ofCalls world calls) events last)
    (hstale : StaleDraft planId lines last.world.rows) :
    ¬ Recoverable uuid5 planId lines last.world := by
  obtain ⟨orderId, hstuck⟩ := (balanced hfirst hrun).stuck hstale
  exact hstuck.not_recoverable

end Runs

/-- A plan with one created order. -/
def sampleDraft : ℕ → RepeatCall
  | 0 => sampleCall "create" "" samplePlan
  | _ => sampleCall "next" "first" (.createNext "plan")

/-- The price has changed since the order was created. -/
def sampleNewLines : List OrderLine :=
  [⟨"first-line", "Service", .finite 1, ⟨1200, "EUR"⟩⟩]

/-- What the rows are examined for. -/
def draftOf (planId : String) (rows : Rows Row) :
    Option (RepeatPlanStatus × Option String × Option (List OrderLine)) :=
  (rows.get (Key.repeatOrderPlan planId)).map fun (row : RepeatPlanRow) =>
    (row.status, row.pendingOrderId, row.pendingOrderId.bind fun orderId =>
      match Orders.read rows rows orderId with
      | .ok order => order.map Order.lines
      | .error _ => none)

theorem staleDraft_of_draftOf {planId orderId : String} {rows : Rows Row}
    {lines newLines : List OrderLine}
    (h : draftOf planId rows = some (.active, some orderId, some lines))
    (hne : lines ≠ newLines) : StaleDraft planId newLines rows := by
  obtain ⟨row, hrow, heq⟩ := Option.map_eq_some_iff.mp h
  simp only [Prod.mk.injEq] at heq
  obtain ⟨hactive, hpending, hlines⟩ := heq
  rw [hpending, Option.bind_some] at hlines
  cases hread : Orders.read rows rows orderId with
  | error error => simp [hread] at hlines
  | ok found =>
      rw [hread] at hlines
      obtain ⟨order, rfl, rfl⟩ := Option.map_eq_some_iff.mp hlines
      exact ⟨row, orderId, order, hrow, hactive, hpending, hread, hne⟩

theorem sampleDraft_run : ∃ events last,
    Run (flow id) (Sys.ofCalls sampleWorld sampleDraft) events last ∧
      StaleDraft "plan" sampleNewLines last.world.rows := by
  obtain ⟨events, last, hrun, hdraft⟩ : ∃ events last,
      Run (flow id) (Sys.ofCalls sampleWorld sampleDraft) events last ∧
        draftOf "plan" last.world.rows =
          some (.active, some "first", some [sampleLine "first-line"]) :=
    sample_run 2 (fun result => draftOf "plan" result.2) (by decide +kernel)
  exact ⟨events, last, hrun, staleDraft_of_draftOf hdraft (by decide)⟩

/-- A price change strands the plan. -/
theorem price_change_strands : ¬ ∀ (calls : ℕ → RepeatCall)
    (events : List (RunEvent ℕ))
    (last : Sys ℕ Instant Row Failure (Session RepeatCall Failure RepeatAnswer)),
    Run (flow id) (Sys.ofCalls sampleWorld calls) events last →
    StaleDraft "plan" sampleNewLines last.world.rows →
    Recoverable id "plan" sampleNewLines last.world := by
  intro hrecover
  obtain ⟨events, last, hrun, hstale⟩ := sampleDraft_run
  obtain ⟨orderId, hstuck⟩ := (balanced sampleRows_initial hrun).stuck hstale
  exact hstuck.not_recoverable (hrecover _ events last hrun hstale)

theorem stale_draft_unrecoverable_price : ∃ events last,
    Run (flow id) (Sys.ofCalls sampleWorld sampleDraft) events last ∧
      StaleDraft "plan" sampleNewLines last.world.rows ∧
      ¬ Recoverable id "plan" sampleNewLines last.world := by
  obtain ⟨events, last, hrun, hstale⟩ := sampleDraft_run
  exact ⟨events, last, hrun, hstale,
    stale_draft_unrecoverable sampleRows_initial hrun hstale⟩

end RepeatOrderService

end ShemaPlatform
