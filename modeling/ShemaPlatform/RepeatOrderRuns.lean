/-
Interleaved runs of repeat-order calls: what every commit preserves, and what
that means for a whole run.  Each request is applied at most once.
-/
import ShemaPlatform.CallRun
import ShemaPlatform.RepeatOrderCommits

namespace ShemaPlatform

open Calendar ReadCommitted ReadCommitted.Prog

namespace RepeatOrderService

/-- How repeat-order calls change the database for each other. -/
def evolution : Evolution Instant Row where
  rel before after :=
    (∀ key record,
      before.rows.get (Key.idempotencyKey key) = some record →
      after.rows.get (Key.idempotencyKey key) = some record) ∧
    ∀ planId (row : RepeatPlanRow),
      before.rows.get (Key.repeatOrderPlan planId) = some row →
      ∃ row' : RepeatPlanRow,
        after.rows.get (Key.repeatOrderPlan planId) = some row' ∧
          (row' = row ∨ row.revision < row'.revision)
  refl _ := ⟨fun _ _ h => h, fun _ row h => ⟨row, h, Or.inl rfl⟩⟩
  trans := by
    rintro a b c ⟨hrecords, hplans⟩ ⟨hrecords', hplans'⟩
    refine ⟨fun key record h => hrecords' key record (hrecords key record h),
      fun planId row hrow => ?_⟩
    obtain ⟨row', hrow', hchange⟩ := hplans planId row hrow
    obtain ⟨row'', hrow'', hchange'⟩ := hplans' planId row' hrow'
    refine ⟨row'', hrow'', ?_⟩
    rcases hchange with rfl | hlt
    · exact hchange'
    · rcases hchange' with rfl | hlt'
      · exact Or.inr hlt
      · exact Or.inr (Nat.lt_trans hlt hlt')

theorem respects_evolution : Respects evolution :=
  ⟨fun hrel => hrel.1 _ _, fun hrel => hrel.2 _ _⟩

section Commits

variable {uuid5 : String → String} {evolution : Evolution Instant Row}
  {call : RepeatCall} {answer : RepeatAnswer} {own : Rows Row}
  {world : World Instant Row} {touches : Key → Prop}

/-- Business rows an operation does not touch stay as they were. -/
theorem Applied.get_untouched (h : Applied uuid5 evolution call touches own world)
    {key : Key} (hbusiness : business key) (htouches : ¬ touches key) :
    Rows.get (own ++ world.rows) key = world.rows.get key := by
  refine h.touched.get_append ?_ world.rows
  rintro (rfl | rfl | ⟨id, rfl⟩ | hkey)
  · exact hbusiness
  · exact hbusiness
  · exact hbusiness
  · exact htouches hkey

/-- A commit that writes something applies the operation of its call. -/
theorem Effect.applied (h : Effect uuid5 evolution call answer own world)
    (hown : own ≠ []) : ∃ touches, Applied uuid5 evolution call touches own world ∧
      ∀ key, touches key → business key := by
  cases h with
  | planReplayed hkind hreplayed => exact absurd rfl hown
  | orderReplayed hkind hreplayed => exact absurd rfl hown
  | planCreated hcall happlied => exact ⟨_, happlied, business_plan⟩
  | orderCreated hcall happlied =>
      refine ⟨_, happlied, ?_⟩
      rintro key (hkey | hkey)
      · exact business_plan key hkey
      · exact business_ofOrder hkey
  | orderConfirmed hcall happlied =>
      refine ⟨_, happlied, ?_⟩
      rintro key (hkey | hkey | rfl)
      · exact business_plan key hkey
      · exact business_ofOrder hkey
      · trivial
  | planMutated hcall happlied => exact ⟨_, happlied, business_plan⟩

/-- A reserved key keeps its record. -/
theorem Effect.record_kept (h : Effect uuid5 evolution call answer own world)
    {key : String} {record : IdempotencyRecord}
    (hrecord : world.rows.get (Key.idempotencyKey key) = some record) :
    Rows.get (own ++ world.rows) (Key.idempotencyKey key) = some record := by
  by_cases hown : own = []
  · rw [hown]
    exact hrecord
  · obtain ⟨touches, happlied, hbusiness⟩ := h.applied hown
    by_cases hkey : key = call.caller.idempotencyKey
    · obtain ⟨held, hheld, _, _, hkept⟩ := happlied.reserved
      rw [hkey] at hrecord ⊢
      rw [hheld, hkept record hrecord]
    · rw [happlied.touched.get_append _ world.rows]
      · exact hrecord
      · rintro (heq | heq | ⟨id, heq⟩ | htouches)
        · exact hkey (Key.idempotencyKey.inj heq)
        · simp at heq
        · simp at heq
        · exact hbusiness _ htouches

/-- An audit record is never replaced. -/
theorem Effect.audit_kept (h : Effect uuid5 evolution call answer own world)
    {auditId : String} {audit : AuditRecord}
    (haudit : world.rows.get (Key.auditLog auditId) = some audit) :
    Rows.get (own ++ world.rows) (Key.auditLog auditId) = some audit := by
  by_cases hown : own = []
  · rw [hown]
    exact haudit
  · obtain ⟨touches, happlied, hbusiness⟩ := h.applied hown
    rw [happlied.touched.get_append _ world.rows]
    · exact haudit
    · rintro (heq | heq | ⟨id, heq⟩ | htouches)
      · simp at heq
      · rw [Key.auditLog.inj heq, happlied.fresh] at haudit
        simp at haudit
      · simp at heq
      · exact hbusiness _ htouches

/-- No operation writes a commercial action. -/
theorem Effect.commercialAction_kept
    (h : Effect uuid5 evolution call answer own world) (actionId : String) :
    Rows.get (own ++ world.rows) (Key.commercialAction actionId) =
      world.rows.get (Key.commercialAction actionId) := by
  cases h with
  | planReplayed hkind hreplayed => rfl
  | orderReplayed hkind hreplayed => rfl
  | planCreated hcall happlied => exact happlied.get_untouched (by simp) (by simp)
  | planMutated hcall happlied => exact happlied.get_untouched (by simp) (by simp)
  | orderCreated hcall happlied =>
      exact happlied.get_untouched (by simp) (by simp [Orders.ofOrder])
  | orderConfirmed hcall happlied =>
      exact happlied.get_untouched (by simp) (by simp [Orders.ofOrder])

theorem PlanSaved.revision {planId : String} {plan changed : RepeatOrderPlan}
    {row new : RepeatPlanRow} {before after : Rows Row}
    (h : PlanSaved planId plan changed row new before after) :
    new.revision = row.revision + 1 := by
  rw [← (RepeatOrders.shows_of_updated h.changed).revision,
    ← (RepeatOrders.shows_of_toPlan h.shown).2.revision]

/-- How one commit changes the plans: the plan of its call is created, or moved
from exactly the state it was committed in to the next revision. -/
def Revised (call : RepeatCall) (before after : Rows Row) : Prop :=
  (∀ planId, planId ≠ call.operation.planId →
    after.get (Key.repeatOrderPlan planId) =
      before.get (Key.repeatOrderPlan planId)) ∧
  ((before.get (Key.repeatOrderPlan call.operation.planId) = none ∧
    ∃ new, after.get (Key.repeatOrderPlan call.operation.planId) = some new) ∨
    ∃ plan changed row new, call.Moves plan changed ∧
      PlanSaved call.operation.planId plan changed row new before after ∧
      new.revision = row.revision + 1)

theorem Revised.saved {planId : String} {plan changed : RepeatOrderPlan}
    {row new : RepeatPlanRow} {before after : Rows Row}
    (hplan : call.operation.planId = planId)
    (hplans : ∀ other, other ≠ planId →
      after.get (Key.repeatOrderPlan other) =
        before.get (Key.repeatOrderPlan other))
    (hmoves : call.Moves plan changed)
    (hsaved : PlanSaved planId plan changed row new before after) :
    Revised call before after := by
  subst hplan
  exact ⟨hplans, Or.inr ⟨_, _, _, _, hmoves, hsaved, hsaved.revision⟩⟩

/-- Every commit that writes revises the plan of its call. -/
theorem Effect.revised (h : Effect uuid5 evolution call answer own world)
    (hown : own ≠ []) : Revised call world.rows (own ++ world.rows) := by
  cases h with
  | planReplayed hkind hreplayed => exact absurd rfl hown
  | orderReplayed hkind hreplayed => exact absurd rfl hown
  | planCreated hcall happlied hfresh _ _ _ _ hafter =>
      rw [Revised, hcall]
      exact ⟨fun other hother => happlied.get_untouched (by simp)
        (by simpa [RepeatOperation.planId] using hother),
        Or.inl ⟨hfresh, _, hafter⟩⟩
  | orderCreated hcall happlied _ _ _ _ _ _ _ hchanged hsaved =>
      refine .saved (by rw [hcall, RepeatOperation.planId])
        (fun other hother => happlied.get_untouched (by simp)
          (by simp [hother, Orders.ofOrder])) ?_ hsaved
      rw [RepeatCall.Moves, hcall]
      exact hchanged
  | orderConfirmed hcall happlied _ _ _ _ _ _ _ _ _ _ _ _ _ _ _ hchanged hsaved =>
      refine .saved (by rw [hcall, RepeatOperation.planId])
        (fun other hother => happlied.get_untouched (by simp)
          (by simp [hother, Orders.ofOrder])) ?_ hsaved
      rw [RepeatCall.Moves, hcall]
      exact hchanged
  | planMutated hcall happlied _ hchanged hsaved =>
      refine .saved (by rw [hcall, RepeatOperation.planId])
        (fun other hother => happlied.get_untouched (by simp)
          (by simp [hother])) ?_ hsaved
      rw [RepeatCall.Moves, hcall]
      exact hchanged

/-- A plan that a commit does not leave alone gets the next revision. -/
theorem Effect.plan_step (h : Effect uuid5 evolution call answer own world)
    {planId : String} {row : RepeatPlanRow}
    (hrow : world.rows.get (Key.repeatOrderPlan planId) = some row) :
    ∃ row' : RepeatPlanRow,
      Rows.get (own ++ world.rows) (Key.repeatOrderPlan planId) = some row' ∧
        (row' = row ∨ row'.revision = row.revision + 1) := by
  by_cases hown : own = []
  · exact ⟨row, by rw [hown]; exact hrow, Or.inl rfl⟩
  · obtain ⟨hothers, hplan⟩ := h.revised hown
    by_cases heq : planId = call.operation.planId
    · subst heq
      rcases hplan with ⟨hnone, _⟩ | ⟨_, _, old, new, _, hsaved, hrevision⟩
      · rw [hnone] at hrow
        simp at hrow
      · obtain rfl := Option.some.inj (hsaved.before.symm.trans hrow)
        exact ⟨new, hsaved.after, Or.inr hrevision⟩
    · exact ⟨row, (hothers planId heq).trans hrow, Or.inl rfl⟩

end Commits

/-- The service under any number of clients; the clock may read anything, and
the database may abort a transaction at any statement. -/
def flow (uuid5 : String → String) :
    Workflow Instant Row Failure (Session RepeatCall Failure RepeatAnswer) Empty :=
  callFlow (RepeatCall.program uuid5) Failure.infrastructure fun _ _ => True

/-- What a run of the service records. -/
abbrev RunEvent (ι : Type) :=
  Event ι Row Failure (Session RepeatCall Failure RepeatAnswer) Empty

/-- A commit that wrote something. -/
structure Application where
  call : RepeatCall
  answer : RepeatAnswer
  own : Rows Row

variable {ι : Type} {uuid5 : String → String}

def application : RunEvent ι → Option Application
  | .committed _ _ (.returned call answer) own =>
      if own.isEmpty then none else some ⟨call, answer, own⟩
  | _ => none

/-- The operations a run has applied, oldest first. -/
def history (events : List (RunEvent ι)) : List Application :=
  events.filterMap application

section History

variable [DecidableEq ι] {evolution : Evolution Instant Row}
  {call : ι → RepeatCall} {world : World Instant Row}
  {last : Sys ι Instant Row Failure (Session RepeatCall Failure RepeatAnswer)}
  {events : List (RunEvent ι)}

/-- A property of the committed world and the history holds throughout every
run if every application preserves it; replays change neither. -/
theorem history_induction
    (rule : CallRule (RepeatCall.program uuid5) (fun _ _ => True) evolution)
    (holds : World Instant Row → List Application → Prop)
    (hadmits : ∀ client, rule.admits (call client)) (hinv : rule.inv world)
    (hfirst : holds world [])
    (hcommit : ∀ {world applied call answer own}, rule.inv world →
      rule.admits call → rule.effect call answer own world → own ≠ [] →
      holds world applied →
      holds (world.commit own) (applied ++ [⟨call, answer, own⟩]))
    (hclock : ∀ {world applied env}, holds world applied →
      holds ⟨env, world.rows⟩ applied)
    (hrun : Run (flow uuid5) (Sys.ofCalls world call) events last) :
    holds last.world (history events) := by
  refine rule.run_induction
    (fun world events => holds world (history events)) hadmits hinv hfirst
    ?_ ?_ ?_ hrun
  · intro world events client call answer own hinv hadmits heffect hholds
    rw [history, List.filterMap_append]
    cases own with
    | nil =>
        change holds world (history events ++ [])
        rwa [List.append_nil]
    | cons entry rest =>
        exact hcommit hinv hadmits heffect (by simp) hholds
  · intro world events client before error hholds
    rw [history, List.filterMap_append]
    change holds world (history events ++ [])
    rwa [List.append_nil]
  · exact fun _ hholds => hclock hholds

end History

/-- A commit develops the database as the evolution says. -/
theorem Effect.rel {call : RepeatCall} {answer : RepeatAnswer} {own : Rows Row}
    {world : World Instant Row} {evolution' : Evolution Instant Row}
    (h : Effect uuid5 evolution' call answer own world) :
    evolution.rel world (world.commit own) := by
  refine ⟨fun key record => h.record_kept, fun planId row hrow => ?_⟩
  obtain ⟨row', hrow', hchange⟩ := h.plan_step hrow
  exact ⟨row', hrow', hchange.imp_right fun hrevision => by omega⟩

/-- The rule of the service: any call, any reachable world. -/
def rule (uuid5 : String → String) :
    CallRule (RepeatCall.program uuid5) (fun _ _ => True) evolution where
  inv _ := True
  admits _ := True
  effect := Effect uuid5 evolution
  stable _ _ := trivial
  body_ok _ _ := atCommit_program respects_evolution
  commit_ok _ heffect _ := heffect.rel
  drift_ok _ := evolution.refl _

/-- The reservation and the audit record an application has left. -/
def Logged (uuid5 : String → String) (applied : Application)
    (rows : Rows Row) : Prop :=
  (∃ record : IdempotencyRecord,
    rows.get (Key.idempotencyKey applied.call.caller.idempotencyKey) =
        some record ∧ record.resultRef = applied.call.resultRef) ∧
  ∃ audit : AuditRecord, rows.get (Key.auditLog (auditId uuid5
    applied.call.operation.action applied.call.resultRef
    applied.call.caller.idempotencyKey)) = some audit

/-- An application of the action for a request with the key. -/
def Application.isFor (action key : String) (applied : Application) : Bool :=
  applied.call.operation.action == action &&
    applied.call.caller.idempotencyKey == key

section AtMostOnce

variable {evolution : Evolution Instant Row} {call : RepeatCall}
  {answer : RepeatAnswer} {own : Rows Row} {world : World Instant Row}

theorem Effect.logged (h : Effect uuid5 evolution call answer own world)
    (hown : own ≠ []) : Logged uuid5 ⟨call, answer, own⟩ (own ++ world.rows) := by
  obtain ⟨touches, happlied, _⟩ := h.applied hown
  obtain ⟨record, hheld, _, href, _⟩ := happlied.reserved
  exact ⟨⟨record, hheld, href⟩, happlied.audited⟩

theorem Effect.logged_kept (h : Effect uuid5 evolution call answer own world)
    {applied : Application} (hlogged : Logged uuid5 applied world.rows) :
    Logged uuid5 applied (own ++ world.rows) := by
  obtain ⟨⟨record, hrecord, href⟩, audit, haudit⟩ := hlogged
  exact ⟨⟨record, h.record_kept hrecord, href⟩, audit, h.audit_kept haudit⟩

/-- The reservation leads a second application to the same resource, where the
audit record of the first refuses it. -/
theorem Effect.not_again (h : Effect uuid5 evolution call answer own world)
    (hown : own ≠ []) {applied : Application}
    (hlogged : Logged uuid5 applied world.rows) {action key : String}
    (hbefore : applied.isFor action key = true)
    (hagain : Application.isFor action key ⟨call, answer, own⟩ = true) :
    False := by
  obtain ⟨touches, happlied, _⟩ := h.applied hown
  obtain ⟨⟨old, hold, holdRef⟩, audit, haudit⟩ := hlogged
  simp only [Application.isFor, Bool.and_eq_true, beq_iff_eq] at hbefore hagain
  obtain ⟨record, _, _, href, hkept⟩ := happlied.reserved
  rw [hbefore.2, ← hagain.2] at hold haudit
  rw [hkept old hold, href] at holdRef
  rw [hbefore.1, ← hagain.1, ← holdRef, happlied.fresh] at haudit
  simp at haudit

variable [DecidableEq ι] {calls : ι → RepeatCall}
  {last : Sys ι Instant Row Failure (Session RepeatCall Failure RepeatAnswer)}
  {events : List (RunEvent ι)}

/-- In every interleaving of any calls, a request is applied at most once: of
all the calls with one idempotency key, at most one commits each kind of
operation. -/
theorem applied_at_most_once (action key : String)
    (hrun : Run (flow uuid5) (Sys.ofCalls world calls) events last) :
    ((history events).filter (Application.isFor action key)).length ≤ 1 := by
  have hall := history_induction (rule uuid5)
    (fun world applied => (∀ item ∈ applied, Logged uuid5 item world.rows) ∧
      (applied.filter (Application.isFor action key)).length ≤ 1)
    (fun _ => trivial) trivial ⟨by simp, by simp⟩ ?_ (fun hholds => hholds) hrun
  · exact hall.2
  · rintro world applied call answer own _ _ heffect hown ⟨hlogged, honce⟩
    constructor
    · intro item hitem
      rw [List.mem_append, List.mem_singleton] at hitem
      rcases hitem with hitem | rfl
      · exact heffect.logged_kept (hlogged item hitem)
      · exact heffect.logged hown
    · rw [List.filter_append, List.length_append]
      by_cases hnew : Application.isFor action key ⟨call, answer, own⟩ = true
      · have hnone : applied.filter (Application.isFor action key) = [] := by
          rw [List.filter_eq_nil_iff]
          exact fun item hitem hbefore =>
            heffect.not_again hown (hlogged item hitem) hbefore hnew
        rw [hnone]
        simp [hnew]
      · simpa [hnew] using honce

end AtMostOnce

section Sample

/-- A platform with one verified identity and one completed order. -/
def sampleRows : Rows Row :=
  [⟨Key.identity "identity", some ⟨"identity", "Company", .verified, none, none⟩⟩,
    ⟨Key.commercialAction "action", some ⟨"action", "identity", "contact", "max",
      ["evidence"], some "operator", .sent, 1, none, none⟩⟩,
    ⟨Key.orderHeader "source", some ⟨"identity", "action", .completed,
      some "operator"⟩⟩,
    ⟨Key.orderLine "source-line", some "source"⟩,
    ⟨Key.orderLines "source", some [⟨"source-line", "Service", 100000000,
      1000000000, "EUR"⟩]⟩]

def sampleWorld : World Instant Row := ⟨0, sampleRows⟩

def sampleLine (lineId : String) : OrderLine :=
  ⟨lineId, "Service", .finite 1, ⟨1000, "EUR"⟩⟩

/-- A service that hands out one order id, and whose revalidator approves one
line for it. -/
def sampleService (orderId : String) : RepeatOrderService where
  authorizer := ⟨[("operator", [.orderCreate])]⟩
  revalidate _ _ _ :=
    .ok ⟨true, true, true, true, true, [sampleLine (orderId ++ "-line")], []⟩
  newOrderId := orderId

def sampleCall (key orderId : String) (operation : RepeatOperation) : RepeatCall :=
  ⟨sampleService orderId, ⟨⟨"operator", 2⟩, key, key, none⟩, operation⟩

def sampleContext : RepeatOrderContext :=
  ⟨⟨⟨2030, 1, 15, by decide, by decide⟩, 0, true, by decide⟩, "scope", .finite 1⟩

def samplePlan : RepeatOperation :=
  .createPlan "plan" "source" ⟨.day, 1, le_refl 1⟩ sampleContext

/-- A pause, sent three times under one key. -/
def samplePauses : ℕ → RepeatCall
  | 0 => sampleCall "create" "" samplePlan
  | _ => sampleCall "pause" "" (.mutate .pause "plan")

/-- The sample calls one after the other, with what has been computed of them. -/
theorem sample_run {α : Type} {calls : ℕ → RepeatCall} (n : ℕ)
    (outcome : List (RunEvent ℕ) × Rows Row → α) {expected : α}
    (hcalls : (serially (RepeatCall.program id) calls sampleWorld n).map outcome =
      .ok expected) :
    ∃ events last, Run (flow id) (Sys.ofCalls sampleWorld calls) events last ∧
      outcome (events, last.world.rows) = expected :=
  run_of_serially outcome hcalls

theorem applied_at_most_once_pause : ∃ events last,
    Run (flow id) (Sys.ofCalls sampleWorld samplePauses) events last ∧
      events.length = 4 ∧ ((history events).filter
        (Application.isFor "repeat_order.plan_paused" "pause")).length ≤ 1 := by
  obtain ⟨events, last, hrun, hlength⟩ : ∃ events last,
      Run (flow id) (Sys.ofCalls sampleWorld samplePauses) events last ∧
        events.length = 4 :=
    sample_run 4 (fun result => result.1.length) (by decide +kernel)
  exact ⟨events, last, hrun, hlength, applied_at_most_once _ _ hrun⟩

end Sample

end RepeatOrderService

end ShemaPlatform
