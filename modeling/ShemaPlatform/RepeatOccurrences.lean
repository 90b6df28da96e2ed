/-
Which orders one scheduled occurrence can have.  The schedule moves on when an
order is confirmed, but only while its plan is active.
-/
import ShemaPlatform.RepeatOrderConsistency

namespace ShemaPlatform

open Calendar ReadCommitted Recurrence

namespace RepeatOrderService

/-- The occurrence the plan stood at after an application. -/
def Application.scheduledFor (applied : Application) : Option DateTime :=
  applied.planRow.map RepeatPlanRow.scheduledFor

/-- The status the plan had after an application. -/
def Application.planStatus (applied : Application) : Option RepeatPlanStatus :=
  applied.planRow.map RepeatPlanRow.status

/-- No operation has edited the context of the plan. -/
def Unedited (applied : List Application) (planId : String) : Prop :=
  ∀ item ∈ applied, ∀ context,
    item.call.operation ≠ .mutate (.editContext context) planId

theorem Unedited.not_logged {applied : List Application} {planId : String}
    (h : Unedited applied planId) : .edited planId ∉ log applied := by
  intro hedited
  obtain ⟨item, hitem, hentry⟩ := List.mem_filterMap.mp hedited
  unfold Application.entry at hentry
  split at hentry
  · simp at hentry
  · obtain ⟨_, _, hmade⟩ := Option.map_eq_some_iff.mp hentry
    simp at hmade
  · simp at hentry
  · rename_i mutation edited hop
    cases mutation with
    | editContext context =>
        obtain rfl := Entry.edited.inj (Option.some.inj hentry)
        exact h item hitem context hop
    | _ => simp [mutationEntry] at hentry

/-- The log entry of a creation. -/
theorem Application.Creates.entry {applied : Application}
    {planId orderId : String} {due : DateTime}
    (h : applied.Creates planId orderId)
    (hdue : applied.scheduledFor = some due) :
    applied.entry = some (.made planId orderId due) := by
  obtain ⟨hop, rfl⟩ := h
  obtain ⟨row, hrow, rfl⟩ := Option.map_eq_some_iff.mp hdue
  simp [Application.entry, hop, hrow]

section Runs

variable {ι : Type} [DecidableEq ι] {uuid5 : String → String}
  {calls : ι → RepeatCall} {world : World Instant Row}
  {last : Sys ι Instant Row Failure (Session RepeatCall Failure RepeatAnswer)}
  {events : List (RunEvent ι)}

/-- Two orders of a plan are created for the same occurrence only if the first
of them was confirmed while the plan was not active. -/
theorem same_occurrence (planId : String)
    (hrun : Run (flow uuid5) (Sys.ofCalls world calls) events last)
    (hunedited : Unedited (history events) planId)
    {first second : Application} {orderId orderId' : String} {due : DateTime}
    (hpair : [first, second].Sublist (history events))
    (hfirst : first.Creates planId orderId)
    (hsecond : second.Creates planId orderId')
    (hdue : first.scheduledFor = some due)
    (hdue' : second.scheduledFor = some due) :
    ∀ item ∈ history events, item.call.operation = .confirm planId orderId →
      item.planStatus ≠ some .active := by
  intro item hitem hop hactive
  have hpaced := (Paced.nil planId (view world.rows)).trace (run_trace hrun)
    hunedited.not_logged
  have hlogged : [.made planId orderId due, .made planId orderId' due].Sublist
      (log (history events)) := by
    have hentries := hpair.filterMap Application.entry
    rwa [List.filterMap_cons_some (hfirst.entry hdue),
      List.filterMap_cons_some (hsecond.entry hdue'), List.filterMap_nil]
      at hentries
  have hclosed : .closed planId orderId true ∈ log (history events) := by
    refine List.mem_filterMap.mpr ⟨item, hitem, ?_⟩
    obtain ⟨row, hrow, hstatus⟩ := Option.map_eq_some_iff.mp hactive
    simp [Application.entry, hop, hrow, hstatus]
  exact lt_irrefl due ((hpaced.in_turn hlogged).2 hclosed)

end Runs

/-- Each occurrence of a plan yields at most one confirmed order. -/
def OrderedOnce (applied : List Application) (planId : String) : Prop :=
  ∀ first ∈ applied, ∀ second ∈ applied, ∀ orderId orderId',
    first.Creates planId orderId → second.Creates planId orderId' →
    first.scheduledFor = second.scheduledFor →
    (∃ item ∈ applied, item.call.operation = .confirm planId orderId) →
    (∃ item ∈ applied, item.call.operation = .confirm planId orderId') →
    orderId = orderId'

/-- An order confirmed during a pause leaves the schedule where it was. -/
def samplePaused : ℕ → RepeatCall
  | 0 => sampleCall "create" "" samplePlan
  | 1 => sampleCall "next" "first" (.createNext "plan")
  | 2 => sampleCall "pause" "" (.mutate .pause "plan")
  | 3 => sampleCall "confirm" "first" (.confirm "plan" "first")
  | 4 => sampleCall "resume" "" (.mutate .resume "plan")
  | 5 => sampleCall "next again" "second" (.createNext "plan")
  | _ => sampleCall "confirm again" "second" (.confirm "plan" "second")

/-- What the run is examined for. -/
def Application.summary (applied : Application) :
    RepeatOperation × String × Bool :=
  (applied.call.operation, applied.call.service.newOrderId,
    applied.scheduledFor == some sampleContext.scheduledFor)

theorem samplePaused_run : ∃ events last,
    Run (flow id) (Sys.ofCalls sampleWorld samplePaused) events last ∧
      Unedited (history events) "plan" ∧
      ∃ create first pause confirm resume second again,
        history events = [create, first, pause, confirm, resume, second, again] ∧
        first.summary = (.createNext "plan", "first", true) ∧
        confirm.summary = (.confirm "plan" "first", "first", true) ∧
        second.summary = (.createNext "plan", "second", true) ∧
        again.summary = (.confirm "plan" "second", "second", false) := by
  obtain ⟨events, last, hrun, hhistory⟩ : ∃ events last,
      Run (flow id) (Sys.ofCalls sampleWorld samplePaused) events last ∧
        (history events).map Application.summary =
          [(samplePlan, "", true), (.createNext "plan", "first", true),
            (.mutate .pause "plan", "", true),
            (.confirm "plan" "first", "first", true),
            (.mutate .resume "plan", "", true),
            (.createNext "plan", "second", true),
            (.confirm "plan" "second", "second", false)] :=
    sample_run 7 (fun result => (history result.1).map Application.summary)
      (by decide +kernel)
  refine ⟨events, last, hrun, fun item hitem context hop => ?_, ?_⟩
  · have hsummary := List.mem_map_of_mem (f := Application.summary) hitem
    rw [hhistory] at hsummary
    simp [Application.summary, hop, samplePlan] at hsummary
  · simp only [List.map_eq_cons_iff, List.map_eq_nil_iff] at hhistory
    obtain ⟨create, _, hcons, _, first, _, rfl, hfirst, pause, _, rfl, _, confirm,
      _, rfl, hconfirm, resume, _, rfl, _, second, _, rfl, hsecond, again, _, rfl,
      hagain, rfl⟩ := hhistory
    exact ⟨create, first, pause, confirm, resume, second, again, hcons, hfirst,
      hconfirm, hsecond, hagain⟩

/-- Two orders confirmed for one occurrence. -/
theorem ordered_twice : ¬ ∀ (calls : ℕ → RepeatCall) (events : List (RunEvent ℕ))
    (last : Sys ℕ Instant Row Failure (Session RepeatCall Failure RepeatAnswer)),
    Run (flow id) (Sys.ofCalls sampleWorld calls) events last →
    Unedited (history events) "plan" → OrderedOnce (history events) "plan" := by
  intro honce
  obtain ⟨events, last, hrun, hunedited, create, first, pause, confirm, resume,
    second, again, hhistory, hfirst, hconfirm, hsecond, hagain⟩ := samplePaused_run
  have hmem : ∀ {item}, item ∈ [first, confirm, second, again] →
      item ∈ history events := by
    rw [hhistory]
    simp only [List.mem_cons, List.not_mem_nil, or_false]
    tauto
  simp only [Application.summary, Prod.mk.injEq, beq_iff_eq]
    at hfirst hconfirm hsecond hagain
  have hsame := honce _ events last hrun hunedited first (hmem (by simp)) second
    (hmem (by simp)) "first" "second" ⟨hfirst.1, hfirst.2.1⟩
    ⟨hsecond.1, hsecond.2.1⟩ (hfirst.2.2.trans hsecond.2.2.symm)
    ⟨confirm, hmem (by simp), hconfirm.1⟩ ⟨again, hmem (by simp), hagain.1⟩
  simp at hsame

theorem same_occurrence_paused : ∃ events last,
    Run (flow id) (Sys.ofCalls sampleWorld samplePaused) events last ∧
      ∃ item ∈ history events, item.call.operation = .confirm "plan" "first" ∧
        item.planStatus ≠ some .active := by
  obtain ⟨events, last, hrun, hunedited, create, first, pause, confirm, resume,
    second, again, hhistory, hfirst, hconfirm, hsecond, _⟩ := samplePaused_run
  have hpair : [first, second].Sublist (history events) := by
    rw [hhistory]
    exact .cons _ (.cons_cons _ (.cons _ (.cons _ (.cons _ (.cons_cons _
      (.cons _ .slnil))))))
  have hitem : confirm ∈ history events := by
    rw [hhistory]
    simp
  simp only [Application.summary, Prod.mk.injEq, beq_iff_eq]
    at hfirst hconfirm hsecond
  exact ⟨events, last, hrun, confirm, hitem, hconfirm.1,
    same_occurrence "plan" hrun hunedited hpair ⟨hfirst.1, hfirst.2.1⟩
      ⟨hsecond.1, hsecond.2.1⟩ hfirst.2.2 hsecond.2.2 confirm hitem hconfirm.1⟩

end RepeatOrderService

end ShemaPlatform
