/-
What an idempotency key binds at the HTTP boundary.  A second request under a
key is refused exactly when its hashed text differs from the first one's.
-/
import ShemaPlatform.RepeatOrderRuns
import ShemaPlatform.RepeatRequests

namespace ShemaPlatform

open Calendar ReadCommitted ReadCommitted.Prog

/-- A request as it reaches its handler: from an authenticated actor, under an
idempotency key, at a service as it behaves then. -/
structure RepeatHttpCall where
  service : RepeatOrderService
  actor : Actor
  idempotencyKey : String
  correlationId : Option String
  request : RepeatRequest

namespace RepeatHttpCall

variable (sha256 uuid5 : String → String)

def caller (call : RepeatHttpCall) : Caller :=
  ⟨call.actor, sha256 call.request.hashed, call.idempotencyKey, call.correlationId⟩

/-- The handler of a route: it builds its arguments and calls the service. -/
def program (call : RepeatHttpCall) : Tx Instant RepeatAnswer := do
  let operation ← lift call.request.operation
  RepeatCall.program uuid5 ⟨call.service, call.caller sha256, operation⟩

/-- The request is refused because its key stands for another one. -/
def Conflicts (call : RepeatHttpCall) (world : World Instant Row) : Prop :=
  ∃ message, (call.program sha256 uuid5).execute world.env world.rows [] =
    .error (.idempotencyConflict message)

end RepeatHttpCall

def Failure.isConflict : Failure → Prop
  | .idempotencyConflict _ => True
  | _ => False

theorem Failure.isConflict_iff {error : Failure} :
    error.isConflict ↔ ∃ message, error = .idempotencyConflict message := by
  cases error <;> simp [isConflict]

section Reading

/-- A computation that never ends in an idempotency conflict. -/
def NoConflict {α : Type} (x : Except Failure α) : Prop :=
  ∀ error, x = .error error → ¬ error.isConflict

variable {α β : Type}

theorem noConflict_ok (value : α) : NoConflict (.ok value) := by
  intro error herror
  simp at herror

theorem noConflict_error {error : Failure} (herror : ¬ error.isConflict) :
    NoConflict (.error error : Except Failure α) := by
  rintro _ ⟨⟩
  exact herror

theorem noConflict_bind {x : Except Failure α} {rest : α → Except Failure β}
    (hx : NoConflict x) (hrest : ∀ value, NoConflict (rest value)) :
    NoConflict (x >>= rest) := by
  cases x with
  | ok value => exact hrest value
  | error error => exact noConflict_error (hx error rfl)

theorem noConflict_require {condition : Bool} {error : Failure}
    (herror : ¬ error.isConflict) : NoConflict (require condition error) := by
  unfold require
  split
  · exact noConflict_ok ()
  · exact noConflict_error herror

theorem noConflict_nonPositive (value : Decimal) : NoConflict value.nonPositive := by
  cases value with
  | nan => exact noConflict_error id
  | _ => exact noConflict_ok _

theorem noConflict_cadence (unit : RepeatCadenceUnit) (interval : ℕ) :
    NoConflict (RepeatCadence.new unit interval) := by
  unfold RepeatCadence.new
  split
  · exact noConflict_ok _
  · exact noConflict_error id

theorem noConflict_context (context : RepeatOrderContext) :
    NoConflict context.new := by
  apply noConflict_bind (noConflict_require id)
  intro _
  apply noConflict_bind (noConflict_require id)
  intro _
  apply noConflict_bind (noConflict_nonPositive _)
  intro _
  apply noConflict_bind (noConflict_require id)
  exact fun _ => noConflict_ok context

theorem noConflict_toPlan (planId : String) (row : RepeatPlanRow) :
    NoConflict (row.toPlan planId) := by
  apply noConflict_bind (noConflict_cadence _ _)
  intro cadence
  apply noConflict_bind (noConflict_context _)
  intro context
  apply noConflict_bind (noConflict_require id)
  intro _
  apply noConflict_bind (noConflict_require id)
  intro _
  apply noConflict_bind (noConflict_require id)
  intro _
  apply noConflict_bind (noConflict_require id)
  exact fun _ => noConflict_ok _

theorem noConflict_toLine (row : OrderLineRow) : NoConflict row.toLine := by
  apply noConflict_bind
  · apply noConflict_bind (noConflict_require id)
    intro _
    apply noConflict_bind (noConflict_require id)
    exact fun _ => noConflict_ok _
  · intro unitPrice
    apply noConflict_bind (noConflict_require id)
    intro _
    apply noConflict_bind (noConflict_nonPositive _)
    intro _
    apply noConflict_bind (noConflict_require id)
    intro _
    apply noConflict_bind (noConflict_require id)
    exact fun _ => noConflict_ok _

theorem noConflict_readLines (rows : Option (List OrderLineRow)) :
    NoConflict (OrderLineRow.readLines rows) := by
  unfold OrderLineRow.readLines
  induction (rows.getD []).insertionSort fun a b => a.lineId ≤ b.lineId with
  | nil => exact noConflict_ok []
  | cons row rest ih =>
      rw [List.mapM_cons]
      apply noConflict_bind (noConflict_toLine row)
      intro line
      apply noConflict_bind ih
      exact fun _ => noConflict_ok _

theorem noConflict_toOrder (orderId : String) (header : OrderHeader)
    (lines : List OrderLine) : NoConflict (header.toOrder orderId lines) := by
  apply noConflict_bind (noConflict_require id)
  intro _
  apply noConflict_bind (noConflict_require id)
  intro _
  apply noConflict_bind (noConflict_require id)
  intro _
  apply noConflict_bind (noConflict_require id)
  exact fun _ => noConflict_ok _

theorem noConflict_found {resource : Option α} {message : String} :
    NoConflict (RepeatOrderService.found resource message) := by
  cases resource with
  | none => exact noConflict_error id
  | some value => exact noConflict_ok value

theorem noConflict_operation (request : RepeatRequest) :
    NoConflict request.operation := by
  cases request with
  | createPlan body =>
      apply noConflict_bind (noConflict_cadence _ _)
      intro cadence
      apply noConflict_bind (noConflict_context _)
      exact fun _ => noConflict_ok _
  | editContext planId body =>
      apply noConflict_bind (noConflict_context _)
      exact fun _ => noConflict_ok _
  | _ => exact noConflict_ok _

theorem avoids_getPlan (planId : String) :
    (RepeatOrders.get planId : Tx Instant _).Avoids Failure.isConflict := by
  apply avoids_bind (avoids_select _)
  intro row
  cases row with
  | none => trivial
  | some row =>
      apply avoids_bind (avoids_lift (noConflict_toPlan planId row))
      exact fun _ => trivial

theorem avoids_getOrder (orderId : String) :
    (Orders.get orderId : Tx Instant _).Avoids Failure.isConflict := by
  apply avoids_bind (avoids_select _)
  intro header
  cases header with
  | none => trivial
  | some header =>
      apply avoids_bind
      · apply avoids_bind (avoids_select _)
        exact fun rows => avoids_lift (noConflict_readLines rows)
      · intro lines
        apply avoids_bind (avoids_lift (noConflict_toOrder orderId header lines))
        exact fun _ => trivial

end Reading

namespace RepeatOrderService

section Replay

variable {uuid5 : String → String} {call : RepeatCall} {caller : Caller}
  {record : IdempotencyRecord} {env : Instant} {rows : Rows Row}

/-- A lookup that leaves only a replay to do once it has found a record. -/
def Replays (caller : Caller) (p : Tx Instant RepeatAnswer) : Prop :=
  ∃ rest : Option IdempotencyRecord → Tx Instant RepeatAnswer,
    p = existingRecord caller >>= rest ∧
    ∀ record, (rest (some record)).Avoids Failure.isConflict

theorem replays_existingPlan (fresh : Tx Instant RepeatOrderPlan) :
    Replays caller (do
      let plan ← (do
        match ← existingPlan caller with
        | some existing => return existing
        | none => fresh)
      return .plan plan) := by
  simp only [Replays, existingPlan, bind_assoc']
  refine ⟨_, rfl, fun record => ?_⟩
  simp only [bind_assoc', pure_bind']
  apply avoids_bind (avoids_getPlan _)
  intro plan
  apply avoids_bind (avoids_lift noConflict_found)
  exact fun _ => trivial

theorem replays_existingOrder (fresh : Tx Instant Order) :
    Replays caller (do
      let order ← (do
        match ← existingOrder caller with
        | some existing => return existing
        | none => fresh)
      return .order order) := by
  simp only [Replays, existingOrder, bind_assoc']
  refine ⟨_, rfl, fun record => ?_⟩
  simp only [bind_assoc', pure_bind']
  apply avoids_bind (avoids_getOrder _)
  intro order
  apply avoids_bind (avoids_lift noConflict_found)
  exact fun _ => trivial

/-- Every operation looks up its key first. -/
theorem replays_program (uuid5 : String → String) (call : RepeatCall) :
    Replays call.caller (call.program uuid5) := by
  unfold RepeatCall.program
  cases call.operation with
  | createPlan planId sourceOrderId cadence context => exact replays_existingPlan _
  | createNext planId => exact replays_existingOrder _
  | confirm planId orderId => exact replays_existingOrder _
  | mutate change planId =>
      simp only [RepeatCall.mutation_eq]
      exact replays_existingPlan _

theorem execute_existingRecord
    (hrecord : rows.get (Key.idempotencyKey caller.idempotencyKey) = some record) :
    (existingRecord caller).execute env rows [] =
      if record.requestHash = caller.requestHash then .ok (some record, [])
      else .error reusedKey := by
  simp only [existingRecord, Idempotency.get, execute_bind, execute_select,
    List.nil_append, hrecord]
  by_cases hhash : record.requestHash = caller.requestHash
  · rw [if_pos hhash, require, if_pos (beq_iff_eq.mpr hhash)]
    rfl
  · rw [if_neg hhash, require, if_neg (mt beq_iff_eq.mp hhash)]
    rfl

/-- Under a key with a record, a call is refused exactly when the hashes
differ. -/
theorem conflict_iff
    (hrecord : rows.get (Key.idempotencyKey call.caller.idempotencyKey) = some record) :
    (∃ message, (call.program uuid5).execute env rows [] =
      .error (.idempotencyConflict message)) ↔
      record.requestHash ≠ call.caller.requestHash := by
  obtain ⟨rest, hprogram, hrest⟩ := replays_program uuid5 call
  rw [hprogram, execute_bind, execute_existingRecord hrecord]
  split_ifs with hhash
  · simp only [hhash, ne_eq, not_true_eq_false, iff_false, not_exists]
    intro message hraised
    exact (hrest record).execute hraised trivial
  · simp only [ne_eq, hhash, not_false_eq_true, iff_true]
    exact ⟨_, rfl⟩

end Replay

section Recorded

variable {uuid5 : String → String} {base : Evolution Instant Row}
  {call : RepeatCall} {answer : RepeatAnswer} {own : Rows Row}
  {world : World Instant Row}

theorem Applied.recorded {touches : Key → Prop}
    (h : Applied uuid5 base call touches own world) :
    ∃ ref, Recorded call.caller (world.commit own) ref := by
  obtain ⟨record, hheld, hhash, _, _⟩ := h.reserved
  exact ⟨_, record, hheld, hhash, rfl⟩

/-- A call that returned has left a record of its request, or found one. -/
theorem Effect.recorded (h : Effect uuid5 base call answer own world) :
    ∃ ref, Recorded call.caller (world.commit own) ref := by
  cases h with
  | planReplayed hkind hreplayed =>
      obtain ⟨ref, hrecorded, _⟩ := hreplayed
      exact ⟨ref, hrecorded⟩
  | orderReplayed hkind hreplayed =>
      obtain ⟨ref, hrecorded, _⟩ := hreplayed
      exact ⟨ref, hrecorded⟩
  | planCreated hcall happlied => exact happlied.recorded
  | orderCreated hcall happlied => exact happlied.recorded
  | orderConfirmed hcall happlied => exact happlied.recorded
  | planMutated hcall happlied => exact happlied.recorded

end Recorded

end RepeatOrderService

namespace RequestBinding

open RepeatOrderService

/-- What a returned request has committed. -/
def HttpEffect (sha256 uuid5 : String → String) (call : RepeatHttpCall)
    (answer : RepeatAnswer) (own : Rows Row) (world : World Instant Row) : Prop :=
  ∃ operation, call.request.operation = .ok operation ∧
    Effect uuid5 evolution ⟨call.service, call.caller sha256, operation⟩ answer own
      world

/-- The rule of the routes, from the rule of the service. -/
def rule (sha256 uuid5 : String → String) :
    CallRule (RepeatHttpCall.program sha256 uuid5) (fun _ _ => True) evolution where
  inv _ := True
  admits _ := True
  effect := HttpEffect sha256 uuid5
  stable _ _ := trivial
  body_ok := by
    intro call world _ _
    rw [RepeatHttpCall.program, atCommit_bind, atCommit_lift]
    intro operation hoperation
    apply atCommit_mono ?_ (atCommit_program respects_evolution)
    exact fun answer own heffect => ⟨operation, hoperation, heffect⟩
  commit_ok := by
    rintro call answer own world _ ⟨operation, _, heffect⟩ _
    exact heffect.rel
  drift_ok _ := evolution.refl _

/-- The routes under any number of clients. -/
def flow (sha256 uuid5 : String → String) : Workflow Instant Row Failure
    (Session RepeatHttpCall Failure RepeatAnswer) Empty :=
  callFlow (RepeatHttpCall.program sha256 uuid5) Failure.infrastructure
    fun _ _ => True

/-- What a run of the routes records. -/
abbrev HttpEvent (ι : Type) :=
  Event ι Row Failure (Session RepeatHttpCall Failure RepeatAnswer) Empty

/-- The request a client has been answered. -/
def answered {ι : Type} : HttpEvent ι → Option (RepeatHttpCall × RepeatAnswer)
  | .committed _ _ (.returned call answer) _ => some (call, answer)
  | _ => none

section Runs

variable {ι : Type} [DecidableEq ι] {sha256 uuid5 : String → String}
  {calls : ι → RepeatHttpCall} {world : World Instant Row}
  {last : Sys ι Instant Row Failure (Session RepeatHttpCall Failure RepeatAnswer)}
  {events : List (HttpEvent ι)}

/-- In every run, the requests answered so far stay recorded. -/
theorem run_recorded
    (hrun : Run (flow sha256 uuid5) (Sys.ofCalls world calls) events last) :
    ∀ call answer, some (call, answer) ∈ events.map answered →
      ∃ ref, Recorded (call.caller sha256) last.world ref := by
  refine (rule sha256 uuid5).run_induction
    (fun world events => ∀ call answer, some (call, answer) ∈ events.map answered →
      ∃ ref, Recorded (call.caller sha256) world ref)
    (fun _ => trivial) trivial ?_ ?_ ?_ ?_ hrun
  · intro call answer hmem
    simp at hmem
  · rintro world events client call answer own _ _ ⟨operation, _, heffect⟩ hholds
      call' answer' hmem
    rw [List.map_append, List.mem_append] at hmem
    rcases hmem with hmem | hmem
    · obtain ⟨ref, record, hrecord, hhash, href⟩ := hholds call' answer' hmem
      exact ⟨ref, record, heffect.record_kept hrecord, hhash, href⟩
    · simp only [List.map_cons, answered, List.map_nil, List.mem_singleton,
        Option.some.injEq, Prod.mk.injEq] at hmem
      obtain ⟨rfl, rfl⟩ := hmem
      exact heffect.recorded
  · intro world events client before error hholds call answer hmem
    simp only [List.map_append, List.map_cons, answered, List.map_nil, List.mem_append,
      List.mem_singleton, reduceCtorEq, or_false] at hmem
    exact hholds call answer hmem
  · exact fun _ hholds => hholds

/-- Under a recorded key, a request is refused exactly when it is accepted and
its text is hashed differently. -/
theorem conflicts_iff {call : RepeatHttpCall} {record : IdempotencyRecord}
    (hrecord : world.rows.get (Key.idempotencyKey call.idempotencyKey) = some record) :
    call.Conflicts sha256 uuid5 world ↔ call.request.Accepted ∧
      record.requestHash ≠ sha256 call.request.hashed := by
  rw [RepeatHttpCall.Conflicts, RepeatHttpCall.program, execute_bind,
    ← RepeatRequest.operation_isOk]
  cases hoperation : call.request.operation with
  | error error =>
      simp only [execute_lift_error, Except.error.injEq, reduceCtorEq, exists_false,
        false_and, iff_false]
      rw [← Failure.isConflict_iff]
      exact noConflict_operation _ _ hoperation
  | ok operation =>
      simp only [execute_lift_ok, Except.ok.injEq, exists_eq', true_and]
      apply conflict_iff
      exact hrecord

/-- Along every run: once a request has been answered, a second one under its
key is refused as a conflict whenever it differs, exactly if it is accepted and
not confused with the first; and two requests that were both answered, in
whatever interleaving, are the same or confused. -/
theorem bound_iff_not_confused (hsha256 : Function.Injective sha256)
    (hrun : Run (flow sha256 uuid5) (Sys.ofCalls world calls) events last)
    {first second : RepeatHttpCall} {answer : RepeatAnswer}
    (hfirst : some (first, answer) ∈ events.map answered)
    (hkey : second.idempotencyKey = first.idempotencyKey) :
    ((first.request ≠ second.request → second.Conflicts sha256 uuid5 last.world) ↔
      first.request = second.request ∨ (second.request.Accepted ∧
        ¬ first.request.Confused second.request)) ∧
    ∀ answer', some (second, answer') ∈ events.map answered →
      first.request = second.request ∨ first.request.Confused second.request := by
  obtain ⟨_, record, hrecord, hhash, _⟩ := run_recorded hrun first answer hfirst
  have hsecond : last.world.rows.get (Key.idempotencyKey second.idempotencyKey) =
      some record := by
    rw [hkey]
    exact hrecord
  have hhashed : record.requestHash = sha256 second.request.hashed ↔
      first.request = second.request ∨ first.request.Confused second.request := by
    rw [hhash, ← RepeatRequest.hashed_eq_iff]
    exact hsha256.eq_iff
  constructor
  · have hdiffers : record.requestHash ≠ sha256 second.request.hashed ↔
        ¬ (first.request = second.request ∨ first.request.Confused second.request) :=
      not_congr hhashed
    rw [conflicts_iff hsecond, hdiffers]
    tauto
  · intro answer' hanswered
    obtain ⟨_, record', hrecord', hhash', _⟩ :=
      run_recorded hrun second answer' hanswered
    obtain rfl := Option.some.inj (hsecond.symm.trans hrecord')
    exact hhashed.mp hhash'

end Runs

section Sample

def sampleBody (serviceScope : String) : RepeatContextRequest :=
  ⟨⟨sampleContext.scheduledFor.date, 0, some 0, by decide, by decide, by decide⟩,
    serviceScope, ⟨1, 0, Nat.one_pos⟩⟩

def sampleCreate : RepeatRequest :=
  .createPlan ⟨"plan", "source", ⟨.day, 1, Nat.one_pos⟩, sampleBody "scope"⟩

/-- An edit of a plan, with a body that names the plan `plan`. -/
def sampleEdit (planId : PathId) : RepeatRequest :=
  .editContext planId ⟨"plan", sampleBody "wider scope"⟩

def sampleHttpCall (key : String) (request : RepeatRequest) : RepeatHttpCall :=
  ⟨sampleService "", ⟨"operator", 2⟩, key, none, request⟩

/-- The operator creates a plan and edits it, and sends the body of the edit
once more to the path of another plan, under the key of the edit. -/
def sampleEdits : ℕ → RepeatHttpCall
  | 0 => sampleHttpCall "create-0001" sampleCreate
  | 1 => sampleHttpCall "edit-0001" (sampleEdit ⟨"plan", by decide⟩)
  | _ => sampleHttpCall "edit-0001" (sampleEdit ⟨"other", by decide⟩)

/-- The plan after the edit. -/
def sampleEdited : RepeatOrderPlan :=
  ⟨"plan", "source", "identity", ⟨.day, 1, Nat.one_pos⟩,
    { sampleContext with serviceScope := "wider scope" }, some "operator", .active,
    none, none, 0, 2⟩

/-- What a call was, and what it was answered. -/
def summary {ι : Type} (event : HttpEvent ι) :
    Option (RepeatRequest × String × RepeatAnswer) :=
  (answered event).map fun result =>
    (result.1.request, result.1.idempotencyKey, result.2)

theorem answered_of_summary {ι : Type} {events : List (HttpEvent ι)}
    {request : RepeatRequest} {key : String} {answer : RepeatAnswer}
    (h : some (request, key, answer) ∈ events.map summary) :
    ∃ call, some (call, answer) ∈ events.map answered ∧ call.request = request ∧
      call.idempotencyKey = key := by
  obtain ⟨event, hevent, heq⟩ := List.mem_map.mp h
  obtain ⟨⟨call, answer'⟩, hanswered, hparts⟩ := Option.map_eq_some_iff.mp heq
  obtain ⟨rfl, rfl, rfl⟩ : call.request = request ∧ call.idempotencyKey = key ∧
      answer' = answer := by simpa using hparts
  exact ⟨call, List.mem_map.mpr ⟨event, hevent, hanswered⟩, rfl, rfl⟩

theorem sampleEdits_run : ∃ events last,
    Run (flow id id) (Sys.ofCalls sampleWorld sampleEdits) events last ∧
      (events.map summary).tail =
        [some (sampleEdit ⟨"plan", by decide⟩, "edit-0001", .plan sampleEdited),
          some (sampleEdit ⟨"other", by decide⟩, "edit-0001", .plan sampleEdited)] :=
  run_of_serially (fun result => (result.1.map summary).tail)
    (show (serially (RepeatHttpCall.program id id) sampleEdits sampleWorld 3).map
      (fun result => (result.1.map summary).tail) = .ok
        [some (sampleEdit ⟨"plan", by decide⟩, "edit-0001", .plan sampleEdited),
          some (sampleEdit ⟨"other", by decide⟩, "edit-0001", .plan sampleEdited)] by
      decide +kernel)

/-- Both edits have been answered, with the same plan. -/
theorem sampleEdits_answered : ∃ events last first second answer,
    Run (flow id id) (Sys.ofCalls sampleWorld sampleEdits) events last ∧
      some (first, answer) ∈ events.map answered ∧
      some (second, answer) ∈ events.map answered ∧
      first.request = sampleEdit ⟨"plan", by decide⟩ ∧
      second.request = sampleEdit ⟨"other", by decide⟩ ∧
      second.idempotencyKey = first.idempotencyKey := by
  obtain ⟨events, last, hrun, hsummary⟩ := sampleEdits_run
  have hmem : ∀ item ∈ (events.map summary).tail, item ∈ events.map summary :=
    fun item hitem => List.mem_of_mem_tail hitem
  rw [hsummary] at hmem
  obtain ⟨first, hfirst, hrequest, hkey⟩ :=
    answered_of_summary (hmem _ List.mem_cons_self)
  obtain ⟨second, hsecond, hrequest', hkey'⟩ :=
    answered_of_summary (hmem _ (List.mem_cons_of_mem _ List.mem_cons_self))
  exact ⟨events, last, first, second, _, hrun, hfirst, hsecond, hrequest, hrequest',
    hkey'.trans hkey.symm⟩

/-- An edit of one plan is answered with the edit of another. -/
theorem other_plan_answered : ¬ ∀ (sha256 uuid5 : String → String)
    (world : World Instant Row) (calls : ℕ → RepeatHttpCall)
    (events : List (HttpEvent ℕ))
    (last : Sys ℕ Instant Row Failure (Session RepeatHttpCall Failure RepeatAnswer)),
    Function.Injective sha256 →
    Run (flow sha256 uuid5) (Sys.ofCalls world calls) events last →
    ∀ first second answer, some (first, answer) ∈ events.map answered →
      second.idempotencyKey = first.idempotencyKey →
      first.request ≠ second.request →
      second.Conflicts sha256 uuid5 last.world ∧
        some (second, answer) ∉ events.map answered := by
  intro hclaim
  obtain ⟨events, last, first, second, answer, hrun, hfirst, hsecond, hrequest,
    hrequest', hkey⟩ := sampleEdits_answered
  have hne : first.request ≠ second.request := by
    rw [hrequest, hrequest']
    decide
  exact (hclaim id id _ _ events last Function.injective_id hrun first second answer
    hfirst hkey hne).2 hsecond

theorem bound_iff_not_confused_edit : ∃ (first second : RepeatHttpCall)
    (world : World Instant Row),
    ¬ (first.request ≠ second.request → second.Conflicts id id world) ∧
    ((first.request ≠ second.request → second.Conflicts id id world) ↔
      first.request = second.request ∨ (second.request.Accepted ∧
        ¬ first.request.Confused second.request)) := by
  obtain ⟨events, last, first, second, answer, hrun, hfirst, _, hrequest, hrequest',
    hkey⟩ := sampleEdits_answered
  have hiff := (bound_iff_not_confused Function.injective_id hrun hfirst hkey).1
  refine ⟨first, second, last.world, ?_, hiff⟩
  rw [hiff, hrequest, hrequest']
  rintro (hsame | ⟨_, hnot⟩)
  · simp [sampleEdit] at hsame
  · exact hnot ⟨by decide, rfl⟩

end Sample

end RequestBinding

end ShemaPlatform
