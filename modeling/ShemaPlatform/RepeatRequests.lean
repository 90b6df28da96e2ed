/-
The HTTP requests of the repeat-order routes: their bodies, the operation each
one asks for, and the text whose hash stands for the request.
-/
import ShemaPlatform.JsonText
import ShemaPlatform.PyValueText
import ShemaPlatform.RepeatOrderService

namespace ShemaPlatform

open JsonText PyText

/-- A path segment. -/
structure PathId where
  text : String
  text_valid : text ≠ "" ∧ '/' ∉ text.toList
deriving DecidableEq

structure RepeatCadenceRequest where
  unit : RepeatCadenceUnit
  interval : ℕ
  interval_valid : interval ≥ 1
deriving DecidableEq

structure RepeatContextRequest where
  scheduledFor : Timestamp
  serviceScope : String
  capacityUnits : PositiveDecimal
deriving DecidableEq

structure RepeatPlanCreateRequest where
  planId : String
  sourceOrderId : String
  cadence : RepeatCadenceRequest
  context : RepeatContextRequest
deriving DecidableEq

structure RepeatPlanConfirmRequest where
  planId : String
  orderId : String
deriving DecidableEq

structure RepeatPlanEditRequest where
  planId : String
  context : RepeatContextRequest
deriving DecidableEq

section Dumps

/-! `model_dump(by_alias=True)`, with times and decimals under `default=str`. -/

def RepeatCadenceRequest.modelDump (cadence : RepeatCadenceRequest) : Json :=
  .dict [("unit", .text cadence.unit.value), ("interval", .number cadence.interval)]

def RepeatContextRequest.modelDump (context : RepeatContextRequest) : Json :=
  .dict [("scheduledFor", .text (String.ofList context.scheduledFor.chars)),
    ("serviceScope", .text context.serviceScope),
    ("capacityUnits", .text (String.ofList context.capacityUnits.chars))]

def RepeatPlanCreateRequest.modelDump (body : RepeatPlanCreateRequest) : Json :=
  .dict [("planId", .text body.planId), ("sourceOrderId", .text body.sourceOrderId),
    ("cadence", body.cadence.modelDump), ("context", body.context.modelDump)]

def RepeatPlanConfirmRequest.modelDump (body : RepeatPlanConfirmRequest) : Json :=
  .dict [("planId", .text body.planId), ("orderId", .text body.orderId)]

def RepeatPlanEditRequest.modelDump (body : RepeatPlanEditRequest) : Json :=
  .dict [("planId", .text body.planId), ("context", body.context.modelDump)]

@[simp] theorem RepeatPlanCreateRequest.keys_modelDump
    (body : RepeatPlanCreateRequest) :
    body.modelDump.keys = ["cadence", "context", "planId", "sourceOrderId"] := by
  simp [modelDump, Json.dict, Fields.sorted, Json.keys, Fields.keys]

@[simp] theorem RepeatPlanConfirmRequest.keys_modelDump
    (body : RepeatPlanConfirmRequest) :
    body.modelDump.keys = ["orderId", "planId"] := by
  simp [modelDump, Json.dict, Fields.sorted, Json.keys, Fields.keys]

@[simp] theorem RepeatPlanEditRequest.keys_modelDump (body : RepeatPlanEditRequest) :
    body.modelDump.keys = ["context", "planId"] := by
  simp [modelDump, Json.dict, Fields.sorted, Json.keys, Fields.keys]

theorem RepeatCadenceUnit.value_injective :
    Function.Injective RepeatCadenceUnit.value := by
  intro a b h
  cases a <;> cases b <;> simp [value] at h ⊢

theorem RepeatCadenceRequest.modelDump_injective :
    Function.Injective RepeatCadenceRequest.modelDump := by
  rintro ⟨unit, interval, hinterval⟩ ⟨unit', interval', hinterval'⟩ h
  simp only [modelDump, Json.dict] at h
  have hfields : interval = interval' ∧ unit.value = unit'.value := by
    simpa [Fields.sorted] using h
  rw [mk.injEq]
  exact ⟨RepeatCadenceUnit.value_injective hfields.2, hfields.1⟩

theorem RepeatContextRequest.modelDump_injective :
    Function.Injective RepeatContextRequest.modelDump := by
  rintro ⟨time, scope, capacity⟩ ⟨time', scope', capacity'⟩ h
  simp only [modelDump, Json.dict] at h
  have hfields : capacity.chars = capacity'.chars ∧ time.chars = time'.chars ∧
      scope = scope' := by
    simpa [Fields.sorted, String.ofList_inj] using h
  rw [mk.injEq]
  exact ⟨Timestamp.chars_injective hfields.2.1, hfields.2.2,
    PositiveDecimal.chars_injective hfields.1⟩

theorem RepeatPlanCreateRequest.modelDump_injective :
    Function.Injective RepeatPlanCreateRequest.modelDump := by
  rintro ⟨planId, source, cadence, context⟩ ⟨planId', source', cadence', context'⟩ h
  simp only [modelDump, Json.dict] at h
  have hfields : cadence.modelDump = cadence'.modelDump ∧
      context.modelDump = context'.modelDump ∧ planId = planId' ∧
      source = source' := by
    simpa [Fields.sorted] using h
  rw [mk.injEq]
  exact ⟨hfields.2.2.1, hfields.2.2.2,
    RepeatCadenceRequest.modelDump_injective hfields.1,
    RepeatContextRequest.modelDump_injective hfields.2.1⟩

theorem RepeatPlanConfirmRequest.modelDump_injective :
    Function.Injective RepeatPlanConfirmRequest.modelDump := by
  rintro ⟨planId, orderId⟩ ⟨planId', orderId'⟩ h
  simp only [modelDump, Json.dict] at h
  have hfields : orderId = orderId' ∧ planId = planId' := by
    simpa [Fields.sorted] using h
  rw [mk.injEq]
  exact ⟨hfields.2, hfields.1⟩

theorem RepeatPlanEditRequest.modelDump_injective :
    Function.Injective RepeatPlanEditRequest.modelDump := by
  rintro ⟨planId, context⟩ ⟨planId', context'⟩ h
  simp only [modelDump, Json.dict] at h
  have hfields : context.modelDump = context'.modelDump ∧ planId = planId' := by
    simpa [Fields.sorted] using h
  rw [mk.injEq]
  exact ⟨hfields.2, RepeatContextRequest.modelDump_injective hfields.1⟩

end Dumps

/-- The routes that share `_repeat_mutation`. -/
inductive PlanCommand where
  | pause | resume | skip | cancel
deriving DecidableEq

/-- The `operation` a route passes on. -/
def PlanCommand.operation : PlanCommand → String
  | .pause => "pause"
  | .resume => "resume"
  | .skip => "skip"
  | .cancel => "cancel"

/-- The method behind an `operation`. -/
def PlanCommand.mutation : PlanCommand → PlanMutation
  | .pause => .pause
  | .resume => .resume
  | .skip => .skipOnce
  | .cancel => .cancel

theorem PlanCommand.operation_injective :
    Function.Injective PlanCommand.operation := by
  intro a b h
  cases a <;> cases b <;> simp [operation] at h ⊢

/-- A request of one of the repeat-order routes. -/
inductive RepeatRequest where
  | createPlan (body : RepeatPlanCreateRequest)
  | createNext (planId : PathId)
  | confirm (planId : PathId) (body : RepeatPlanConfirmRequest)
  | mutate (planId : PathId) (command : PlanCommand)
  | editContext (planId : PathId) (body : RepeatPlanEditRequest)
deriving DecidableEq

namespace RepeatRequest

/-- What `_repeat_mutation` hashes. -/
def mutationDump (planId : PathId) (command : PlanCommand) : Json :=
  .dict [("planId", .text planId.text), ("operation", .text command.operation)]

/-- The text a route hashes.  The routes of a confirmation and of an edit hash
the body alone, without the plan of their path. -/
def hashed : RepeatRequest → String
  | .createPlan body => body.modelDump.dumps
  | .createNext planId => planId.text
  | .confirm _ body => body.modelDump.dumps
  | .mutate planId command => (mutationDump planId command).dumps
  | .editContext _ body => body.modelDump.dumps

/-- Different requests that are hashed as the same text: one body sent to the
paths of two plans, or a path segment that spells out another request. -/
def Confused : RepeatRequest → RepeatRequest → Prop
  | .confirm planId body, .confirm planId' body' => planId ≠ planId' ∧ body = body'
  | .editContext planId body, .editContext planId' body' =>
      planId ≠ planId' ∧ body = body'
  | .createNext _, .createNext _ => False
  | .createNext planId, other => planId.text = other.hashed
  | other, .createNext planId => other.hashed = planId.text
  | _, _ => False

@[simp] theorem keys_mutationDump (planId : PathId) (command : PlanCommand) :
    (mutationDump planId command).keys = ["operation", "planId"] := by
  simp [mutationDump, Json.dict, Fields.sorted, Json.keys, Fields.keys]

theorem mutationDump_inj {planId planId' : PathId} {command command' : PlanCommand}
    (h : mutationDump planId command = mutationDump planId' command') :
    planId = planId' ∧ command = command' := by
  simp only [mutationDump, Json.dict] at h
  have hfields : command.operation = command'.operation ∧
      planId.text = planId'.text := by
    simpa [Fields.sorted] using h
  cases planId
  cases planId'
  simp only [PathId.mk.injEq]
  exact ⟨hfields.2, PlanCommand.operation_injective hfields.1⟩

theorem eq_or_confused_of_hashed {first second : RepeatRequest}
    (h : first.hashed = second.hashed) :
    first = second ∨ first.Confused second := by
  cases first with
  | createPlan body =>
      cases second with
      | createPlan body' =>
          exact Or.inl (congrArg _ (RepeatPlanCreateRequest.modelDump_injective
            (Json.dumps_injective h)))
      | createNext planId' => exact Or.inr h
      | _ => exact absurd h (Json.dumps_ne (by simp))
  | createNext planId =>
      cases second with
      | createNext planId' =>
          cases planId
          cases planId'
          exact Or.inl (by simpa [hashed] using h)
      | _ => exact Or.inr h
  | confirm planId body =>
      cases second with
      | confirm planId' body' =>
          obtain rfl := RepeatPlanConfirmRequest.modelDump_injective
            (Json.dumps_injective h)
          by_cases hplan : planId = planId'
          · exact Or.inl (by rw [hplan])
          · exact Or.inr ⟨hplan, rfl⟩
      | createNext planId' => exact Or.inr h
      | _ => exact absurd h (Json.dumps_ne (by simp))
  | mutate planId command =>
      cases second with
      | mutate planId' command' =>
          obtain ⟨rfl, rfl⟩ := mutationDump_inj (Json.dumps_injective h)
          exact Or.inl rfl
      | createNext planId' => exact Or.inr h
      | _ => exact absurd h (Json.dumps_ne (by simp))
  | editContext planId body =>
      cases second with
      | editContext planId' body' =>
          obtain rfl := RepeatPlanEditRequest.modelDump_injective
            (Json.dumps_injective h)
          by_cases hplan : planId = planId'
          · exact Or.inl (by rw [hplan])
          · exact Or.inr ⟨hplan, rfl⟩
      | createNext planId' => exact Or.inr h
      | _ => exact absurd h (Json.dumps_ne (by simp))

theorem hashed_of_confused {first second : RepeatRequest}
    (h : first.Confused second) : first.hashed = second.hashed := by
  unfold Confused at h
  split at h
  · exact congrArg (fun body => (RepeatPlanConfirmRequest.modelDump body).dumps) h.2
  · exact congrArg (fun body => (RepeatPlanEditRequest.modelDump body).dumps) h.2
  · exact h.elim
  · exact h
  · exact h
  · exact h.elim

/-- The hashed texts bind everything but what is confused. -/
theorem hashed_eq_iff {first second : RepeatRequest} :
    first.hashed = second.hashed ↔ first = second ∨ first.Confused second := by
  constructor
  · exact eq_or_confused_of_hashed
  · rintro (rfl | hconfused)
    · rfl
    · exact hashed_of_confused hconfused

end RepeatRequest

section Operations

def RepeatCadenceRequest.toCadence (cadence : RepeatCadenceRequest) :
    Except Failure RepeatCadence :=
  RepeatCadence.new cadence.unit cadence.interval

def RepeatContextRequest.toContext (context : RepeatContextRequest) :
    Except Failure RepeatOrderContext :=
  RepeatOrderContext.new ⟨context.scheduledFor.toDateTime, context.serviceScope,
    .finite context.capacityUnits.value⟩

/-- What the constructor of a context asks of a body. -/
def RepeatContextRequest.Valid (context : RepeatContextRequest) : Prop :=
  context.scheduledFor.offset.isSome = true ∧ blank context.serviceScope = false

/-- The call a route makes, once its arguments have been built. -/
def RepeatRequest.operation : RepeatRequest → Except Failure RepeatOperation
  | .createPlan body => do
      let cadence ← body.cadence.toCadence
      let context ← body.context.toContext
      return .createPlan body.planId body.sourceOrderId cadence context
  | .createNext planId => return .createNext planId.text
  | .confirm planId body => return .confirm planId.text body.orderId
  | .mutate planId command => return .mutate command.mutation planId.text
  | .editContext planId body => do
      let context ← body.context.toContext
      return .mutate (.editContext context) planId.text

/-- Whether the arguments of the call can be built. -/
def RepeatRequest.Accepted : RepeatRequest → Prop
  | .createPlan body => body.context.Valid
  | .editContext _ body => body.context.Valid
  | _ => True

theorem RepeatCadenceRequest.toCadence_eq (cadence : RepeatCadenceRequest) :
    cadence.toCadence =
      .ok ⟨cadence.unit, cadence.interval, cadence.interval_valid⟩ :=
  dif_pos cadence.interval_valid

theorem RepeatContextRequest.toContext_eq_ok {context : RepeatContextRequest}
    {result : RepeatOrderContext} : context.toContext = .ok result ↔
      context.Valid ∧ ⟨context.scheduledFor.toDateTime, context.serviceScope,
        .finite context.capacityUnits.value⟩ = result := by
  have hpositive : ¬ context.capacityUnits.value ≤ 0 :=
    not_le.mpr context.capacityUnits.value_pos
  simp only [toContext, RepeatOrderContext.new, bind_eq_ok, require_eq_ok,
    pure_eq_ok, exists_const, Decimal.nonPositive, Timestamp.zoned_toDateTime, Valid]
  simp [hpositive, and_assoc]

/-- A request reaches the service exactly when it is accepted. -/
theorem RepeatRequest.operation_isOk {request : RepeatRequest} :
    (∃ operation, request.operation = .ok operation) ↔ request.Accepted := by
  cases request with
  | createPlan body =>
      simp only [operation, Accepted, bind_eq_ok, pure_eq_ok,
        RepeatCadenceRequest.toCadence_eq, RepeatContextRequest.toContext_eq_ok]
      simp
  | editContext planId body =>
      simp only [operation, Accepted, bind_eq_ok, pure_eq_ok,
        RepeatContextRequest.toContext_eq_ok]
      simp
  | _ => simp [operation, Accepted]

end Operations

end ShemaPlatform
