/-
Calls through the composition: an adapter that has recorded a failure is not
asked again, and where the recording of failures is known, so is the state
after any calls.
-/
import ShemaPlatform.CloudProviders
import ShemaPlatform.StateRun

namespace ShemaPlatform

open Effects StateRun

/-- What the adapter is asked, if the scope and the request are accepted. -/
def ScopedCall.request {M : Type} (call : ScopedCall M) : Option AIProviderRequest :=
  call.scope.bind fun scope =>
    (AIProviderRequest.new
      (ScopedAIProvider.requestFor scope call.task call.inputRefs)).toOption

/-- The outcome of a response that the adapter has returned. -/
def released (descriptor : AIProviderDescriptor) (request : AIProviderRequest) :
    Except Raised AIProviderResponse → Except Failure AIRun
  | .ok response =>
      match validateProviderResponse descriptor request response with
      | .ok () => .ok response.run
      | .error _ =>
          .error (ScopedAIProvider.compositionError ScopedAIProvider.transportFailure)
  | .error raised => .error (ScopedAIProvider.compositionError
      (raised.getD ScopedAIProvider.transportFailure))

namespace CloudAdapter

variable {S M : Type} (adapter : CloudAdapter S M) {state : S} {call : ScopedCall M}

theorem found_invoke (state : S) (met : M) (request : AIProviderRequest) :
    (adapter.found state met).invoke request = (adapter.invoke state met request).1 :=
  rfl

theorem ready_found {providerId : String}
    (hready : adapter.lastFailureCode state = none) (met : M) :
    (ScopedAIProvider.mk (adapter.found state met) providerId).ready =
      .ok adapter.descriptor := by
  simp only [ScopedAIProvider.ready, found, readiness, hready, bind, Except.bind,
    adapter.approved]
  rfl

theorem ready_found_blocked {code : String}
    (hblocked : adapter.lastFailureCode state = some code) (met : M)
    (providerId : String) :
    ∃ failure, (ScopedAIProvider.mk (adapter.found state met) providerId).ready =
      .error failure := by
  simp only [ScopedAIProvider.ready, found, readiness, hblocked, bind, Except.bind,
    adapter.approved]
  exact ⟨_, rfl⟩

/-- An adapter with a recorded failure is not asked. -/
theorem run_blocked {code : String} (hblocked : adapter.lastFailureCode state = some code)
    (call : ScopedCall M) : ∃ failure, adapter.run state call = (.error failure, state) := by
  obtain ⟨failure, hfailure⟩ := adapter.ready_found_blocked hblocked call.met
    adapter.descriptor.providerId
  cases hscope : call.scope with
  | none =>
      simp only [run, ScopedAIProvider.run, ScopedAIProvider.currentScope, bind,
        Effect.read, hscope, Effect.fail, Effect.lift, List.foldl_nil]
      exact ⟨_, rfl⟩
  | some scope =>
      simp only [run, ScopedAIProvider.run, ScopedAIProvider.currentScope, bind,
        Effect.read, hscope, Effect.lift, pure, hfailure, List.foldl_nil]
      exact ⟨_, rfl⟩

/-- A call that asks for nothing changes nothing. -/
theorem run_unasked (hready : adapter.lastFailureCode state = none)
    (hrequest : call.request = none) :
    ∃ failure, adapter.run state call = (.error failure, state) := by
  cases hscope : call.scope with
  | none =>
      simp only [run, ScopedAIProvider.run, ScopedAIProvider.currentScope, bind,
        Effect.read, hscope, Effect.fail, Effect.lift, List.foldl_nil]
      exact ⟨_, rfl⟩
  | some scope =>
      simp only [ScopedCall.request, hscope, Option.bind_some] at hrequest
      cases hnew : AIProviderRequest.new
          (ScopedAIProvider.requestFor scope call.task call.inputRefs) with
      | ok request => simp [hnew, Except.toOption] at hrequest
      | error failure =>
          simp only [run, ScopedAIProvider.run, ScopedAIProvider.currentScope, bind,
            Effect.read, hscope, Effect.lift, pure, adapter.ready_found hready, hnew,
            List.foldl_nil]
          exact ⟨_, rfl⟩

/-- Otherwise the adapter is asked once. -/
theorem run_asked {request : AIProviderRequest}
    (hready : adapter.lastFailureCode state = none)
    (hrequest : call.request = some request) :
    adapter.run state call =
      (released adapter.descriptor request (adapter.invoke state call.met request).1,
        (adapter.invoke state call.met request).2) := by
  cases hscope : call.scope with
  | none => simp [ScopedCall.request, hscope] at hrequest
  | some scope =>
      simp only [ScopedCall.request, hscope, Option.bind_some] at hrequest
      cases hnew : AIProviderRequest.new
          (ScopedAIProvider.requestFor scope call.task call.inputRefs) with
      | error failure => simp [hnew, Except.toOption] at hrequest
      | ok found =>
          rw [hnew] at hrequest
          obtain rfl := Option.some.inj hrequest
          simp only [run, ScopedAIProvider.run, ScopedAIProvider.currentScope, bind,
            Effect.read, hscope, Effect.lift, pure, adapter.ready_found hready, hnew,
            ScopedAIProvider.invoke, Effect.modify, found_invoke]
          cases hinvoke : (adapter.invoke state call.met found).1 with
          | error raised =>
              simp [released]
          | ok response =>
              cases hvalid : validateProviderResponse adapter.descriptor found response with
              | error failure => simp [released, hvalid]
              | ok _ => simp [released, hvalid]

theorem run_released {request : AIProviderRequest} {response : AIProviderResponse}
    (hready : adapter.lastFailureCode state = none) (hrequest : call.request = some request)
    (hresponse : (adapter.invoke state call.met request).1 = .ok response)
    (hvalid : validateProviderResponse adapter.descriptor request response = .ok ()) :
    (adapter.run state call).1 = .ok response.run := by
  rw [adapter.run_asked hready hrequest, hresponse]
  simp only [released, hvalid]

theorem after_cons (state : S) (call : ScopedCall M) (rest : List (ScopedCall M)) :
    adapter.after state (call :: rest) = adapter.after (adapter.run state call).2 rest :=
  rfl

/-- No call leads out of a recorded failure. -/
theorem after_blocked {code : String}
    (hblocked : adapter.lastFailureCode state = some code) (calls : List (ScopedCall M)) :
    adapter.after state calls = state := by
  induction calls with
  | nil => rfl
  | cons call rest ih =>
      obtain ⟨failure, hrun⟩ := adapter.run_blocked hblocked call
      rw [after_cons, hrun]
      exact ih

section Recording

-- the calls that record a failure, when they reach the adapter
variable {faulty : S → M → AIProviderRequest → Prop}

/-- A call in which nothing is recorded. -/
def Quiet (faulty : S → M → AIProviderRequest → Prop) (state : S) (call : ScopedCall M) :
    Prop :=
  ∀ request, call.request = some request → ¬ faulty state call.met request

variable (hfaulty : ∀ {state : S} (met : M) (request : AIProviderRequest),
  adapter.lastFailureCode state = none →
    (adapter.lastFailureCode (adapter.invoke state met request).2 = none ↔
      ¬ faulty state met request))

include hfaulty

theorem run_ready_iff (hready : adapter.lastFailureCode state = none) :
    adapter.lastFailureCode (adapter.run state call).2 = none ↔
      Quiet faulty state call := by
  cases hrequest : call.request with
  | none =>
      obtain ⟨failure, hrun⟩ := adapter.run_unasked hready hrequest
      rw [hrun]
      exact iff_of_true hready (by simp [Quiet, hrequest])
  | some request =>
      rw [adapter.run_asked hready hrequest, hfaulty call.met request hready]
      simp [Quiet, hrequest]

/-- The adapter is ready after a run exactly when no call of it has recorded a
failure. -/
theorem after_ready_iff (hready : adapter.lastFailureCode state = none)
    (calls : List (ScopedCall M)) :
    adapter.lastFailureCode (adapter.after state calls) = none ↔
      Along (fun state call => (adapter.run state call).2) (Quiet faulty) state calls := by
  induction calls generalizing state with
  | nil => exact iff_of_true hready trivial
  | cons call rest ih =>
      have hstep : adapter.lastFailureCode (adapter.run state call).2 = none ↔
          Quiet faulty state call := adapter.run_ready_iff hfaulty hready
      rw [after_cons]
      cases hnext : adapter.lastFailureCode (adapter.run state call).2 with
      | none =>
          rw [ih hnext]
          exact (and_iff_right (hstep.mp hnext)).symm
      | some code =>
          rw [adapter.after_blocked hnext, hnext]
          apply iff_of_false (by simp)
          rintro ⟨hquiet, _⟩
          rw [hstep.mpr hquiet] at hnext
          cases hnext

/-- A call that a ready adapter would answer is answered exactly when no call
before it has recorded a failure. -/
theorem answered_iff (hready : adapter.lastFailureCode state = none)
    (calls : List (ScopedCall M)) (call : ScopedCall M) {answers : AIRun → Prop}
    (hanswer : ∀ between : S, adapter.lastFailureCode between = none →
      ∃ run, (adapter.run between call).1 = .ok run ∧ answers run) :
    (∃ run, (adapter.run (adapter.after state calls) call).1 = .ok run ∧ answers run) ↔
      Along (fun state call => (adapter.run state call).2) (Quiet faulty) state calls := by
  rw [← adapter.after_ready_iff hfaulty hready calls]
  constructor
  · rintro ⟨run, hrun, _⟩
    cases hlast : adapter.lastFailureCode (adapter.after state calls) with
    | none => rfl
    | some code =>
        obtain ⟨failure, hblocked⟩ := adapter.run_blocked hlast call
        rw [hblocked] at hrun
        cases hrun
  · intro hlast
    exact hanswer _ hlast

end Recording

end CloudAdapter

end ShemaPlatform
