/-
What an application receives and what is sent for it: the bound holds whatever the
application does, and one response is started for a request exactly when the application
does not let the refusal out after it has started its own.
-/
import Mathlib.Logic.Function.Iterate
import ShemaPlatform.RequestBodyLimit

namespace ShemaPlatform

namespace RequestBodySizeLimitMiddleware

variable {S : Type} {app : App S} {scope : Scope} {messages : List RequestMessage}
  {middleware : RequestBodySizeLimitMiddleware} {connection : Connection S} {bound : ℕ}

/-- The bytes of the body in some messages. -/
def totalBytes (messages : List RequestMessage) : ℕ := (messages.map bodyBytes).sum

@[simp] theorem totalBytes_concat (messages : List RequestMessage) (message : RequestMessage) :
    totalBytes (messages ++ [message]) = totalBytes messages + bodyBytes message := by
  simp [totalBytes]

/-- What the middleware promises of a connection. -/
structure Sound (bound : ℕ) (messages : List RequestMessage) (correlationId : String)
    (connection : Connection S) : Prop where
  bounded : totalBytes connection.received ≤ bound
  original : connection.received.Sublist messages
  exact : connection.total ≤ bound → messages = connection.received ++ connection.inbox
  single : responseStarts (connection.downstream correlationId) ≤ 1

/-- How the bytes are counted. -/
structure Counted (bound : ℕ) (messages : List RequestMessage) (connection : Connection S) :
    Prop where
  split : ∃ past, messages = past ++ connection.inbox ∧ connection.total = totalBytes past ∧
    connection.received.Sublist past ∧ (connection.total ≤ bound → connection.received = past)
  bounded : totalBytes connection.received ≤ bound

theorem limitedReceive_some (bound total : ℕ) (message : RequestMessage) :
    limitedReceive (some bound) total message =
      (total + bodyBytes message, if message.type = some "http.request" ∧
        bound < total + bodyBytes message then .tooLarge else .message message) := by
  unfold limitedReceive
  by_cases htype : message.type = some "http.request"
  · by_cases hlarge : bound < total + bodyBytes message
    · simp [htype, hlarge]
    · simp [htype, hlarge]
  · simp [htype, bodyBytes]

theorem Counted.receive (h : Counted bound messages connection)
    (hlimit : middleware.limit scope = some bound) (next : Received → S) :
    Counted bound messages (middleware.receive scope connection next) := by
  unfold RequestBodySizeLimitMiddleware.receive
  split
  · exact h
  · rename_i message inbox hinbox
    rw [hlimit, limitedReceive_some]
    obtain ⟨past, hmessages, htotal, hsublist, hpast⟩ := h.split
    rw [hinbox] at hmessages
    by_cases hlarge : message.type = some "http.request" ∧
        bound < connection.total + bodyBytes message
    · simp only [hlarge, and_self, if_true]
      constructor
      · use past ++ [message]
        constructor
        · rw [hmessages, List.append_assoc]
          rfl
        · constructor
          · rw [totalBytes_concat, htotal]
          · constructor
            · exact hsublist.trans (List.sublist_append_left _ _)
            · intro hle
              exact absurd hlarge.2 (not_lt.mpr hle)
      · exact h.bounded
    · simp only [hlarge, if_false, reduceCtorEq]
      constructor
      · use past ++ [message]
        constructor
        · rw [hmessages, List.append_assoc]
          rfl
        · constructor
          · rw [totalBytes_concat, htotal]
          · constructor
            · exact hsublist.append (List.Sublist.refl _)
            · intro hle
              rw [hpast (Nat.le_of_add_right_le hle)]
      · rw [totalBytes_concat]
        by_cases htype : message.type = some "http.request"
        · -- the application has everything that was counted
          have hle : connection.total + bodyBytes message ≤ bound :=
            not_lt.mp fun hless => hlarge ⟨htype, hless⟩
          rw [hpast (Nat.le_of_add_right_le hle), ← htotal]
          exact hle
        · rw [bodyBytes, if_neg htype]
          exact h.bounded

theorem Counted.step (h : Counted bound messages connection)
    (hlimit : middleware.limit scope = some bound) :
    Counted bound messages (middleware.step app scope connection) := by
  unfold RequestBodySizeLimitMiddleware.step
  split
  · exact h
  · split
    · exact h.receive hlimit _
    · exact ⟨h.split, h.bounded⟩
    · exact ⟨h.split, h.bounded⟩
    · exact ⟨h.split, h.bounded⟩

theorem counted_begin : Counted bound messages (middleware.begin app scope messages) := by
  constructor
  · use []
    exact ⟨rfl, rfl, List.Sublist.refl _, fun _ => rfl⟩
  · exact Nat.zero_le _

theorem after_succ (middleware : RequestBodySizeLimitMiddleware) (app : App S) (scope : Scope)
    (messages : List RequestMessage) (steps : ℕ) :
    middleware.after app scope messages (steps + 1) =
      middleware.step app scope (middleware.after app scope messages steps) :=
  Function.iterate_succ_apply' _ _ _

theorem counted_after (hlimit : middleware.limit scope = some bound) (steps : ℕ) :
    Counted bound messages (middleware.after app scope messages steps) := by
  induction steps with
  | zero => exact counted_begin
  | succ steps ih =>
      rw [after_succ]
      exact ih.step hlimit

/-- An application that is about to let a refusal out has not started a response. -/
def Unstarted (app : App S) (connection : Connection S) : Prop :=
  ∀ state, connection.phase = .running state → app.act state = .raised true →
    responseStarts connection.sent = 0

theorem starts_downstream (connection : Connection S) (correlationId : String) :
    responseStarts (connection.downstream correlationId) =
      responseStarts connection.sent + if connection.refused then 1 else 0 := by
  unfold Connection.downstream responseStarts
  rw [List.countP_append]
  cases connection.refused with
  | true => rfl
  | false => rfl

/-- The middleware answers only once the application has ended, and then there is no other
start of a response. -/
structure Deferred (connection : Connection S) : Prop where
  ended : connection.refused = true → connection.phase = .ended
  unstarted : connection.refused = true → responseStarts connection.sent = 0

theorem deferred_begin : Deferred (middleware.begin app scope messages) := by
  constructor
  · intro hrefused
    have hbegin : (scope.type == some "http" && middleware.declaredTooLarge scope) = true :=
      hrefused
    simp only [begin, hbegin, if_true]
  · intro _
    rfl

theorem refused_receive (connection : Connection S) (next : Received → S) :
    (middleware.receive scope connection next).refused = connection.refused := by
  unfold receive
  split <;> rfl

theorem Deferred.step (h : Deferred connection) (hunstarted : Unstarted app connection) :
    Deferred (middleware.step app scope connection) := by
  unfold RequestBodySizeLimitMiddleware.step
  split
  · exact h
  · rename_i state hstate
    have hopen : ¬ connection.refused = true := by
      intro hrefused
      rw [h.ended hrefused] at hstate
      cases hstate
    split
    · constructor
      · intro hrefused
        rw [refused_receive] at hrefused
        exact absurd hrefused hopen
      · intro hrefused
        rw [refused_receive] at hrefused
        exact absurd hrefused hopen
    · exact ⟨fun hrefused => absurd hrefused hopen, fun hrefused => absurd hrefused hopen⟩
    · exact ⟨fun hrefused => absurd hrefused hopen, fun hrefused => absurd hrefused hopen⟩
    · rename_i tooLarge hraised
      constructor
      · intro _
        rfl
      · intro hrefused
        rw [Bool.and_eq_true] at hrefused
        rw [hrefused.1] at hraised
        exact hunstarted state hstate hraised

theorem deferred_after (hunstarted : ∀ steps,
      Unstarted app (middleware.after app scope messages steps)) (steps : ℕ) :
    Deferred (middleware.after app scope messages steps) := by
  induction steps with
  | zero => exact deferred_begin
  | succ steps ih =>
      rw [after_succ]
      exact ih.step (hunstarted steps)

/-- A refusal that is let out is answered. -/
theorem step_raised {state : S} (hhttp : scope.type = some "http")
    (hstate : connection.phase = .running state) (hraised : app.act state = .raised true) :
    middleware.step app scope connection = { connection with
      phase := .ended
      refused := true } := by
  simp only [step, hstate, hraised, hhttp, beq_self_eq_true, Bool.and_self]

/-- The body stays within its bound and reaches the application as it is; one response at
most is started exactly when no refusal is let out after the application has started one. -/
theorem body_limit_holds_iff (middleware : RequestBodySizeLimitMiddleware) (app : App S)
    (scope : Scope) (messages : List RequestMessage) (correlationId : String)
    (hhttp : scope.type = some "http")
    (hone : ∀ steps, responseStarts (middleware.after app scope messages steps).sent ≤ 1) :
    (∀ steps, Sound middleware.maxBodyBytes messages correlationId
        (middleware.after app scope messages steps)) ↔
      ∀ steps, Unstarted app (middleware.after app scope messages steps) := by
  have hlimit : middleware.limit scope = some middleware.maxBodyBytes := if_pos hhttp
  constructor
  · intro hsound steps state hstate hraised
    have hsingle := (hsound (steps + 1)).single
    rw [after_succ, step_raised hhttp hstate hraised, starts_downstream] at hsingle
    simp only [if_true] at hsingle
    exact Nat.eq_zero_of_le_zero (Nat.le_of_succ_le_succ hsingle)
  · intro hunstarted steps
    have hcounted : Counted middleware.maxBodyBytes messages
        (middleware.after app scope messages steps) := counted_after hlimit steps
    have hdeferred := deferred_after hunstarted steps
    obtain ⟨past, hmessages, _, hsublist, hpast⟩ := hcounted.split
    constructor
    · exact hcounted.bounded
    · have happend := List.sublist_append_left past
        (middleware.after app scope messages steps).inbox
      rw [← hmessages] at happend
      exact hsublist.trans happend
    · intro hle
      rw [hpast hle]
      exact hmessages
    · rw [starts_downstream]
      cases hrefused : (middleware.after app scope messages steps).refused with
      | true =>
          rw [hdeferred.unstarted hrefused]
          exact le_rfl
      | false => exact hone steps

/-- An application that starts its response before it reads the body. -/
inductive Eager where
  | opening | reading | failing | done

def eagerStart : ResponseMessage where
  type := some "http.response.start"
  status := some 200

def eagerAfter : Received → Eager
  | .message _ => .done
  | .tooLarge => .failing

def eagerAct : Eager → AppAction Eager
  | .opening => .send eagerStart .reading
  | .reading => .receive eagerAfter
  | .failing => .raised true
  | .done => .returned

def eagerApp : App Eager where
  call _ := .opening
  act := eagerAct

/-- An eager application has sent nothing, or its one start. -/
def EagerSent (connection : Connection Eager) : Prop :=
  connection.sent = [] ∨
    (connection.sent = [eagerStart] ∧ connection.phase ≠ .running .opening)

theorem eagerSent_step {connection : Connection Eager} (h : EagerSent connection) :
    EagerSent (middleware.step eagerApp scope connection) := by
  unfold step
  split
  · exact h
  · rename_i state hstate
    cases state with
    | opening =>
        right
        rcases h with hnone | ⟨_, hphase⟩
        · simp only [eagerApp, eagerAct, hnone]
          constructor
          · rfl
          · intro hopening
            cases hopening
        · exact absurd hstate hphase
    | reading =>
        have hreceive : EagerSent (middleware.receive scope connection eagerAfter) := by
          unfold receive
          split
          · exact h
          · rcases h with hnone | ⟨hsent, _⟩
            · exact Or.inl hnone
            · right
              constructor
              · exact hsent
              · intro hopening
                have hlater := AppPhase.running.inj hopening
                revert hlater
                cases (limitedReceive (middleware.limit scope) connection.total _).2 with
                | message message =>
                    intro hlater
                    cases hlater
                | tooLarge =>
                    intro hlater
                    cases hlater
        exact hreceive
    | failing =>
        rcases h with hnone | ⟨hsent, _⟩
        · exact Or.inl hnone
        · right
          constructor
          · exact hsent
          · intro hopening
            cases hopening
    | done =>
        rcases h with hnone | ⟨hsent, _⟩
        · exact Or.inl hnone
        · right
          constructor
          · exact hsent
          · intro hopening
            cases hopening

theorem eager_starts (middleware : RequestBodySizeLimitMiddleware) (scope : Scope)
    (messages : List RequestMessage) (steps : ℕ) :
    responseStarts (middleware.after eagerApp scope messages steps).sent ≤ 1 := by
  have hsent : EagerSent (middleware.after eagerApp scope messages steps) := by
    induction steps with
    | zero => exact Or.inl rfl
    | succ steps ih =>
        rw [after_succ]
        exact eagerSent_step ih
  rcases hsent with hnone | ⟨hone, _⟩
  · rw [hnone]
    exact Nat.zero_le _
  · rw [hone]
    exact le_rfl

theorem smallest_valid : 1024 ≤ 1024 := le_rfl

def smallestLimit : RequestBodySizeLimitMiddleware := ⟨1024, smallest_valid⟩

def plainScope : Scope := ⟨some "http", []⟩

/-- A message with so many bytes of the body. -/
def bodyPart (size : ℕ) : RequestMessage :=
  ⟨some "http.request", some (String.ofList (List.replicate size 'x')), false⟩

theorem bodyBytes_bodyPart (size : ℕ) : bodyBytes (bodyPart size) = size := by
  have hlength : (String.ofList (List.replicate size 'x')).length = size :=
    String.length_ofList.trans List.length_replicate
  exact hlength

theorem body_limit_holds_iff_eager :
    (∀ steps, Sound 1024 [bodyPart 1025] "id"
        (smallestLimit.after eagerApp plainScope [bodyPart 1025] steps)) ↔
      ∀ steps, Unstarted eagerApp
        (smallestLimit.after eagerApp plainScope [bodyPart 1025] steps) :=
  body_limit_holds_iff smallestLimit eagerApp plainScope [bodyPart 1025] "id" rfl
    (eager_starts smallestLimit plainScope [bodyPart 1025])

/-- A part of the body beyond the limit fails the eager application with its response
open. -/
theorem eager_failing {size : ℕ} (hsize : 1024 < size) :
    smallestLimit.after eagerApp plainScope [bodyPart size] 2 =
      ⟨.running .failing, size, [], [], [eagerStart], false⟩ := by
  have hlimit : smallestLimit.limit plainScope = some 1024 := rfl
  have hlarge : limitedReceive (some 1024) 0 (bodyPart size) = (size, .tooLarge) := by
    rw [limitedReceive_some, bodyBytes_bodyPart, Nat.zero_add, if_pos ⟨rfl, hsize⟩]
  have hreceive : smallestLimit.receive plainScope
      ⟨.running .reading, 0, [bodyPart size], [], [eagerStart], false⟩ eagerAfter =
        ⟨.running .failing, size, [], [], [eagerStart], false⟩ := by
    rw [receive]
    simp only [hlimit, hlarge, if_true, eagerAfter]
  exact hreceive

/-- It starts a response of its own, and the middleware starts another one. -/
theorem response_started_twice : ¬ ∀ (S : Type) (middleware : RequestBodySizeLimitMiddleware)
    (app : App S) (scope : Scope) (messages : List RequestMessage) (correlationId : String),
    scope.type = some "http" →
    (∀ steps, responseStarts (middleware.after app scope messages steps).sent ≤ 1) →
    ∀ steps, Sound middleware.maxBodyBytes messages correlationId
      (middleware.after app scope messages steps) := by
  intro hclaim
  have hsound := hclaim Eager smallestLimit eagerApp plainScope [bodyPart 1025] "id" rfl
    (eager_starts smallestLimit plainScope [bodyPart 1025]) 3
  have hsingle := hsound.single
  rw [after_succ, eager_failing (by decide), starts_downstream] at hsingle
  exact absurd hsingle (by decide)

end RequestBodySizeLimitMiddleware

end ShemaPlatform
