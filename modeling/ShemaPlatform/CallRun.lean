/-
Clients that each make one call, one call one transaction.  A rule for the
calls gives an induction over every interleaved run, and a run of calls made
one after another realises what the calls do alone.
-/
import ShemaPlatform.WorkflowRun

namespace ReadCommitted

/-- Where one call stands. -/
inductive Session (C ε R : Type) where
  | waiting (call : C)
  | returned (call : C) (answer : R)
  | raised (call : C) (error : ε)

variable {E K : Type} {V : K → Type} {ε C R ι : Type}

def Session.call : Session C ε R → C
  | .waiting call => call
  | .returned call _ => call
  | .raised call _ => call

/-- The transaction of one call. -/
def callBody (body : C → Prog E V ε R) (call : C) :
    Prog E V ε (Session C ε R) :=
  body call >>= fun answer => Pure.pure (.returned call answer)

/-- Each call runs its body in one transaction.  Between transactions the
environment drifts. -/
def callFlow (body : C → Prog E V ε R) (aborts : ε → Prop)
    (drift : E → E → Prop) : Workflow E V ε (Session C ε R) Empty where
  code
    | .waiting call => some (callBody body call)
    | _ => none
  recover session error := .raised session.call error
  outside _ _ _ _ _ := False
  aborts := aborts
  drift := drift

/-- The system before any call has started. -/
def Sys.ofCalls (world : World E V) (call : ι → C) :
    Sys ι E V ε (Session C ε R) :=
  Sys.start world fun client => .waiting (call client)

variable [DecidableEq K]

/-- What is known of the calls of a service: an invariant of the committed
world, the calls it admits, and the effect of each commit. -/
structure CallRule (body : C → Prog E V ε R) (drift : E → E → Prop)
    (evolution : Evolution E V) where
  inv : World E V → Prop
  admits : C → Prop
  effect : C → R → Rows V → World E V → Prop
  stable : ∀ {world world'}, evolution.rel world world' → inv world → inv world'
  body_ok : ∀ {call world}, admits call → inv world →
    (body call).atCommit evolution (effect call) [] world
  commit_ok : ∀ {call answer own world}, admits call →
    effect call answer own world → inv world →
      evolution.rel world (world.commit own)
  drift_ok : ∀ {env world}, drift world.env env →
    evolution.rel world ⟨env, world.rows⟩

namespace CallRule

variable {body : C → Prog E V ε R} {aborts : ε → Prop} {drift : E → E → Prop}
  {evolution : Evolution E V}

/-- A rule for the calls certifies the workflow of one-call clients. -/
def certificate (rule : CallRule body drift evolution) (aborts : ε → Prop) :
    Certificate (callFlow body aborts drift) evolution where
  knows session world := rule.inv world ∧ rule.admits session.call
  does before after own world := ∃ call answer, before = .waiting call ∧
    after = .returned call answer ∧ rule.effect call answer own world
  stable hrel hknows := ⟨rule.stable hrel hknows.1, hknows.2⟩
  code_ok {state p world} hcode hknows := by
    cases state with
    | waiting call =>
        obtain rfl := Option.some.inj hcode
        rw [callBody, Prog.atCommit_bind]
        exact Prog.atCommit_mono (fun answer own heffect =>
          ⟨call, answer, rfl, rfl, heffect⟩) (rule.body_ok hknows.2 hknows.1)
    | returned call answer => simp [callFlow] at hcode
    | raised call error => simp [callFlow] at hcode
  commit_ok := by
    rintro _ _ own world ⟨call, answer, rfl, rfl, heffect⟩ ⟨hinv, hadmits⟩
    have hrel := rule.commit_ok hadmits heffect hinv
    exact ⟨hrel, rule.stable hrel hinv, hadmits⟩
  recover_ok _ hknows := hknows
  outside_ok houtside := houtside.elim
  drift_ok := rule.drift_ok

variable [DecidableEq ι] {call : ι → C} {world : World E V}
  {last : Sys ι E V ε (Session C ε R)}
  {events : List (Event ι V ε (Session C ε R) Empty)}

/-- A property of the committed world and the record holds throughout every
run if each commit, and nothing else, has to be checked. -/
theorem run_induction (rule : CallRule body drift evolution)
    (holds : World E V → List (Event ι V ε (Session C ε R) Empty) → Prop)
    (hadmits : ∀ client, rule.admits (call client)) (hinv : rule.inv world)
    (hfirst : holds world [])
    (hcommit : ∀ {world events client call answer own}, rule.inv world →
      rule.admits call → rule.effect call answer own world →
      holds world events → holds (world.commit own) (events ++
        [.committed client (.waiting call) (.returned call answer) own]))
    (hrollback : ∀ {world events client before error}, holds world events →
      holds world (events ++ [.rolledBack client before error]))
    (hdrift : ∀ {world events env}, drift world.env env → holds world events →
      holds ⟨env, world.rows⟩ events)
    (hrun : Run (callFlow body aborts drift) (Sys.ofCalls world call) events
      last) :
    holds last.world events := by
  have hgood : (rule.certificate aborts).Good
      (Sys.ofCalls world call : Sys ι E V ε (Session C ε R)) :=
    Certificate.Good.start world _ fun client => ⟨hinv, hadmits client⟩
  refine (rule.certificate aborts).run_induction
    (fun world _ events => holds world events) hgood hfirst ?_ ?_ ?_ ?_ hrun
  · rintro world state events client _ own hknows ⟨call, answer, hbefore, rfl,
      heffect⟩ hholds
    have hclient := hknows client
    rw [hbefore] at hclient ⊢
    exact hcommit hclient.1 hclient.2 heffect hholds
  · intro world state events client error _ hholds
    exact hrollback hholds
  · intro world state events client action after env _ houtside _
    exact houtside.elim
  · exact fun hdrift' hholds => hdrift hdrift' hholds

/-- What a commit does in a world that a run has reached. -/
theorem commit_effect (rule : CallRule body drift evolution)
    (hadmits : ∀ client, rule.admits (call client)) (hinv : rule.inv world)
    (hrun : Run (callFlow body aborts drift) (Sys.ofCalls world call) events
      last) {sys' : Sys ι E V ε (Session C ε R)} {client : ι}
    {before after : Session C ε R} {own : Rows V}
    (hstep : Step (callFlow body aborts drift) last
      [.committed client before after own] sys') :
    ∃ call answer, before = .waiting call ∧ after = .returned call answer ∧
      rule.effect call answer own last.world ∧
      sys'.world = last.world.commit own := by
  have hgood : (rule.certificate aborts).Good
      (Sys.ofCalls world call : Sys ι E V ε (Session C ε R)) :=
    Certificate.Good.start world _ fun client => ⟨hinv, hadmits client⟩
  cases hstep with
  | commit _ _ _ _ _ hphase =>
      obtain ⟨call, answer, hbefore, hafter, heffect⟩ :=
        ((hgood.run hrun).commit hphase).1
      exact ⟨call, answer, hbefore, hafter, heffect, rfl⟩

end CallRule

section Serially

/-- The first `n` calls, one after the other, with what they record. -/
def serially (body : C → Prog E V ε R) (call : ℕ → C) (world : World E V) :
    ℕ → Except ε (List (Event ℕ V ε (Session C ε R) Empty) × Rows V)
  | 0 => .ok ([], world.rows)
  | n + 1 => do
      let (events, rows) ← serially body call world n
      let (answer, own) ← (body (call n)).execute world.env rows []
      return (events ++
        [.committed n (.waiting (call n)) (.returned (call n) answer) own],
        own ++ rows)

/-- Calls made one after the other are a run. -/
theorem run_serially {body : C → Prog E V ε R} {aborts : ε → Prop}
    {drift : E → E → Prop} {call : ℕ → C} {world : World E V} {n : ℕ}
    {events : List (Event ℕ V ε (Session C ε R) Empty)} {rows : Rows V}
    (hcalls : serially body call world n = .ok (events, rows)) :
    ∃ last, Run (callFlow body aborts drift) (Sys.ofCalls world call) events
        last ∧ last.world = ⟨world.env, rows⟩ ∧
      (∀ client, (last.phase client).held = []) ∧
      ∀ client, n ≤ client → last.phase client = .idle (.waiting (call client)) := by
  induction n generalizing events rows with
  | zero =>
      obtain ⟨rfl, rfl⟩ := Prod.mk.inj (Except.ok.inj hcalls)
      exact ⟨_, .start, rfl, fun _ => rfl, fun _ _ => rfl⟩
  | succ n ih =>
      cases hbefore : serially body call world n with
      | error error => simp [serially, hbefore, bind, Except.bind] at hcalls
      | ok result =>
          obtain ⟨before, middle⟩ := result
          cases hresult : (body (call n)).execute world.env middle [] with
          | error error =>
              simp [serially, hbefore, hresult, bind, Except.bind] at hcalls
          | ok outcome =>
              obtain ⟨answer, own⟩ := outcome
              simp only [serially, hbefore, hresult, bind, Except.bind, pure,
                Except.pure, Except.ok.injEq, Prod.mk.injEq] at hcalls
              obtain ⟨rfl, rfl⟩ := hcalls
              obtain ⟨last, hrun, hworld, hfree, hwaiting⟩ := ih hbefore
              have hcode : (callFlow body aborts drift).code
                  (.waiting (call n)) = some (callBody body (call n)) := rfl
              have hexecute : (callBody body (call n)).execute last.world.env
                  last.world.rows [] = .ok (.returned (call n) answer, own) := by
                rw [callBody, Prog.execute_bind, hworld, hresult]
                rfl
              have hlast := run_transaction (hwaiting n (Nat.le_refl n)) hcode
                hfree hexecute
              refine ⟨_, hrun.trans hlast, ?_, fun client => ?_,
                fun client hclient => ?_⟩
              · simp [hworld, World.commit]
              · by_cases heq : client = n
                · simp [heq]
                · simpa [heq] using hfree client
              · have hne : client ≠ n := by omega
                simpa [hne] using hwaiting client (by omega)

/-- A run of calls whose outcome has been computed. -/
theorem run_of_serially {α : Type} {body : C → Prog E V ε R} {aborts : ε → Prop}
    {drift : E → E → Prop} {call : ℕ → C} {world : World E V} {n : ℕ}
    (outcome : List (Event ℕ V ε (Session C ε R) Empty) × Rows V → α)
    {expected : α}
    (hcalls : (serially body call world n).map outcome = .ok expected) :
    ∃ events last, Run (callFlow body aborts drift) (Sys.ofCalls world call)
      events last ∧ outcome (events, last.world.rows) = expected := by
  cases hresult : serially body call world n with
  | error error => simp [hresult, Except.map] at hcalls
  | ok result =>
      obtain ⟨events, rows⟩ := result
      obtain ⟨last, hrun, hworld, _⟩ := run_serially hresult
      rw [hresult] at hcalls
      refine ⟨events, last, hrun, ?_⟩
      rw [hworld]
      exact Except.ok.inj hcalls

end Serially

end ReadCommitted
