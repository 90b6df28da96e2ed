/-
Runs in which one transaction at a time is opened, executed and ended.  They are among the
runs in which statements interleave.
-/
import ShemaPlatform.WorkflowRun

namespace ReadCommitted

variable {E K : Type} {V : K → Type} {ε σ α ι : Type} [DecidableEq K] [DecidableEq ι]

/-- Nobody else moves. -/
def alone (E : Type) {K : Type} (V : K → Type) : Evolution E V where
  rel world world' := world' = world
  refl _ := rfl
  trans hab hbc := hbc.trans hab

/-- What happens between one transaction and the next, with what it records. -/
inductive Turn (flow : Workflow E V ε σ α) :
    World E V → (ι → σ) → List (Event ι V ε σ α) → World E V → (ι → σ) → Prop where
  | commit (world : World E V) (states : ι → σ) (client : ι) {p : Prog E V ε σ} {after : σ}
      {own : Rows V} (hcode : flow.code (states client) = some p)
      (hresult : p.execute world.env world.rows [] = .ok (after, own)) :
      Turn flow world states [.committed client (states client) after own] (world.commit own)
        (Function.update states client after)
  | raised (world : World E V) (states : ι → σ) (client : ι) {p : Prog E V ε σ} {error : ε}
      (hcode : flow.code (states client) = some p)
      (hresult : p.execute world.env world.rows [] = .error error) :
      Turn flow world states [.rolledBack client (states client) error] world
        (Function.update states client (flow.recover (states client) error))
  | abort (world : World E V) (states : ι → σ) (client : ι) {p : Prog E V ε σ} (error : ε)
      (hcode : flow.code (states client) = some p) (haborts : flow.aborts error) :
      Turn flow world states [.rolledBack client (states client) error] world
        (Function.update states client (flow.recover (states client) error))
  | act (world : World E V) (states : ι → σ) (client : ι) {action : α} {after : σ} {env : E}
      (houtside : flow.outside (states client) world.env action after env) :
      Turn flow world states [.acted client (states client) action after] ⟨env, world.rows⟩
        (Function.update states client after)
  | drift (world : World E V) (states : ι → σ) {env : E} (hdrift : flow.drift world.env env) :
      Turn flow world states [] ⟨env, world.rows⟩ states

/-- One turn after the other. -/
inductive SerialRun (flow : Workflow E V ε σ α) (world : World E V) (states : ι → σ) :
    List (Event ι V ε σ α) → World E V → (ι → σ) → Prop where
  | start : SerialRun flow world states [] world states
  | turn {events recorded : List (Event ι V ε σ α)} {middle last : World E V}
      {states' states'' : ι → σ} (hrun : SerialRun flow world states events middle states')
      (hturn : Turn flow middle states' recorded last states'') :
      SerialRun flow world states (events ++ recorded) last states''

variable {flow : Workflow E V ε σ α} {world last : World E V} {states states' : ι → σ}
  {events recorded : List (Event ι V ε σ α)}

omit [DecidableEq K] in
theorem Sys.setPhase_self (sys : Sys ι E V ε σ) (client : ι) (phase : Phase E V ε σ) :
    (sys.setPhase client phase).phase client = phase :=
  Function.update_self _ _ _

/-- The statements of a transaction that raises, while nobody else moves. -/
theorem run_raises (sys : Sys ι E V ε σ) (client : ι) {state : σ} {error : ε}
    {p : Prog E V ε σ} {own : Rows V} {held : List K}
    (hphase : sys.phase client = .busy state p own held)
    (hfree : ∀ other, other ≠ client → (sys.phase other).held = [])
    (hresult : p.execute sys.world.env sys.world.rows own = .error error) :
    Run flow sys [.rolledBack client state error]
      (sys.setPhase client (.idle (flow.recover state error))) := by
  induction p generalizing sys own held with
  | pure result =>
      simp only [Prog.execute] at hresult
      cases hresult
  | raise raised =>
      obtain rfl := Except.error.inj hresult
      exact Run.single (.raised sys client state raised own held hphase)
  | query next ih =>
      have hstep : Step flow sys [] _ := .query sys client state next own held hphase
      have hrest := ih _ _ (sys.setPhase client (.busy state
        (next sys.world.env (own ++ sys.world.rows)) own held)) (Sys.setPhase_self _ _ _)
        (fun other hother => by simp [hother, hfree other hother]) hresult
      rw [Sys.setPhase_setPhase] at hrest
      exact (Run.single hstep).trans hrest
  | write key edit next ih =>
      simp only [Prog.execute] at hresult
      cases hedit : edit (Rows.get (own ++ sys.world.rows) key) with
      | none =>
          rw [hedit] at hresult
          have hstep : Step flow sys [] _ :=
            .pass sys client state key edit next own held hphase hedit
          have hrest := ih _ (sys.setPhase client (.busy state
            (next (Rows.get (own ++ sys.world.rows) key)) own held)) (Sys.setPhase_self _ _ _)
            (fun other hother => by simp [hother, hfree other hother]) hresult
          rw [Sys.setPhase_setPhase] at hrest
          exact (Run.single hstep).trans hrest
      | some row =>
          rw [hedit] at hresult
          have hstep : Step flow sys [] _ :=
            .store sys client state key edit next own held row hphase hedit
              fun other hother => by simp [hfree other hother]
          have hrest := ih _ (sys.setPhase client (.busy state
            (next (Rows.get (own ++ sys.world.rows) key)) (⟨key, row⟩ :: own) (key :: held)))
            (Sys.setPhase_self _ _ _)
            (fun other hother => by simp [hother, hfree other hother]) hresult
          rw [Sys.setPhase_setPhase] at hrest
          exact (Run.single hstep).trans hrest

theorem Turn.run (h : Turn flow world states recorded last states') :
    Run flow (Sys.start world states) recorded (Sys.start last states') := by
  have hopen : ∀ {client : ι} {p : Prog E V ε σ}, flow.code (states client) = some p →
      Run flow (Sys.start world states) []
        ((Sys.start world states).setPhase client (.busy (states client) p [] [])) :=
    fun hcode => Run.single (.open (Sys.start world states) _ _ _ rfl hcode)
  have hback : ∀ {client : ι} {p : Prog E V ε σ} {error : ε},
      ((Sys.start world states).setPhase client (.busy (states client) p [] [])).setPhase client
        (.idle (flow.recover (states client) error)) =
      Sys.start world (Function.update states client (flow.recover (states client) error)) := by
    intro client p error
    rw [Sys.setPhase_setPhase]
    exact Sys.start_update world states client _
  cases h with
  | commit client hcode hresult => exact run_transaction_start client hcode hresult
  | @raised client p error hcode hresult =>
      have hrest : Run flow ((Sys.start world states).setPhase client
          (.busy (states client) p [] [])) _ _ :=
        run_raises _ client (Sys.setPhase_self _ _ _)
          (fun other hother => by simp [Sys.start, hother]) hresult
      rw [hback] at hrest
      exact (hopen hcode).trans hrest
  | @abort client p error hcode haborts =>
      have hstep : Step flow ((Sys.start world states).setPhase client
          (.busy (states client) p [] [])) _ _ :=
        .abort _ client (states client) error p [] [] (Sys.setPhase_self _ _ _) haborts
      rw [hback] at hstep
      exact (hopen hcode).trans (Run.single hstep)
  | act client houtside =>
      rw [← Sys.start_update]
      exact Run.single (.act (Sys.start world states) client _ _ _ _ rfl houtside)
  | drift hdrift => exact Run.single (.drift (Sys.start world states) _ hdrift)

/-- What holds of every run in which statements interleave holds of a serial one. -/
theorem SerialRun.run (h : SerialRun flow world states events last states') :
    Run flow (Sys.start world states) events (Sys.start last states') := by
  induction h with
  | start => exact .start
  | turn hrun hturn ih => exact ih.trans hturn.run

end ReadCommitted
