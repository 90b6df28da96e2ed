/-
Any number of clients, each a chain of transactions and outside actions, run
against one database under read-committed isolation.  Transactions interleave
statement by statement, may be rolled back at any statement, and a client may
stop for good anywhere.
-/
import Mathlib.Logic.Function.Basic
import ShemaPlatform.Interference

namespace ReadCommitted

/-- A client as a state machine: from a local state it may open a transaction,
whose result is the next local state, or act outside the database. -/
structure Workflow (E : Type) {K : Type} (V : K → Type) (ε σ α : Type) where
  code : σ → Option (Prog E V ε σ)
  recover : σ → ε → σ
  outside : σ → E → α → σ → E → Prop
  aborts : ε → Prop
  drift : E → E → Prop

/-- Where one client stands. -/
inductive Phase (E : Type) {K : Type} (V : K → Type) (ε σ : Type) where
  | idle (state : σ)
  | busy (state : σ) (rest : Prog E V ε σ) (own : Rows V) (held : List K)
  | crashed (state : σ)

variable {E K : Type} {V : K → Type} {ε σ α ι : Type}

/-- The local state; during a transaction, the one it was opened from. -/
def Phase.state : Phase E V ε σ → σ
  | .idle state => state
  | .busy state _ _ _ => state
  | .crashed state => state

def Phase.held : Phase E V ε σ → List K
  | .idle _ => []
  | .busy _ _ _ held => held
  | .crashed _ => []

@[simp] theorem Phase.state_idle (state : σ) :
    (Phase.idle state : Phase E V ε σ).state = state := rfl

@[simp] theorem Phase.state_busy (state : σ) (rest : Prog E V ε σ)
    (own : Rows V) (held : List K) :
    (Phase.busy state rest own held).state = state := rfl

@[simp] theorem Phase.state_crashed (state : σ) :
    (Phase.crashed state : Phase E V ε σ).state = state := rfl

@[simp] theorem Phase.held_idle (state : σ) :
    (Phase.idle state : Phase E V ε σ).held = [] := rfl

@[simp] theorem Phase.held_busy (state : σ) (rest : Prog E V ε σ)
    (own : Rows V) (held : List K) :
    (Phase.busy state rest own held).held = held := rfl

@[simp] theorem Phase.held_crashed (state : σ) :
    (Phase.crashed state : Phase E V ε σ).held = [] := rfl

/-- The shared world and every client. -/
structure Sys (ι E : Type) {K : Type} (V : K → Type) (ε σ : Type) where
  world : World E V
  phase : ι → Phase E V ε σ

/-- What a run records: commits, rollbacks and outside actions. -/
inductive Event (ι : Type) {K : Type} (V : K → Type) (ε σ α : Type) where
  | committed (client : ι) (before after : σ) (own : Rows V)
  | rolledBack (client : ι) (before : σ) (error : ε)
  | acted (client : ι) (before : σ) (action : α) (after : σ)

def Sys.start (world : World E V) (state : ι → σ) : Sys ι E V ε σ :=
  ⟨world, fun client => .idle (state client)⟩

def Sys.states (sys : Sys ι E V ε σ) : ι → σ :=
  fun client => (sys.phase client).state

variable [DecidableEq K] [DecidableEq ι]

def Sys.setPhase (sys : Sys ι E V ε σ) (client : ι)
    (phase : Phase E V ε σ) : Sys ι E V ε σ :=
  ⟨sys.world, Function.update sys.phase client phase⟩

section SetPhase

omit [DecidableEq K]

@[simp] theorem Sys.setPhase_world (sys : Sys ι E V ε σ) (client : ι)
    (phase : Phase E V ε σ) : (sys.setPhase client phase).world = sys.world :=
  rfl

@[simp] theorem Sys.setPhase_phase (sys : Sys ι E V ε σ) (client : ι)
    (phase : Phase E V ε σ) : (sys.setPhase client phase).phase =
      Function.update sys.phase client phase := rfl

@[simp] theorem Sys.setPhase_setPhase (sys : Sys ι E V ε σ) (client : ι)
    (phase phase' : Phase E V ε σ) :
    (sys.setPhase client phase).setPhase client phase' =
      sys.setPhase client phase' := by
  simp [Sys.setPhase]

/-- A move inside a transaction leaves all local states alone. -/
theorem Sys.states_setPhase (sys : Sys ι E V ε σ) (client : ι)
    (phase : Phase E V ε σ) (hstate : phase.state = (sys.phase client).state) :
    (sys.setPhase client phase).states = sys.states := by
  funext other
  by_cases hother : other = client
  · subst hother
    simp [Sys.states, hstate]
  · simp [Sys.states, hother]

/-- The end of a transaction or an action changes one local state. -/
theorem Sys.states_update (world : World E V) (phase : ι → Phase E V ε σ)
    (client : ι) (state : σ) :
    Sys.states ⟨world, Function.update phase client (.idle state)⟩ =
      Function.update (fun other => (phase other).state) client state := by
  funext other
  by_cases hother : other = client
  · subst hother
    simp [Sys.states]
  · simp [Sys.states, hother]

end SetPhase

/-- One step of the whole system with what it records. -/
inductive Step (flow : Workflow E V ε σ α) :
    Sys ι E V ε σ → List (Event ι V ε σ α) → Sys ι E V ε σ → Prop where
  | open (sys : Sys ι E V ε σ) (client : ι) (state : σ) (p : Prog E V ε σ)
      (hphase : sys.phase client = .idle state)
      (hcode : flow.code state = some p) :
      Step flow sys [] (sys.setPhase client (.busy state p [] []))
  | query (sys : Sys ι E V ε σ) (client : ι) (state : σ)
      (next : E → Rows V → Prog E V ε σ) (own : Rows V) (held : List K)
      (hphase : sys.phase client = .busy state (.query next) own held) :
      Step flow sys [] (sys.setPhase client
        (.busy state (next sys.world.env (own ++ sys.world.rows)) own held))
  | pass (sys : Sys ι E V ε σ) (client : ι) (state : σ) (key : K)
      (edit : Option (V key) → Option (Option (V key)))
      (next : Option (V key) → Prog E V ε σ) (own : Rows V) (held : List K)
      (hphase : sys.phase client = .busy state (.write key edit next) own held)
      (hedit : edit (Rows.get (own ++ sys.world.rows) key) = none) :
      Step flow sys [] (sys.setPhase client
        (.busy state (next (Rows.get (own ++ sys.world.rows) key)) own held))
  | store (sys : Sys ι E V ε σ) (client : ι) (state : σ) (key : K)
      (edit : Option (V key) → Option (Option (V key)))
      (next : Option (V key) → Prog E V ε σ) (own : Rows V) (held : List K)
      (row : Option (V key))
      (hphase : sys.phase client = .busy state (.write key edit next) own held)
      (hedit : edit (Rows.get (own ++ sys.world.rows) key) = some row)
      (hfree : ∀ other, other ≠ client → key ∉ (sys.phase other).held) :
      Step flow sys [] (sys.setPhase client
        (.busy state (next (Rows.get (own ++ sys.world.rows) key))
          (⟨key, row⟩ :: own) (key :: held)))
  | commit (sys : Sys ι E V ε σ) (client : ι) (state after : σ)
      (own : Rows V) (held : List K)
      (hphase : sys.phase client = .busy state (.pure after) own held) :
      Step flow sys [.committed client state after own]
        ⟨sys.world.commit own,
          Function.update sys.phase client (.idle after)⟩
  | raised (sys : Sys ι E V ε σ) (client : ι) (state : σ) (error : ε)
      (own : Rows V) (held : List K)
      (hphase : sys.phase client = .busy state (.raise error) own held) :
      Step flow sys [.rolledBack client state error]
        (sys.setPhase client (.idle (flow.recover state error)))
  | abort (sys : Sys ι E V ε σ) (client : ι) (state : σ) (error : ε)
      (rest : Prog E V ε σ) (own : Rows V) (held : List K)
      (hphase : sys.phase client = .busy state rest own held)
      (haborts : flow.aborts error) :
      Step flow sys [.rolledBack client state error]
        (sys.setPhase client (.idle (flow.recover state error)))
  | crash (sys : Sys ι E V ε σ) (client : ι) :
      Step flow sys []
        (sys.setPhase client (.crashed (sys.phase client).state))
  | act (sys : Sys ι E V ε σ) (client : ι) (state after : σ) (action : α)
      (env : E) (hphase : sys.phase client = .idle state)
      (houtside : flow.outside state sys.world.env action after env) :
      Step flow sys [.acted client state action after]
        ⟨⟨env, sys.world.rows⟩,
          Function.update sys.phase client (.idle after)⟩
  | drift (sys : Sys ι E V ε σ) (env : E)
      (hdrift : flow.drift sys.world.env env) :
      Step flow sys [] ⟨⟨env, sys.world.rows⟩, sys.phase⟩

/-- A finite run with everything it records, oldest first. -/
inductive Run (flow : Workflow E V ε σ α) (first : Sys ι E V ε σ) :
    List (Event ι V ε σ α) → Sys ι E V ε σ → Prop where
  | start : Run flow first [] first
  | step {events recorded : List (Event ι V ε σ α)} {sys sys' : Sys ι E V ε σ}
      (hrun : Run flow first events sys)
      (hstep : Step flow sys recorded sys') :
      Run flow first (events ++ recorded) sys'

theorem Run.trans {flow : Workflow E V ε σ α} {first middle last : Sys ι E V ε σ}
    {before after : List (Event ι V ε σ α)}
    (hbefore : Run flow first before middle)
    (hafter : Run flow middle after last) :
    Run flow first (before ++ after) last := by
  induction hafter with
  | start => simpa using hbefore
  | step _ hstep ih =>
      rw [← List.append_assoc]
      exact ih.step hstep

theorem Run.single {flow : Workflow E V ε σ α} {first last : Sys ι E V ε σ}
    {recorded : List (Event ι V ε σ α)} (hstep : Step flow first recorded last) :
    Run flow first recorded last := by
  simpa using (Run.start : Run flow first [] first).step hstep

/-- Whatever a run records, one of its steps has recorded. -/
theorem Run.step_of_mem {flow : Workflow E V ε σ α} {first last : Sys ι E V ε σ}
    {events : List (Event ι V ε σ α)} {event : Event ι V ε σ α}
    (hrun : Run flow first events last) (hevent : event ∈ events) :
    ∃ earlier sys sys', Run flow first earlier sys ∧ Step flow sys [event] sys' := by
  induction hrun with
  | start => simp at hevent
  | @step events recorded sys sys' hrun hstep ih =>
      rw [List.mem_append] at hevent
      rcases hevent with hevent | hevent
      · exact ih hevent
      · have hsingle : recorded = [event] := by
          cases hstep with
          | commit => simp_all
          | raised => simp_all
          | abort => simp_all
          | act => simp_all
          | _ => simp at hevent
        exact ⟨events, sys, sys', hrun, hsingle ▸ hstep⟩

/-- A transaction that raises leaves the world as it is. -/
theorem Step.world_of_rolledBack {flow : Workflow E V ε σ α}
    {sys sys' : Sys ι E V ε σ} {client : ι} {before : σ} {error : ε}
    (hstep : Step flow sys [.rolledBack client before error] sys') :
    sys'.world = sys.world := by
  cases hstep with
  | raised => rfl
  | abort => rfl

/-- Proof that a workflow respects an evolution: what each local state knows,
and what each commit does. -/
structure Certificate (flow : Workflow E V ε σ α)
    (evolution : Evolution E V) where
  knows : σ → World E V → Prop
  does : σ → σ → Rows V → World E V → Prop
  stable : ∀ {state world world'}, evolution.rel world world' →
    knows state world → knows state world'
  code_ok : ∀ {state p world}, flow.code state = some p → knows state world →
    p.atCommit evolution (does state) [] world
  commit_ok : ∀ {state after own world}, does state after own world →
    knows state world → evolution.rel world (world.commit own) ∧
      knows after (world.commit own)
  recover_ok : ∀ {state world} error, knows state world →
    knows (flow.recover state error) world
  outside_ok : ∀ {state after action env world},
    flow.outside state world.env action after env → knows state world →
      evolution.rel world ⟨env, world.rows⟩ ∧ knows after ⟨env, world.rows⟩
  drift_ok : ∀ {env world}, flow.drift world.env env →
    evolution.rel world ⟨env, world.rows⟩

namespace Certificate

variable {flow : Workflow E V ε σ α} {evolution : Evolution E V}

/-- What the rest of a client's open transaction still guarantees. -/
def Sound (cert : Certificate flow evolution) (world : World E V) :
    Phase E V ε σ → Prop
  | .idle state => cert.knows state world
  | .crashed state => cert.knows state world
  | .busy state rest own held =>
      cert.knows state world ∧ (∀ key ∈ own.keys, key ∈ held) ∧
        ∀ final, Meanwhile evolution held world final →
          rest.atCommit evolution (cert.does state) own final

/-- The invariant of the interleaved system. -/
structure Good (cert : Certificate flow evolution)
    (sys : Sys ι E V ε σ) : Prop where
  sound : ∀ client, cert.Sound sys.world (sys.phase client)
  exclusive : ∀ {left right}, left ≠ right →
    ∀ key ∈ (sys.phase left).held, key ∉ (sys.phase right).held

variable {cert : Certificate flow evolution}

theorem Sound.knows {world : World E V} {phase : Phase E V ε σ}
    (h : cert.Sound world phase) : cert.knows phase.state world := by
  cases phase with
  | idle state => exact h
  | busy state rest own held => exact h.1
  | crashed state => exact h

theorem Sound.meanwhile {world world' : World E V} {phase : Phase E V ε σ}
    (h : cert.Sound world phase)
    (hworld : Meanwhile evolution phase.held world world') :
    cert.Sound world' phase := by
  cases phase with
  | idle state => exact cert.stable hworld.evolved h
  | crashed state => exact cert.stable hworld.evolved h
  | busy state rest own held =>
      exact ⟨cert.stable hworld.evolved h.1, h.2.1,
        fun final hfinal => h.2.2 final (hworld.trans hfinal)⟩

/-- Replacing one client's phase needs only that phase to be sound and its
locks to be its old ones or free. -/
theorem Good.setPhase {sys : Sys ι E V ε σ} (hgood : cert.Good sys)
    (client : ι) (phase : Phase E V ε σ)
    (hsound : cert.Sound sys.world phase)
    (hheld : ∀ key ∈ phase.held, key ∈ (sys.phase client).held ∨
      ∀ other, other ≠ client → key ∉ (sys.phase other).held) :
    cert.Good (sys.setPhase client phase) := by
  have hfree : ∀ key ∈ phase.held, ∀ other, other ≠ client →
      key ∉ (sys.phase other).held := by
    intro key hkey other hother
    rcases hheld key hkey with hold | hfree
    · exact hgood.exclusive hother.symm key hold
    · exact hfree other hother
  constructor
  · intro other
    by_cases hother : other = client
    · subst hother
      simpa [Sys.setPhase] using hsound
    · simpa [Sys.setPhase, hother] using hgood.sound other
  · intro left right hne key hleft hright
    by_cases hl : left = client
    · subst hl
      simp only [Sys.setPhase, Function.update_self] at hleft
      simp only [Sys.setPhase, Function.update_of_ne (Ne.symm hne)] at hright
      exact hfree key hleft right (Ne.symm hne) hright
    · simp only [Sys.setPhase, Function.update_of_ne hl] at hleft
      by_cases hr : right = client
      · subst hr
        simp only [Sys.setPhase, Function.update_self] at hright
        exact hfree key hright left hne hleft
      · simp only [Sys.setPhase, Function.update_of_ne hr] at hright
        exact hgood.exclusive hne key hleft hright

omit [DecidableEq ι] in
/-- A development that leaves every other client's locked rows alone. -/
theorem Good.advance {sys : Sys ι E V ε σ} (hgood : cert.Good sys)
    (world : World E V)
    (hworld : ∀ client, Meanwhile evolution (sys.phase client).held
      sys.world world) :
    cert.Good ⟨world, sys.phase⟩ :=
  ⟨fun client => (hgood.sound client).meanwhile (hworld client),
    hgood.exclusive⟩

omit [DecidableEq ι] in
theorem Good.start (world : World E V) (state : ι → σ)
    (hknows : ∀ client, cert.knows (state client) world) :
    cert.Good (Sys.start world state) :=
  ⟨hknows, by simp [Sys.start]⟩

/-- A commit moves the world as the evolution allows, and past every other
client's locks. -/
theorem Good.commit {sys : Sys ι E V ε σ} (hgood : cert.Good sys)
    {client : ι} {state after : σ} {own : Rows V} {held : List K}
    (hphase : sys.phase client = .busy state (.pure after) own held) :
    cert.does state after own sys.world ∧
      cert.Good ⟨sys.world.commit own,
        Function.update sys.phase client (.idle after)⟩ := by
  have hsound := hgood.sound client
  rw [hphase] at hsound
  obtain ⟨hknows, hown, hpost⟩ := hsound
  have hdoes : cert.does state after own sys.world :=
    hpost sys.world (Meanwhile.refl _ _ _)
  obtain ⟨hrel, hafter⟩ := cert.commit_ok hdoes hknows
  refine ⟨hdoes, ?_, ?_⟩
  · intro other
    by_cases hother : other = client
    · subst hother
      simp only [Function.update_self]
      exact hafter
    · simp only [Function.update_of_ne hother]
      refine (hgood.sound other).meanwhile ⟨hrel, fun key hkey => ?_⟩
      refine Rows.get_append_of_not_mem (fun hmem => ?_) _
      have hclient := hgood.exclusive (Ne.symm hother) key
        (by rw [hphase]; exact hown key hmem)
      exact hclient hkey
  · intro left right hne key hleft hright
    by_cases hl : left = client
    · subst hl
      simp at hleft
    · by_cases hr : right = client
      · subst hr
        simp at hright
      · simp only [Function.update_of_ne hl] at hleft
        simp only [Function.update_of_ne hr] at hright
        exact hgood.exclusive hne key hleft hright

theorem Good.act {sys : Sys ι E V ε σ} (hgood : cert.Good sys)
    {client : ι} {state after : σ} {action : α} {env : E}
    (hphase : sys.phase client = .idle state)
    (houtside : flow.outside state sys.world.env action after env) :
    cert.Good ⟨⟨env, sys.world.rows⟩,
      Function.update sys.phase client (.idle after)⟩ := by
  have hsound := hgood.sound client
  rw [hphase] at hsound
  obtain ⟨hrel, hafter⟩ := cert.outside_ok houtside hsound
  have hmoved := hgood.advance ⟨env, sys.world.rows⟩
    fun _ => ⟨hrel, fun _ _ => rfl⟩
  exact hmoved.setPhase client (.idle after) hafter
    (by simp)

theorem Good.step {sys sys' : Sys ι E V ε σ}
    {recorded : List (Event ι V ε σ α)} (hgood : cert.Good sys)
    (hstep : Step flow sys recorded sys') : cert.Good sys' := by
  cases hstep with
  | «open» client state p hphase hcode =>
      have hknows := hgood.sound client
      rw [hphase] at hknows
      refine hgood.setPhase client _ ⟨hknows, by simp, fun final hfinal => ?_⟩ (by simp)
      exact cert.code_ok hcode (cert.stable hfinal.evolved hknows)
  | query client state next own held hphase =>
      have hsound := hgood.sound client
      rw [hphase] at hsound
      refine hgood.setPhase client _ ⟨hsound.1, hsound.2.1, fun final hfinal => ?_⟩
        fun key hkey => Or.inl (by rw [hphase]; exact hkey)
      exact hsound.2.2 final hfinal sys.world (hfinal.weaken hsound.2.1)
  | pass client state key edit next own held hphase hedit =>
      have hsound := hgood.sound client
      rw [hphase] at hsound
      refine hgood.setPhase client _ ⟨hsound.1, hsound.2.1, fun final hfinal => ?_⟩
        fun key hkey => Or.inl (by rw [hphase]; exact hkey)
      exact (hsound.2.2 final hfinal).1 sys.world (hfinal.weaken hsound.2.1) hedit
  | store client state key edit next own held row hphase hedit hfree =>
      have hsound := hgood.sound client
      rw [hphase] at hsound
      refine hgood.setPhase client _ ⟨hsound.1, ?_, fun final hfinal => ?_⟩
        fun other hother => ?_
      · intro other hother
        rcases List.mem_cons.mp hother with rfl | hother
        · exact List.mem_cons_self
        · exact List.mem_cons_of_mem _ (hsound.2.1 other hother)
      · -- the lock just taken keeps the row as it was seen
        have hseen : Rows.get (own ++ final.rows) key =
            Rows.get (own ++ sys.world.rows) key := by
          by_cases hkey : key ∈ own.keys
          · rw [Rows.get_append_of_mem hkey, Rows.get_append_of_mem hkey]
          · rw [Rows.get_append_of_not_mem hkey, Rows.get_append_of_not_mem hkey]
            exact hfinal.locked key List.mem_cons_self
        have hrest := hsound.2.2 final
          (hfinal.weaken fun _ hkey => List.mem_cons_of_mem _ hkey)
        rw [← hseen]
        exact hrest.2 row (by rw [hseen]; exact hedit)
      · rcases List.mem_cons.mp hother with rfl | hother
        · exact Or.inr hfree
        · exact Or.inl (by rw [hphase]; exact hother)
  | commit client state after own held hphase =>
      exact (hgood.commit hphase).2
  | raised client state error own held hphase =>
      have hsound := hgood.sound client
      rw [hphase] at hsound
      exact hgood.setPhase client (.idle _)
        (cert.recover_ok error hsound.1) (by simp)
  | abort client state error rest own held hphase haborts =>
      have hsound := hgood.sound client
      rw [hphase] at hsound
      exact hgood.setPhase client (.idle _)
        (cert.recover_ok error hsound.1) (by simp)
  | crash client =>
      exact hgood.setPhase client (.crashed _)
        (hgood.sound client).knows (by simp)
  | act client state after action env hphase houtside =>
      exact hgood.act hphase houtside
  | drift env hdrift =>
      exact hgood.advance _ fun _ => ⟨cert.drift_ok hdrift, fun _ _ => rfl⟩

theorem Good.run {first last : Sys ι E V ε σ}
    {events : List (Event ι V ε σ α)} (hgood : cert.Good first)
    (hrun : Run flow first events last) : cert.Good last := by
  induction hrun with
  | start => exact hgood
  | step _ hstep ih => exact ih.step hstep

/-- One step for a property of the committed world, the local states and the record:
commits, rollbacks, outside actions and drift are all that it has to survive. -/
theorem Good.holds_step {holds : World E V → (ι → σ) → List (Event ι V ε σ α) → Prop}
    {sys sys' : Sys ι E V ε σ} {events recorded : List (Event ι V ε σ α)}
    (hgood : cert.Good sys) (hstep : Step flow sys recorded sys')
    (hholds : holds sys.world sys.states events)
    (hcommit : ∀ {client after own},
      Event.committed client (sys.states client) after own ∈ recorded →
      (∀ other, cert.knows (sys.states other) sys.world) →
      cert.does (sys.states client) after own sys.world →
      holds (sys.world.commit own) (Function.update sys.states client after)
        (events ++ [.committed client (sys.states client) after own]))
    (hrollback : ∀ {client error}, (∀ other, cert.knows (sys.states other) sys.world) →
      holds sys.world
        (Function.update sys.states client (flow.recover (sys.states client) error))
        (events ++ [.rolledBack client (sys.states client) error]))
    (hact : ∀ {client action after env}, (∀ other, cert.knows (sys.states other) sys.world) →
      flow.outside (sys.states client) sys.world.env action after env →
      holds ⟨env, sys.world.rows⟩ (Function.update sys.states client after)
        (events ++ [.acted client (sys.states client) action after]))
    (hdrift : ∀ {env}, flow.drift sys.world.env env →
      holds ⟨env, sys.world.rows⟩ sys.states events) :
    holds sys'.world sys'.states (events ++ recorded) := by
  have hknows : ∀ client, cert.knows (sys.states client) sys.world :=
    fun client => (hgood.sound client).knows
  cases hstep with
  | «open» client state p hphase hcode =>
      rw [List.append_nil, Sys.states_setPhase _ _ _ (by simp [hphase])]
      exact hholds
  | query client state next own held hphase =>
      rw [List.append_nil, Sys.states_setPhase _ _ _ (by simp [hphase])]
      exact hholds
  | pass client state key edit next own held hphase hedit =>
      rw [List.append_nil, Sys.states_setPhase _ _ _ (by simp [hphase])]
      exact hholds
  | store client state key edit next own held row hphase hedit hfree =>
      rw [List.append_nil, Sys.states_setPhase _ _ _ (by simp [hphase])]
      exact hholds
  | commit client state after own held hphase =>
      have hstate : sys.states client = state := by simp [Sys.states, hphase]
      have hdoes := (hgood.commit hphase).1
      subst hstate
      rw [Sys.states_update]
      exact hcommit (List.mem_singleton_self _) hknows hdoes
  | raised client state error own held hphase =>
      have hstate : sys.states client = state := by simp [Sys.states, hphase]
      subst hstate
      rw [Sys.setPhase, Sys.states_update]
      exact @hrollback client error hknows
  | abort client state error rest own held hphase haborts =>
      have hstate : sys.states client = state := by simp [Sys.states, hphase]
      subst hstate
      rw [Sys.setPhase, Sys.states_update]
      exact @hrollback client error hknows
  | crash client =>
      rw [List.append_nil, Sys.states_setPhase _ _ _ (by simp)]
      exact hholds
  | act client state after action env hphase houtside =>
      have hstate : sys.states client = state := by simp [Sys.states, hphase]
      subst hstate
      rw [Sys.states_update]
      exact hact hknows houtside
  | drift env hdrift' =>
      rw [List.append_nil]
      exact hdrift hdrift'

/-- The induction rule over runs: a property of the committed world, the local
states and the record holds throughout if commits, rollbacks, outside actions
and drift preserve it.  Everything in between is invisible. -/
theorem run_induction (cert : Certificate flow evolution)
    (holds : World E V → (ι → σ) → List (Event ι V ε σ α) → Prop)
    {first last : Sys ι E V ε σ} {events : List (Event ι V ε σ α)}
    (hgood : cert.Good first) (hfirst : holds first.world first.states [])
    (hcommit : ∀ {world state events client after own},
      (∀ other, cert.knows (state other) world) →
      cert.does (state client) after own world → holds world state events →
      holds (world.commit own) (Function.update state client after)
        (events ++ [.committed client (state client) after own]))
    (hrollback : ∀ {world state events client error},
      (∀ other, cert.knows (state other) world) → holds world state events →
      holds world
        (Function.update state client (flow.recover (state client) error))
        (events ++ [.rolledBack client (state client) error]))
    (hact : ∀ {world state events client action after env},
      (∀ other, cert.knows (state other) world) →
      flow.outside (state client) world.env action after env →
      holds world state events →
      holds ⟨env, world.rows⟩ (Function.update state client after)
        (events ++ [.acted client (state client) action after]))
    (hdrift : ∀ {world state events env}, flow.drift world.env env →
      holds world state events → holds ⟨env, world.rows⟩ state events)
    (hrun : Run flow first events last) :
    holds last.world last.states events := by
  induction hrun with
  | start => exact hfirst
  | @step events recorded sys sys' hbefore hstep ih =>
      apply (hgood.run hbefore).holds_step hstep ih
      · exact fun _ hknows hdoes => hcommit hknows hdoes ih
      · exact fun hknows => hrollback hknows ih
      · exact fun hknows houtside => hact hknows houtside ih
      · exact fun hdrift' => hdrift hdrift' ih

end Certificate

section Alone

variable {flow : Workflow E V ε σ α}

/-- Statements of one client while nobody else moves. -/
theorem run_execute (sys : Sys ι E V ε σ) (client : ι) {state after : σ}
    {p : Prog E V ε σ} {own own' : Rows V} {held : List K}
    (hphase : sys.phase client = .busy state p own held)
    (hfree : ∀ other, other ≠ client → (sys.phase other).held = [])
    (hresult : p.execute sys.world.env sys.world.rows own = .ok (after, own')) :
    Run flow sys [.committed client state after own']
      ⟨sys.world.commit own',
        Function.update sys.phase client (.idle after)⟩ := by
  have hgo : ∀ (p : Prog E V ε σ) (own : Rows V) (held : List K),
      p.execute sys.world.env sys.world.rows own = .ok (after, own') →
        Run flow (sys.setPhase client (.busy state p own held))
          [.committed client state after own']
          ⟨sys.world.commit own',
            Function.update sys.phase client (.idle after)⟩ := by
    intro p
    induction p with
    | pure result =>
        intro own held hresult
        simp only [Prog.execute, Except.ok.injEq, Prod.mk.injEq] at hresult
        obtain ⟨rfl, rfl⟩ := hresult
        have hstep : Step flow _ _ _ := .commit
          (sys.setPhase client (.busy state (.pure result) own held))
          client state result own held (by simp)
        simpa [Sys.setPhase] using Run.single hstep
    | raise error =>
        intro own held hresult
        simp [Prog.execute] at hresult
    | query next ih =>
        intro own held hresult
        have hstep : Step flow _ _ _ := .query
          (sys.setPhase client (.busy state (.query next) own held))
          client state next own held (by simp)
        rw [Sys.setPhase_setPhase] at hstep
        simpa using (Run.single hstep).trans (ih _ _ own held hresult)
    | write key edit next ih =>
        intro own held hresult
        simp only [Prog.execute] at hresult
        cases hedit : edit (Rows.get (own ++ sys.world.rows) key) with
        | none =>
            rw [hedit] at hresult
            have hstep : Step flow _ _ _ := .pass
              (sys.setPhase client (.busy state (.write key edit next) own held))
              client state key edit next own held (by simp) hedit
            rw [Sys.setPhase_setPhase] at hstep
            simpa using (Run.single hstep).trans (ih _ own held hresult)
        | some row =>
            rw [hedit] at hresult
            have hstep : Step flow _ _ _ := .store
              (sys.setPhase client (.busy state (.write key edit next) own held))
              client state key edit next own held row (by simp) hedit (by
                intro other hother
                simp [hother, hfree other hother])
            rw [Sys.setPhase_setPhase] at hstep
            simpa using (Run.single hstep).trans
              (ih _ (⟨key, row⟩ :: own) (key :: held) hresult)
  have hself : sys.setPhase client (.busy state p own held) = sys := by
    simp [Sys.setPhase, ← hphase]
  have hrun := hgo p own held hresult
  rwa [hself] at hrun

/-- One whole transaction of one client while nobody else is inside one. -/
theorem run_transaction {sys : Sys ι E V ε σ} {client : ι} {state after : σ}
    {p : Prog E V ε σ} {own : Rows V}
    (hphase : sys.phase client = .idle state) (hcode : flow.code state = some p)
    (hfree : ∀ other, (sys.phase other).held = [])
    (hresult : p.execute sys.world.env sys.world.rows [] = .ok (after, own)) :
    Run flow sys [.committed client state after own]
      ⟨sys.world.commit own,
        Function.update sys.phase client (.idle after)⟩ := by
  have hopen : Step flow _ _ _ := .open sys client state p hphase hcode
  have hbusy : (sys.setPhase client (.busy state p [] [])).phase client =
      .busy state p [] [] := by simp
  have hrest : Run flow _ _ _ := run_execute _ client hbusy (by
    intro other hother
    simp [hother, hfree other]) hresult
  simpa using (Run.single hopen).trans hrest

omit [DecidableEq K] in
theorem Sys.start_update (world : World E V) (state : ι → σ) (client : ι) (after : σ) :
    (⟨world, Function.update (Sys.start world state).phase client (.idle after)⟩ :
      Sys ι E V ε σ) = Sys.start world (Function.update state client after) := by
  simp only [Sys.start, Sys.mk.injEq, true_and]
  funext other
  by_cases hother : other = client
  · subst hother
    simp
  · simp [hother]

/-- One whole transaction where nobody is inside one, before or after. -/
theorem run_transaction_start {world : World E V} {state : ι → σ} (client : ι)
    {after : σ} {p : Prog E V ε σ} {own : Rows V}
    (hcode : flow.code (state client) = some p)
    (hresult : p.execute world.env world.rows [] = .ok (after, own)) :
    Run flow (Sys.start world state) [.committed client (state client) after own]
      (Sys.start (world.commit own) (Function.update state client after)) := by
  rw [← Sys.start_update]
  have hidle : ∀ other, ((Sys.start world state : Sys ι E V ε σ).phase other).held = [] :=
    fun _ => rfl
  exact run_transaction rfl hcode hidle hresult

/-- One outside action where nobody is inside a transaction. -/
theorem run_act_start {world : World E V} {state : ι → σ} (client : ι) {after : σ}
    {action : α} (houtside : flow.outside (state client) world.env action after world.env) :
    Run flow (Sys.start world state) [.acted client (state client) action after]
      (Sys.start world (Function.update state client after)) := by
  rw [← Sys.start_update]
  exact Run.single (.act (Sys.start world state) client _ after action world.env rfl
    houtside)

end Alone

end ReadCommitted
