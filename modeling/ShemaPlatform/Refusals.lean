/-
How a transaction ends, commit or error, read statement by statement: each one
sees some later world than the one before.  What holds of every error a body
may raise holds of every error that a run records, aborts apart.
-/
import ShemaPlatform.WorkflowRun

namespace ReadCommitted

variable {E K : Type} {V : K → Type} {ε ρ ρ' σ α ι : Type} [DecidableEq K]

namespace Prog

/-- What a transaction body that starts in this world establishes when its last
statement returns, or when it raises, whatever commits meanwhile. -/
def ends (evolution : Evolution E V) :
    Prog E V ε ρ → (ρ → Rows V → World E V → Prop) → (ε → World E V → Prop) →
      Rows V → World E V → Prop
  | .pure result, returns, _, own, world => returns result own world
  | .raise error, _, raises, _, world => raises error world
  | .query next, returns, raises, own, world =>
      ∀ later, Meanwhile evolution own.keys world later →
        ends evolution (next later.env (own ++ later.rows)) returns raises own later
  | .write key edit next, returns, raises, own, world =>
      ∀ later, Meanwhile evolution own.keys world later →
        (edit (Rows.get (own ++ later.rows) key) = none →
          ends evolution (next (Rows.get (own ++ later.rows) key)) returns raises own
            later) ∧
        ∀ row, edit (Rows.get (own ++ later.rows) key) = some row →
          ends evolution (next (Rows.get (own ++ later.rows) key)) returns raises
            (⟨key, row⟩ :: own) later

variable {evolution : Evolution E V} {returns : ρ → Rows V → World E V → Prop}
  {raises : ε → World E V → Prop} {own : Rows V} {world : World E V}

@[simp] theorem ends_pure (result : ρ) :
    ends evolution (Pure.pure result : Prog E V ε ρ) returns raises own world ↔
      returns result own world := Iff.rfl

@[simp] theorem ends_raise (error : ε) :
    ends evolution (raise error : Prog E V ε ρ) returns raises own world ↔
      raises error world := Iff.rfl

theorem ends_mono {p : Prog E V ε ρ} {returns' : ρ → Rows V → World E V → Prop}
    (hreturns : ∀ result own world, returns result own world → returns' result own world)
    (h : ends evolution p returns raises own world) :
    ends evolution p returns' raises own world := by
  induction p generalizing own world with
  | pure result => exact hreturns _ _ _ h
  | raise error => exact h
  | query next ih =>
      intro later hlater
      exact ih _ _ (h later hlater)
  | write key edit next ih =>
      intro later hlater
      constructor
      · intro hedit
        exact ih _ ((h later hlater).1 hedit)
      · intro row hedit
        exact ih _ ((h later hlater).2 row hedit)

@[simp] theorem ends_bind (p : Prog E V ε ρ') (rest : ρ' → Prog E V ε ρ) :
    ends evolution (p >>= rest) returns raises own world ↔
      ends evolution p
        (fun result own world => ends evolution (rest result) returns raises own world)
        raises own world := by
  induction p generalizing own world with
  | pure result => exact Iff.rfl
  | raise error => exact Iff.rfl
  | query next ih =>
      exact forall_congr' fun later => imp_congr_right fun _ => ih _ _
  | write key edit next ih =>
      exact forall_congr' fun later => imp_congr_right fun _ => and_congr
        (imp_congr_right fun _ => ih _)
        (forall_congr' fun row => imp_congr_right fun _ => ih _)

@[simp] theorem ends_lift (outcome : Except ε ρ) :
    ends evolution (lift outcome : Prog E V ε ρ) returns raises own world ↔
      (∀ result, outcome = .ok result → returns result own world) ∧
        ∀ error, outcome = .error error → raises error world := by
  cases outcome with
  | ok result => simp [lift, ends]
  | error error => simp [lift]

theorem ends_select {key : K} {returns : Option (V key) → Rows V → World E V → Prop} :
    ends evolution (select key : Prog E V ε _) returns raises own world ↔
      ∀ later, Meanwhile evolution own.keys world later →
        returns (Rows.get (own ++ later.rows) key) own later := Iff.rfl

theorem ends_insertNew {key : K} {row : V key}
    {returns : Bool → Rows V → World E V → Prop} :
    ends evolution (insertNew key row : Prog E V ε Bool) returns raises own world ↔
      ∀ later, Meanwhile evolution own.keys world later →
        (∀ existing, Rows.get (own ++ later.rows) key = some existing →
          returns false own later) ∧
        (Rows.get (own ++ later.rows) key = none →
          returns true (⟨key, some row⟩ :: own) later) := by
  apply forall_congr'
  intro later
  apply imp_congr_right
  intro _
  cases hrow : Rows.get (own ++ later.rows) key with
  | none => simp [ends]
  | some existing => simp [ends]

/-- Errors that are all one may expect from here on. -/
theorem ends_of_all {p : Prog E V ε ρ}
    (h : ∀ later, evolution.rel world later → ∀ error, raises error later) :
    ends evolution p (fun _ _ _ => True) raises own world := by
  induction p generalizing own world with
  | pure result => trivial
  | raise error => exact h world (evolution.refl world) error
  | query next ih =>
      intro later hlater
      apply ih
      intro final hfinal error
      exact h final (evolution.trans hlater.evolved hfinal) error
  | write key edit next ih =>
      intro later hlater
      have hrest : ∀ final, evolution.rel later final → ∀ error, raises error final := by
        intro final hfinal error
        exact h final (evolution.trans hlater.evolved hfinal) error
      exact ⟨fun _ => ih _ hrest, fun _ _ => ih _ hrest⟩

/-- What others commit before the first statement makes no difference. -/
theorem ends_meanwhile {p : Prog E V ε ρ} {world' : World E V}
    (hstable : ∀ error a b, evolution.rel a b → raises error a → raises error b)
    (h : ends evolution p (fun _ _ _ => True) raises own world)
    (hworld : Meanwhile evolution own.keys world world') :
    ends evolution p (fun _ _ _ => True) raises own world' := by
  cases p with
  | pure result => trivial
  | raise error => exact hstable error _ _ hworld.evolved h
  | query next =>
      intro later hlater
      exact h later (hworld.trans hlater)
  | write key edit next =>
      intro later hlater
      exact h later (hworld.trans hlater)

end Prog

namespace Certificate

variable {flow : Workflow E V ε σ α} {evolution : Evolution E V}
  {cert : Certificate flow evolution} {raises : σ → ε → World E V → Prop}

/-- What the rest of an open transaction may still raise. -/
def Refuses (evolution : Evolution E V) (raises : σ → ε → World E V → Prop)
    (world : World E V) : Phase E V ε σ → Prop
  | .busy state rest own _ =>
      rest.ends evolution (fun _ _ _ => True) (raises state) own world
  | _ => True

theorem Refuses.meanwhile {world world' : World E V} {phase : Phase E V ε σ}
    (hstable : ∀ state error a b, evolution.rel a b → raises state error a →
      raises state error b)
    (h : Refuses evolution raises world phase) (hsound : cert.Sound world phase)
    (hworld : Meanwhile evolution phase.held world world') :
    Refuses evolution raises world' phase := by
  cases phase with
  | idle state => trivial
  | crashed state => trivial
  | busy state rest own held =>
      exact Prog.ends_meanwhile (hstable state) h (hworld.weaken hsound.2.1)

variable [DecidableEq ι]

omit [DecidableEq ι] in
/-- A commit is past every lock of another client. -/
theorem Good.meanwhile_commit {sys : Sys ι E V ε σ} (hgood : cert.Good sys)
    {client other : ι} {state after : σ} {own : Rows V} {held : List K}
    (hphase : sys.phase client = .busy state (.pure after) own held)
    (hother : other ≠ client) :
    Meanwhile evolution (sys.phase other).held sys.world (sys.world.commit own) := by
  have hsound := hgood.sound client
  rw [hphase] at hsound
  obtain ⟨hknows, hown, hpost⟩ := hsound
  constructor
  · exact (cert.commit_ok (hpost sys.world (Meanwhile.refl _ _ _)) hknows).1
  · intro key hkey
    apply Rows.get_append_of_not_mem
    intro hmem
    have hclient : key ∈ (sys.phase client).held := by
      rw [hphase]
      exact hown key hmem
    exact hgood.exclusive (Ne.symm hother) key hclient hkey

/-- Every step is a development. -/
theorem Good.evolves {sys sys' : Sys ι E V ε σ} {recorded : List (Event ι V ε σ α)}
    (hgood : cert.Good sys) (hstep : Step flow sys recorded sys') :
    evolution.rel sys.world sys'.world := by
  cases hstep with
  | commit client state after own held hphase =>
      have hsound := hgood.sound client
      rw [hphase] at hsound
      obtain ⟨hknows, _, hpost⟩ := hsound
      exact (cert.commit_ok (hpost sys.world (Meanwhile.refl _ _ _)) hknows).1
  | act client state after action env hphase houtside =>
      have hknows := hgood.sound client
      rw [hphase] at hknows
      exact (cert.outside_ok houtside hknows).1
  | drift env hdrift => exact cert.drift_ok hdrift
  | _ => exact evolution.refl _

/-- What open transactions may raise is kept by every step. -/
theorem Good.refuses_step {sys sys' : Sys ι E V ε σ}
    {recorded : List (Event ι V ε σ α)} (hgood : cert.Good sys)
    (hstable : ∀ state error a b, evolution.rel a b → raises state error a →
      raises state error b)
    (hcode : ∀ {state p world}, flow.code state = some p → cert.knows state world →
      p.ends evolution (fun _ _ _ => True) (raises state) [] world)
    (h : ∀ client, Refuses evolution raises sys.world (sys.phase client))
    (hstep : Step flow sys recorded sys') :
    ∀ client, Refuses evolution raises sys'.world (sys'.phase client) := by
  have hset : ∀ client phase, Refuses evolution raises sys.world phase →
      ∀ other, Refuses evolution raises sys.world
        (Function.update sys.phase client phase other) := by
    intro client phase hphase other
    by_cases heq : other = client
    · subst heq
      simpa using hphase
    · simpa [heq] using h other
  cases hstep with
  | «open» client state p hphase hopen =>
      apply hset
      have hknows := hgood.sound client
      rw [hphase] at hknows
      exact hcode hopen hknows
  | query client state next own held hphase =>
      apply hset
      have hrest := h client
      rw [hphase] at hrest
      exact hrest sys.world (Meanwhile.refl _ _ _)
  | pass client state key edit next own held hphase hedit =>
      apply hset
      have hrest := h client
      rw [hphase] at hrest
      exact (hrest sys.world (Meanwhile.refl _ _ _)).1 hedit
  | store client state key edit next own held row hphase hedit hfree =>
      apply hset
      have hrest := h client
      rw [hphase] at hrest
      exact (hrest sys.world (Meanwhile.refl _ _ _)).2 row hedit
  | commit client state after own held hphase =>
      intro other
      by_cases heq : other = client
      · subst heq
        simp [Refuses]
      · simpa [heq] using (h other).meanwhile hstable (hgood.sound other)
          (hgood.meanwhile_commit hphase heq)
  | act client state after action env hphase houtside =>
      have hknows := hgood.sound client
      rw [hphase] at hknows
      intro other
      by_cases heq : other = client
      · subst heq
        simp [Refuses]
      · simpa [heq] using (h other).meanwhile hstable (hgood.sound other)
          ⟨(cert.outside_ok houtside hknows).1, fun _ _ => rfl⟩
  | drift env hdrift =>
      intro other
      exact (h other).meanwhile hstable (hgood.sound other)
        ⟨cert.drift_ok hdrift, fun _ _ => rfl⟩
  | raised client state error own held hphase => exact hset _ _ trivial
  | abort client state error rest own held hphase haborts => exact hset _ _ trivial
  | crash client => exact hset _ _ trivial

/-- Whatever is rolled back in a run was an abort, or raised what its
transaction may raise. -/
theorem Good.refused {first last : Sys ι E V ε σ} {events : List (Event ι V ε σ α)}
    (hgood : cert.Good first)
    (hstable : ∀ state error a b, evolution.rel a b → raises state error a →
      raises state error b)
    (hcode : ∀ {state p world}, flow.code state = some p → cert.knows state world →
      p.ends evolution (fun _ _ _ => True) (raises state) [] world)
    (hfirst : ∀ client, Refuses evolution raises first.world (first.phase client))
    (hrun : Run flow first events last) :
    (∀ client, Refuses evolution raises last.world (last.phase client)) ∧
      ∀ client before error, .rolledBack client before error ∈ events →
        raises before error last.world ∨ flow.aborts error := by
  induction hrun with
  | start => exact ⟨hfirst, by simp⟩
  | @step events recorded sys sys' hbefore hstep ih =>
      have hsys := hgood.run hbefore
      refine ⟨hsys.refuses_step hstable hcode ih.1 hstep, ?_⟩
      intro client before error hmem
      rcases List.mem_append.mp hmem with hold | hnew
      · rcases ih.2 client before error hold with hraises | haborts
        · exact Or.inl (hstable _ _ _ _ (hsys.evolves hstep) hraises)
        · exact Or.inr haborts
      · cases hstep with
        | raised other state error' own held hphase =>
            simp only [List.mem_singleton, Event.rolledBack.injEq] at hnew
            obtain ⟨rfl, rfl, rfl⟩ := hnew
            have hrest := ih.1 client
            rw [hphase] at hrest
            exact Or.inl hrest
        | abort other state error' rest own held hphase haborts =>
            simp only [List.mem_singleton, Event.rolledBack.injEq] at hnew
            obtain ⟨rfl, rfl, rfl⟩ := hnew
            exact Or.inr haborts
        | commit => simp at hnew
        | act => simp at hnew
        | _ => simp at hnew

end Certificate

end ReadCommitted
