/-
What a transaction learns from its first read.  A client that knows something before it
opens a transaction reads a world where that already holds, whatever others commit later.
-/
import ShemaPlatform.RaisedRun

namespace ReadCommitted

variable {E K : Type} {V : K → Type} {ε ρ σ α ι : Type} [DecidableEq K]

/-- What a body establishes at its commit when it reads the world at once. -/
def Prog.FromFirstRead (evolution : Evolution E V) (post : ρ → Rows V → World E V → Prop)
    (world : World E V) : Prog E V ε ρ → Prop
  | .query next => ∀ final, evolution.rel world final →
      (next world.env world.rows).atCommit evolution post [] final
  | p => ∀ final, evolution.rel world final → p.atCommit evolution post [] final

theorem Prog.FromFirstRead.atCommit {evolution : Evolution E V}
    {post : ρ → Rows V → World E V → Prop} {world final : World E V} {p : Prog E V ε ρ}
    (h : p.FromFirstRead evolution post world) (hrel : evolution.rel world final)
    (hquery : ∀ next, p ≠ .query next) : p.atCommit evolution post [] final := by
  cases p with
  | query next => exact absurd rfl (hquery next)
  | pure result => exact h final hrel
  | raise error => trivial
  | write key edit next => exact h final hrel

/-- What always holds is established. -/
theorem Prog.FromFirstRead.of_forall {evolution : Evolution E V}
    {post : ρ → Rows V → World E V → Prop} {world : World E V} {p : Prog E V ε ρ}
    (h : ∀ result own world, post result own world) : p.FromFirstRead evolution post world := by
  cases p with
  | query next => exact fun final _ => Prog.atCommit_of_forall fun result own => h result own final
  | pure result => exact fun final _ => h result [] final
  | raise error => exact fun _ _ => trivial
  | write key edit next =>
      exact fun final _ => Prog.atCommit_of_forall fun result own => h result own final

/-- What each commit of a certified workflow teaches about the world, for good. -/
structure Lesson {flow : Workflow E V ε σ α} {evolution : Evolution E V}
    (cert : Certificate flow evolution) where
  learned : σ → σ → World E V → Prop
  stable : ∀ {before after world world'}, evolution.rel world world' →
    learned before after world → learned before after world'
  first_ok : ∀ {state p world}, flow.code state = some p → cert.knows state world →
    p.FromFirstRead evolution (fun after _ world => learned state after world) world

namespace Lesson

variable {flow : Workflow E V ε σ α} {evolution : Evolution E V}
  {cert : Certificate flow evolution} (lesson : Lesson cert)

/-- What the rest of an open transaction still teaches. -/
def Pending (world : World E V) : Phase E V ε σ → Prop
  | .busy state rest own held =>
      (flow.code state = some rest ∧ own = []) ∨
        ∀ final, Meanwhile evolution held world final →
          rest.atCommit evolution (fun after _ world => lesson.learned state after world) own
            final
  | _ => True

variable {lesson} {world world' : World E V} {phase : Phase E V ε σ}

theorem Pending.meanwhile (h : lesson.Pending world phase)
    (hworld : Meanwhile evolution phase.held world world') : lesson.Pending world' phase := by
  cases phase with
  | idle state => trivial
  | crashed state => trivial
  | busy state rest own held =>
      rcases h with huntouched | hrest
      · exact Or.inl huntouched
      · exact Or.inr fun final hfinal => hrest final (hworld.trans hfinal)

/-- What is left of a body that does not begin with a read. -/
theorem Pending.rest {state : σ} {rest : Prog E V ε σ} {own : Rows V} {held : List K}
    (h : lesson.Pending world (.busy state rest own held)) (hknows : cert.knows state world)
    (hquery : ∀ next, rest ≠ .query next) {final : World E V}
    (hfinal : Meanwhile evolution held world final) :
    rest.atCommit evolution (fun after _ world => lesson.learned state after world) own
      final := by
  rcases h with ⟨hcode, rfl⟩ | hrest
  · exact (lesson.first_ok hcode hknows).atCommit hfinal.evolved hquery
  · exact hrest final hfinal

variable [DecidableEq ι] {sys sys' : Sys ι E V ε σ} {events recorded : List (Event ι V ε σ α)}

/-- What holds of a run: its open transactions still teach, and what its commits taught is
so. -/
structure Taught (lesson : Lesson cert) (sys : Sys ι E V ε σ)
    (events : List (Event ι V ε σ α)) : Prop where
  pending : ∀ client, lesson.Pending sys.world (sys.phase client)
  learned : ∀ client before after own, Event.committed client before after own ∈ events →
    lesson.learned before after sys.world

/-- One client moves on inside its transaction, or ends it. -/
theorem Taught.setPhase (h : lesson.Taught sys events) (client : ι) {phase : Phase E V ε σ}
    (hphase : lesson.Pending sys.world phase)
    (hrecorded : ∀ other before after own,
      Event.committed other before after own ∈ recorded → False) :
    lesson.Taught (sys.setPhase client phase) (events ++ recorded) := by
  constructor
  · intro other
    by_cases hother : other = client
    · subst hother
      simpa using hphase
    · simpa [hother] using h.pending other
  · intro other before after own hevent
    rcases List.mem_append.mp hevent with hevent | hevent
    · exact h.learned other before after own hevent
    · exact (hrecorded other before after own hevent).elim

omit [DecidableEq ι] in
/-- The world develops, past the locks of every client. -/
theorem Taught.advance (h : lesson.Taught sys events) {phase : ι → Phase E V ε σ}
    (hrel : evolution.rel sys.world world)
    (hphase : ∀ client, lesson.Pending world (phase client))
    (hrecorded : ∀ client before after own,
      Event.committed client before after own ∈ recorded →
        lesson.learned before after world) :
    lesson.Taught ⟨world, phase⟩ (events ++ recorded) := by
  constructor
  · exact hphase
  · intro client before after own hevent
    rcases List.mem_append.mp hevent with hevent | hevent
    · exact lesson.stable hrel (h.learned client before after own hevent)
    · exact hrecorded client before after own hevent

theorem Taught.commit (h : lesson.Taught sys events) (hgood : cert.Good sys) {client : ι}
    {state after : σ} {own : Rows V} {held : List K}
    (hphase : sys.phase client = .busy state (.pure after) own held) :
    lesson.Taught ⟨sys.world.commit own, Function.update sys.phase client (.idle after)⟩
      (events ++ [.committed client state after own]) := by
  have hsound := hgood.sound client
  rw [hphase] at hsound
  have hpending := h.pending client
  rw [hphase] at hpending
  have hlearned : lesson.learned state after sys.world :=
    hpending.rest hsound.1 (by simp) (Meanwhile.refl _ _ _)
  have hrel := (cert.commit_ok (hgood.commit hphase).1 hsound.1).1
  apply h.advance hrel
  · intro other
    by_cases hother : other = client
    · subst hother
      simp only [Function.update_self]
      trivial
    · simp only [Function.update_of_ne hother]
      apply (h.pending other).meanwhile
      constructor
      · exact hrel
      · intro key hkey
        apply Rows.get_append_of_not_mem
        intro hmem
        have hheld := hgood.exclusive (Ne.symm hother) key
          (by rw [hphase]; exact hsound.2.1 key hmem)
        exact hheld hkey
  · intro other before last own' hevent
    simp only [List.mem_singleton, Event.committed.injEq] at hevent
    obtain ⟨-, rfl, rfl, -⟩ := hevent
    exact lesson.stable hrel hlearned

theorem Taught.step (h : lesson.Taught sys events) (hgood : cert.Good sys)
    (hstep : Step flow sys recorded sys') : lesson.Taught sys' (events ++ recorded) := by
  cases hstep with
  | «open» client state p hphase hcode =>
      apply h.setPhase client _ (by simp)
      exact Or.inl ⟨hcode, rfl⟩
  | query client state next own held hphase =>
      have hsound := hgood.sound client
      have hpending := h.pending client
      rw [hphase] at hsound hpending
      apply h.setPhase client _ (by simp)
      rcases hpending with ⟨hcode, rfl⟩ | hrest
      · -- the first read, at a world that the client knows
        exact Or.inr fun final hfinal => lesson.first_ok hcode hsound.1 final hfinal.evolved
      · exact Or.inr fun final hfinal =>
          hrest final hfinal sys.world (hfinal.weaken hsound.2.1)
  | pass client state key edit next own held hphase hedit =>
      have hsound := hgood.sound client
      have hpending := h.pending client
      rw [hphase] at hsound hpending
      apply h.setPhase client _ (by simp)
      exact Or.inr fun final hfinal =>
        (hpending.rest hsound.1 (by simp) hfinal).1 sys.world (hfinal.weaken hsound.2.1) hedit
  | store client state key edit next own held row hphase hedit hfree =>
      have hsound := hgood.sound client
      have hpending := h.pending client
      rw [hphase] at hsound hpending
      apply h.setPhase client _ (by simp)
      refine Or.inr fun final hfinal => ?_
      have hseen : Rows.get (own ++ final.rows) key = Rows.get (own ++ sys.world.rows) key := by
        by_cases hkey : key ∈ own.keys
        · rw [Rows.get_append_of_mem hkey, Rows.get_append_of_mem hkey]
        · rw [Rows.get_append_of_not_mem hkey, Rows.get_append_of_not_mem hkey]
          exact hfinal.locked key List.mem_cons_self
      have hrest := hpending.rest hsound.1 (by simp)
        (hfinal.weaken fun _ hkey => List.mem_cons_of_mem _ hkey)
      rw [← hseen]
      exact hrest.2 row (by rw [hseen]; exact hedit)
  | commit client state after own held hphase => exact h.commit hgood hphase
  | raised client state error own held hphase =>
      exact h.setPhase client trivial (by simp)
  | abort client state error rest own held hphase haborts =>
      exact h.setPhase client trivial (by simp)
  | crash client => exact h.setPhase client trivial (by simp)
  | act client state after action env hphase houtside =>
      have hsound := hgood.sound client
      rw [hphase] at hsound
      have hrel := (cert.outside_ok houtside hsound).1
      apply h.advance hrel
      · intro other
        by_cases hother : other = client
        · subst hother
          simp only [Function.update_self]
          trivial
        · simp only [Function.update_of_ne hother]
          exact (h.pending other).meanwhile ⟨hrel, fun _ _ => rfl⟩
      · simp
  | drift env hdrift =>
      have hrel := cert.drift_ok hdrift
      apply h.advance hrel
      · exact fun client => (h.pending client).meanwhile ⟨hrel, fun _ _ => rfl⟩
      · simp

/-- Whatever the commits of a run taught is so at its end. -/
theorem learned_of_run {first last : Sys ι E V ε σ} (hgood : cert.Good first)
    (hpending : ∀ client, lesson.Pending first.world (first.phase client))
    (hrun : Run flow first events last) {client : ι} {before after : σ} {own : Rows V}
    (hevent : Event.committed client before after own ∈ events) :
    lesson.learned before after last.world := by
  have htaught : lesson.Taught last events := by
    clear hevent
    induction hrun with
    | start => exact ⟨hpending, by simp⟩
    | step hrun hstep ih => exact ih.step (hgood.run hrun) hstep
  exact htaught.learned client before after own hevent

end Lesson

end ReadCommitted
