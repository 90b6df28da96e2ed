/-
What holds in the world in which a transaction raises, the rows it has locked included:
the counterpart of what one that returns establishes where it commits.
-/
import ShemaPlatform.Refusals

namespace ReadCommitted

variable {E K : Type} {V : K → Type} {ε ρ ρ' : Type} [DecidableEq K]

/-- Rows that are there stay as they are. -/
def writeOnce (E : Type) {K : Type} [DecidableEq K] (V : K → Type) : Evolution E V where
  rel world world' := ∀ key row, world.rows.get key = some row → world'.rows.get key = some row
  refl _ _ _ hrow := hrow
  trans hab hbc key row hrow := hbc key row (hab key row hrow)

/-- What is written where nothing was leaves the rest. -/
theorem Rows.keeps_of_free {own rows : Rows V} (h : ∀ key ∈ own.keys, rows.get key = none)
    (key : K) (row : V key) (hrow : rows.get key = some row) :
    Rows.get (own ++ rows) key = some row := by
  rw [Rows.get_append_of_not_mem]
  · exact hrow
  · intro hmem
    rw [h key hmem] at hrow
    cases hrow

theorem Meanwhile.get_append {held : List K} {earlier world : World E V} {own : Rows V}
    {key : K} {row : V key} (h : Meanwhile (writeOnce E V) held earlier world)
    (hrow : Rows.get (own ++ earlier.rows) key = some row) :
    Rows.get (own ++ world.rows) key = some row := by
  by_cases hmem : key ∈ own.keys
  · rw [Rows.get_append_of_mem hmem] at hrow ⊢
    exact hrow
  · rw [Rows.get_append_of_not_mem hmem] at hrow ⊢
    exact h.evolved key row hrow

namespace Prog

/-- What holds in the world in which a transaction raises. -/
def atRaise (evolution : Evolution E V) :
    Prog E V ε ρ → (ε → Rows V → World E V → Prop) → Rows V → World E V → Prop
  | .pure _, _, _, _ => True
  | .raise error, post, own, world => post error own world
  | .query next, post, own, world =>
      ∀ earlier, Meanwhile evolution own.keys earlier world →
        atRaise evolution (next earlier.env (own ++ earlier.rows)) post own world
  | .write key edit next, post, own, world =>
      (∀ earlier, Meanwhile evolution own.keys earlier world →
        edit (Rows.get (own ++ earlier.rows) key) = none →
        atRaise evolution (next (Rows.get (own ++ earlier.rows) key)) post own world) ∧
      (∀ row, edit (Rows.get (own ++ world.rows) key) = some row →
        atRaise evolution (next (Rows.get (own ++ world.rows) key)) post
          (⟨key, row⟩ :: own) world)

variable {evolution : Evolution E V} {post : ε → Rows V → World E V → Prop} {own : Rows V}
  {world : World E V}

@[simp] theorem atRaise_pure (result : ρ) :
    atRaise evolution (Pure.pure result : Prog E V ε ρ) post own world ↔ True := Iff.rfl

@[simp] theorem atRaise_raise (error : ε) :
    atRaise evolution (raise error : Prog E V ε ρ) post own world ↔ post error own world :=
  Iff.rfl

/-- A sequence raises in its first part, or in the rest of it. -/
theorem atRaise_bind (p : Prog E V ε ρ') (rest : ρ' → Prog E V ε ρ) :
    atRaise evolution (p >>= rest) post own world ↔
      atRaise evolution p post own world ∧ atCommit evolution p
        (fun result own world => atRaise evolution (rest result) post own world)
        own world := by
  induction p generalizing own with
  | pure result => exact (true_and _).symm ▸ Iff.rfl
  | raise error => exact (and_true _).symm ▸ Iff.rfl
  | query next ih =>
      constructor
      · intro h
        constructor
        · exact fun earlier hearlier => ((ih _ _).mp (h earlier hearlier)).1
        · exact fun earlier hearlier => ((ih _ _).mp (h earlier hearlier)).2
      · exact fun h earlier hearlier => (ih _ _).mpr ⟨h.1 earlier hearlier, h.2 earlier hearlier⟩
  | write key edit next ih =>
      constructor
      · intro h
        constructor
        · exact ⟨fun earlier hearlier hedit => ((ih _).mp (h.1 earlier hearlier hedit)).1,
            fun row hedit => ((ih _).mp (h.2 row hedit)).1⟩
        · exact ⟨fun earlier hearlier hedit => ((ih _).mp (h.1 earlier hearlier hedit)).2,
            fun row hedit => ((ih _).mp (h.2 row hedit)).2⟩
      · intro h
        constructor
        · exact fun earlier hearlier hedit =>
            (ih _).mpr ⟨h.1.1 earlier hearlier hedit, h.2.1 earlier hearlier hedit⟩
        · exact fun row hedit => (ih _).mpr ⟨h.1.2 row hedit, h.2.2 row hedit⟩

@[simp] theorem atRaise_lift (outcome : Except ε ρ) :
    atRaise evolution (lift outcome : Prog E V ε ρ) post own world ↔
      ∀ error, outcome = .error error → post error own world := by
  cases outcome with
  | ok result => simp [lift, atRaise]
  | error error => simp [lift]

theorem atRaise_mono {p : Prog E V ε ρ} {post' : ε → Rows V → World E V → Prop}
    (hpost : ∀ error own, post error own world → post' error own world)
    (h : atRaise evolution p post own world) : atRaise evolution p post' own world := by
  induction p generalizing own with
  | pure result => trivial
  | raise error => exact hpost _ _ h
  | query next ih => exact fun earlier hearlier => ih _ _ (h earlier hearlier)
  | write key edit next ih =>
      exact ⟨fun earlier hearlier hedit => ih _ (h.1 earlier hearlier hedit),
        fun row hedit => ih _ (h.2 row hedit)⟩

theorem atCommit_of_forall {p : Prog E V ε ρ} {returns : ρ → Rows V → World E V → Prop}
    (h : ∀ result own, returns result own world) :
    atCommit evolution p returns own world := by
  induction p generalizing own with
  | pure result => exact h result own
  | raise error => trivial
  | query next ih => exact fun _ _ => ih _ _
  | write key edit next ih => exact ⟨fun _ _ _ => ih _, fun _ _ => ih _⟩

theorem atRaise_of_forall {p : Prog E V ε ρ} (h : ∀ error own, post error own world) :
    atRaise evolution p post own world := by
  induction p generalizing own with
  | pure result => trivial
  | raise error => exact h error own
  | query next ih => exact fun _ _ => ih _ _
  | write key edit next ih => exact ⟨fun _ _ _ => ih _, fun _ _ => ih _⟩

/-- The fewer ways the others can take, the more holds. -/
theorem atRaise_of_finer {finer : Evolution E V} {p : Prog E V ε ρ}
    (hfiner : ∀ a b, finer.rel a b → evolution.rel a b)
    (h : atRaise evolution p post own world) : atRaise finer p post own world := by
  induction p generalizing own with
  | pure result => trivial
  | raise error => exact h
  | query next ih =>
      exact fun earlier hearlier => ih _ _ (h earlier
        ⟨hfiner _ _ hearlier.evolved, hearlier.locked⟩)
  | write key edit next ih =>
      constructor
      · exact fun earlier hearlier hedit => ih _ (h.1 earlier
          ⟨hfiner _ _ hearlier.evolved, hearlier.locked⟩ hedit)
      · exact fun row hedit => ih _ (h.2 row hedit)

/-- What raises no error of a bad kind. -/
theorem atRaise_of_avoids {bad : ε → Prop} {p : Prog E V ε ρ} (hp : p.Avoids bad)
    (hpost : ∀ error own, ¬ bad error → post error own world) :
    atRaise evolution p post own world := by
  induction p generalizing own with
  | pure result => trivial
  | raise error => exact hpost _ _ hp
  | query next ih => exact fun earlier _ => ih _ _ (hp _ _)
  | write key edit next ih => exact ⟨fun _ _ _ => ih _ (hp _), fun _ _ => ih _ (hp _)⟩

/-- A sequence that raises an error of a bad kind raises it in its first part. -/
theorem atRaise_bind_of_avoids {bad : ε → Prop} {p : Prog E V ε ρ'}
    {rest : ρ' → Prog E V ε ρ} (hp : atRaise evolution p post own world)
    (hrest : ∀ result, (rest result).Avoids bad)
    (hpost : ∀ error own, ¬ bad error → post error own world) :
    atRaise evolution (p >>= rest) post own world :=
  (atRaise_bind p rest).mpr ⟨hp, atCommit_of_forall fun result _ =>
    atRaise_of_avoids (hrest result) hpost⟩

end Prog

open Prog

variable {σ α ι : Type} [DecidableEq ι] {flow : Workflow E V ε σ α} {evolution : Evolution E V}
  {cert : Certificate flow evolution} {raises : σ → ε → Rows V → World E V → Prop}

/-- What an open transaction has seen if it raises. -/
def Warned (evolution : Evolution E V) (raises : σ → ε → Rows V → World E V → Prop)
    (world : World E V) : Phase E V ε σ → Prop
  | .busy state rest own held => ∀ final, Meanwhile evolution held world final →
      rest.atRaise evolution (raises state) own final
  | _ => True

omit [DecidableEq ι] in
theorem Warned.meanwhile {world world' : World E V} {phase : Phase E V ε σ}
    (h : Warned evolution raises world phase)
    (hworld : Meanwhile evolution phase.held world world') :
    Warned evolution raises world' phase := by
  cases phase with
  | idle state => trivial
  | crashed state => trivial
  | busy state rest own held => exact fun final hfinal => h final (hworld.trans hfinal)

theorem warned_setPhase {sys : Sys ι E V ε σ} {client : ι} {phase : Phase E V ε σ}
    (h : ∀ other, Warned evolution raises sys.world (sys.phase other))
    (hphase : Warned evolution raises sys.world phase) (other : ι) :
    Warned evolution raises (sys.setPhase client phase).world
      ((sys.setPhase client phase).phase other) := by
  by_cases hother : other = client
  · subst hother
    simpa [Sys.setPhase] using hphase
  · simpa [Sys.setPhase, hother] using h other

theorem warned_update {world : World E V} {phase : ι → Phase E V ε σ} {client : ι} {after : σ}
    (h : ∀ other, other ≠ client → Warned evolution raises world (phase other)) (other : ι) :
    Warned evolution raises world (Function.update phase client (.idle after) other) := by
  by_cases hother : other = client
  · subst hother
    rw [Function.update_self]
    trivial
  · rw [Function.update_of_ne hother]
    exact h other hother

theorem warned_step {sys sys' : Sys ι E V ε σ} {recorded : List (Event ι V ε σ α)}
    (hgood : cert.Good sys)
    (hcode : ∀ {state p world}, flow.code state = some p → cert.knows state world →
      p.atRaise evolution (raises state) [] world)
    (h : ∀ client, Warned evolution raises sys.world (sys.phase client))
    (hstep : Step flow sys recorded sys') (client : ι) :
    Warned evolution raises sys'.world (sys'.phase client) := by
  cases hstep with
  | «open» opened state p hphase hopened =>
      have hknows := hgood.sound opened
      rw [hphase] at hknows
      apply warned_setPhase h
      exact fun final hfinal => hcode hopened (cert.stable hfinal.evolved hknows)
  | query reading state next own held hphase =>
      have hsound := hgood.sound reading
      have hbefore := h reading
      rw [hphase] at hsound hbefore
      apply warned_setPhase h
      exact fun final hfinal => hbefore final hfinal sys.world (hfinal.weaken hsound.2.1)
  | pass writing state key edit next own held hphase hedit =>
      have hsound := hgood.sound writing
      have hbefore := h writing
      rw [hphase] at hsound hbefore
      apply warned_setPhase h
      exact fun final hfinal => (hbefore final hfinal).1 sys.world
        (hfinal.weaken hsound.2.1) hedit
  | store writing state key edit next own held row hphase hedit hfree =>
      have hbefore := h writing
      rw [hphase] at hbefore
      apply warned_setPhase h
      intro final hfinal
      -- the lock just taken keeps the row as it was seen
      have hseen : Rows.get (own ++ final.rows) key =
          Rows.get (own ++ sys.world.rows) key := by
        by_cases hkey : key ∈ own.keys
        · rw [Rows.get_append_of_mem hkey, Rows.get_append_of_mem hkey]
        · rw [Rows.get_append_of_not_mem hkey, Rows.get_append_of_not_mem hkey]
          exact hfinal.locked key List.mem_cons_self
      have hrest := hbefore final (hfinal.weaken fun _ hkey => List.mem_cons_of_mem _ hkey)
      rw [← hseen]
      exact hrest.2 row (by rw [hseen]; exact hedit)
  | commit committing state after own held hphase =>
      exact warned_update (fun other hother =>
        (h other).meanwhile (hgood.meanwhile_commit hphase hother)) client
  | raised raising state error own held hphase =>
      apply warned_setPhase h
      trivial
  | abort aborting state error rest own held hphase haborts =>
      apply warned_setPhase h
      trivial
  | crash crashing =>
      apply warned_setPhase h
      trivial
  | act acting state after action env hphase houtside =>
      have hknows := hgood.sound acting
      rw [hphase] at hknows
      exact warned_update (fun other _ =>
        (h other).meanwhile ⟨(cert.outside_ok houtside hknows).1, fun _ _ => rfl⟩) client
  | drift env hdrift => exact (h client).meanwhile ⟨cert.drift_ok hdrift, fun _ _ => rfl⟩

/-- A run is a development. -/
theorem Certificate.Good.evolves_run {first last : Sys ι E V ε σ}
    {events : List (Event ι V ε σ α)} (hgood : cert.Good first)
    (hrun : Run flow first events last) : evolution.rel first.world last.world := by
  induction hrun with
  | start => exact evolution.refl _
  | step hbefore hstep ih => exact evolution.trans ih ((hgood.run hbefore).evolves hstep)

/-- In every run, a transaction that raises has seen what its code says. -/
theorem warned_of_run {first last : Sys ι E V ε σ} {events : List (Event ι V ε σ α)}
    (hgood : cert.Good first)
    (hcode : ∀ {state p world}, flow.code state = some p → cert.knows state world →
      p.atRaise evolution (raises state) [] world)
    (hfirst : ∀ client, Warned evolution raises first.world (first.phase client))
    (hrun : Run flow first events last) (client : ι) :
    Warned evolution raises last.world (last.phase client) := by
  induction hrun generalizing client with
  | start => exact hfirst client
  | step hbefore hstep ih => exact warned_step (hgood.run hbefore) hcode ih hstep client

end ReadCommitted
