/-
What a transaction makes of single rows, whatever it reads and however others
interleave with it: every row goes through a chain of changes it allows.
-/
import ShemaPlatform.WorkflowRun
import ShemaPlatform.WriteFrame

namespace ReadCommitted

namespace Prog

variable {E K : Type} {V : K → Type} {ε ρ ρ' : Type}

/-- Every row that is written becomes what the transaction may make of the one
that it finds. -/
def Changes (change : ∀ key, Option (V key) → Option (V key) → Prop) : Prog E V ε ρ → Prop
  | .pure _ => True
  | .raise _ => True
  | .query next => ∀ env rows, (next env rows).Changes change
  | .write key edit next =>
      (∀ seen row, edit seen = some row → change key seen row) ∧
        ∀ seen, (next seen).Changes change

variable {change change' : ∀ key, Option (V key) → Option (V key) → Prop}

namespace Changes

theorem mono {p : Prog E V ε ρ} (hp : p.Changes change)
    (hchange : ∀ key seen row, change key seen row → change' key seen row) :
    p.Changes change' := by
  induction p with
  | pure result => trivial
  | raise error => trivial
  | query next ih => exact fun env rows => ih env rows (hp env rows)
  | write key edit next ih =>
      constructor
      · exact fun seen row hedit => hchange key seen row (hp.1 seen row hedit)
      · exact fun seen => ih seen (hp.2 seen)

theorem bind {p : Prog E V ε ρ} {rest : ρ → Prog E V ε ρ'} (hp : p.Changes change)
    (hrest : ∀ result, (rest result).Changes change) : (p >>= rest).Changes change := by
  induction p with
  | pure result => exact hrest result
  | raise error => trivial
  | query next ih => exact fun env rows => ih env rows (hp env rows)
  | write key edit next ih => exact ⟨hp.1, fun seen => ih seen (hp.2 seen)⟩

theorem pure (result : ρ) : (Pure.pure result : Prog E V ε ρ).Changes change := trivial

theorem raise (error : ε) : (raise error : Prog E V ε ρ).Changes change := trivial

theorem lift (outcome : Except ε ρ) : (lift outcome : Prog E V ε ρ).Changes change := by
  cases outcome with
  | ok result => trivial
  | error error => trivial

/-- What writes rows of one kind only, where any change is allowed. -/
theorem of_writesOnly {kind : K → Prop} {p : Prog E V ε ρ} (hp : p.WritesOnly kind)
    (hkind : ∀ key, kind key → ∀ seen row, change key seen row) : p.Changes change := by
  induction p with
  | pure result => trivial
  | raise error => trivial
  | query next ih => exact fun env rows => ih env rows (hp env rows)
  | write key edit next ih =>
      constructor
      · exact fun seen row _ => hkind key hp.1 seen row
      · exact fun seen => ih seen (hp.2 seen)

/-- What writes nothing. -/
theorem of_reads {p : Prog E V ε ρ} (hp : p.WritesOnly fun _ => False) :
    p.Changes change :=
  of_writesOnly hp fun _ hfalse => hfalse.elim

variable {key : K}

theorem scan (f : Rows V → ρ) : (scan f : Prog E V ε ρ).Changes change :=
  fun _ _ => trivial

theorem query (f : E → Rows V → ρ) :
    (.query fun env rows => .pure (f env rows) : Prog E V ε ρ).Changes change :=
  fun _ _ => trivial

theorem insertNew {row : V key} (h : change key none (some row)) :
    (insertNew key row : Prog E V ε Bool).Changes change := by
  constructor
  · intro seen stored hedit
    cases seen with
    | none => exact Option.some.inj hedit ▸ h
    | some existing => cases hedit
  · exact fun _ => trivial

theorem insert {row : V key} (h : change key none (some row)) (duplicate : ε) :
    (insert key row duplicate : Prog E V ε Unit).Changes change := by
  constructor
  · intro seen stored hedit
    cases seen with
    | none => exact Option.some.inj hedit ▸ h
    | some existing => cases hedit
  · rintro (_ | existing)
    · trivial
    · trivial

theorem updateWhere {alter : V key → Option (V key)}
    (h : ∀ row row', alter row = some row' → change key (some row) (some row')) :
    (updateWhere key alter : Prog E V ε _).Changes change := by
  constructor
  · intro seen stored hedit
    obtain ⟨row', hrow', rfl⟩ := Option.map_eq_some_iff.mp hedit
    obtain ⟨row, rfl, halter⟩ := Option.bind_eq_some_iff.mp hrow'
    exact h row row' halter
  · exact fun _ => trivial

theorem delete (h : ∀ seen, change key seen none) :
    (delete key : Prog E V ε _).Changes change := by
  constructor
  · intro seen stored hedit
    exact Option.some.inj hedit ▸ h seen
  · exact fun _ => trivial

variable [DecidableEq K] {evolution : Evolution E V} {own : Rows V} {world : World E V}

/-- At the commit every row is what a chain of such changes made of it. -/
theorem atCommit {p : Prog E V ε ρ} (hp : p.Changes change)
    (htrans : ∀ key a b c, change key a b → change key b c → change key a c)
    (hown : ∀ key, change key (world.rows.get key) (Rows.get (own ++ world.rows) key)) :
    p.atCommit evolution (fun _ own world => ∀ key,
      change key (world.rows.get key) (Rows.get (own ++ world.rows) key)) own world := by
  induction p generalizing own with
  | pure result => exact hown
  | raise error => trivial
  | query next ih => exact fun earlier _ => ih _ _ (hp _ _) hown
  | write key edit next ih =>
      constructor
      · exact fun earlier _ _ => ih _ (hp.2 _) hown
      · intro row hedit
        apply ih _ (hp.2 _)
        intro other
        by_cases hother : key = other
        · subst hother
          rw [List.cons_append, Rows.get_cons_self]
          exact htrans key _ _ _ (hown key) (hp.1 _ _ hedit)
        · rw [List.cons_append, Rows.get_cons_ne hother]
          exact hown other

end Changes

section AtCommit

variable [DecidableEq K] {evolution finer : Evolution E V} {own : Rows V} {world : World E V}
  {p : Prog E V ε ρ} {post post' : ρ → Rows V → World E V → Prop}

/-- What is established in two ways. -/
theorem atCommit_and (h : p.atCommit evolution post own world)
    (h' : p.atCommit evolution post' own world) :
    p.atCommit evolution (fun result own world =>
      post result own world ∧ post' result own world) own world := by
  induction p generalizing own with
  | pure result => exact ⟨h, h'⟩
  | raise error => trivial
  | query next ih => exact fun earlier hearlier => ih _ _ (h earlier hearlier) (h' earlier hearlier)
  | write key edit next ih =>
      constructor
      · exact fun earlier hearlier hedit =>
          ih _ (h.1 earlier hearlier hedit) (h'.1 earlier hearlier hedit)
      · exact fun row hedit => ih _ (h.2 row hedit) (h'.2 row hedit)

/-- The fewer ways the others can take, the more is established. -/
theorem atCommit_of_finer (hfiner : ∀ a b, finer.rel a b → evolution.rel a b)
    (h : p.atCommit evolution post own world) : p.atCommit finer post own world := by
  induction p generalizing own with
  | pure result => exact h
  | raise error => trivial
  | query next ih =>
      exact fun earlier hearlier => ih _ _ (h earlier
        ⟨hfiner _ _ hearlier.evolved, hearlier.locked⟩)
  | write key edit next ih =>
      constructor
      · exact fun earlier hearlier hedit => ih _ (h.1 earlier
          ⟨hfiner _ _ hearlier.evolved, hearlier.locked⟩ hedit)
      · exact fun row hedit => ih _ (h.2 row hedit)

end AtCommit

end Prog

/-- An evolution that keeps an invariant besides, in both directions: a world that comes
to meet it has met it before. -/
def Evolution.keeping {E K : Type} {V : K → Type} (evolution : Evolution E V)
    (inv : World E V → Prop) : Evolution E V where
  rel world world' := evolution.rel world world' ∧ (inv world ↔ inv world')
  refl world := ⟨evolution.refl world, Iff.rfl⟩
  trans hab hbc := ⟨evolution.trans hab.1 hbc.1, hab.2.trans hbc.2⟩

/-- Only some of the actions are taken outside. -/
def Workflow.restrict {E K : Type} {V : K → Type} {ε σ α : Type} (flow : Workflow E V ε σ α)
    (allowed : σ → α → σ → Prop) : Workflow E V ε σ α :=
  { flow with
    outside := fun state env action after env' =>
      flow.outside state env action after env' ∧ allowed state action after }

/-- A run is one of the actions that it has taken. -/
theorem Run.restrict {E K : Type} {V : K → Type} {ε σ α ι : Type} [DecidableEq K]
    [DecidableEq ι] {flow : Workflow E V ε σ α} {allowed : σ → α → σ → Prop}
    {first last : Sys ι E V ε σ} {events : List (Event ι V ε σ α)}
    (hrun : Run flow first events last)
    (hallowed : ∀ client before action after,
      Event.acted client before action after ∈ events → allowed before action after) :
    Run (flow.restrict allowed) first events last := by
  induction hrun with
  | start => exact .start
  | @step events recorded sys sys' hrun hstep ih =>
      have hbefore := ih fun client before action after hmem =>
        hallowed client before action after (List.mem_append_left _ hmem)
      apply hbefore.step
      cases hstep with
      | «open» client state p hphase hcode => exact .open sys client state p hphase hcode
      | query client state next own held hphase =>
          exact .query sys client state next own held hphase
      | pass client state key edit next own held hphase hedit =>
          exact .pass sys client state key edit next own held hphase hedit
      | store client state key edit next own held row hphase hedit hfree =>
          exact .store sys client state key edit next own held row hphase hedit hfree
      | commit client state after own held hphase =>
          exact .commit sys client state after own held hphase
      | raised client state error own held hphase =>
          exact .raised sys client state error own held hphase
      | abort client state error rest own held hphase haborts =>
          exact .abort sys client state error rest own held hphase haborts
      | crash client => exact .crash sys client
      | act client state after action env hphase houtside =>
          exact .act sys client state after action env hphase ⟨houtside,
            hallowed client state action after
              (List.mem_append_right _ (List.mem_singleton_self _))⟩
      | drift env hdrift => exact .drift sys env hdrift

end ReadCommitted
