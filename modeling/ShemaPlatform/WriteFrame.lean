/-
Which rows a transaction can write, whatever it reads and however others
interleave with it.
-/
import ShemaPlatform.Interference

namespace ReadCommitted

namespace Prog

variable {E K : Type} {V : K → Type} {ε ρ ρ' : Type} {kind kind' : K → Prop}

/-- No course of the transaction writes a row of another kind. -/
def WritesOnly (kind : K → Prop) : Prog E V ε ρ → Prop
  | .pure _ => True
  | .raise _ => True
  | .query next => ∀ env rows, (next env rows).WritesOnly kind
  | .write key _ next => kind key ∧ ∀ seen, (next seen).WritesOnly kind

namespace WritesOnly

theorem mono (hkind : ∀ key, kind key → kind' key) {p : Prog E V ε ρ}
    (hp : p.WritesOnly kind) : p.WritesOnly kind' := by
  induction p with
  | pure result => trivial
  | raise error => trivial
  | query next ih => exact fun env rows => ih env rows (hp env rows)
  | write key edit next ih => exact ⟨hkind key hp.1, fun seen => ih seen (hp.2 seen)⟩

theorem bind {p : Prog E V ε ρ} {rest : ρ → Prog E V ε ρ'} (hp : p.WritesOnly kind)
    (hrest : ∀ result, (rest result).WritesOnly kind) :
    (p >>= rest).WritesOnly kind := by
  induction p with
  | pure result => exact hrest result
  | raise error => trivial
  | query next ih => exact fun env rows => ih env rows (hp env rows)
  | write key edit next ih => exact ⟨hp.1, fun seen => ih seen (hp.2 seen)⟩

theorem pure (result : ρ) : (Pure.pure result : Prog E V ε ρ).WritesOnly kind := trivial

theorem raise (error : ε) : (raise error : Prog E V ε ρ).WritesOnly kind := trivial

theorem lift (outcome : Except ε ρ) : (lift outcome : Prog E V ε ρ).WritesOnly kind := by
  cases outcome with
  | ok result => trivial
  | error error => trivial

variable {key : K}

theorem select [DecidableEq K] (key : K) : (select key : Prog E V ε _).WritesOnly kind :=
  fun _ _ => trivial

theorem scan (f : Rows V → ρ) : (scan f : Prog E V ε ρ).WritesOnly kind :=
  fun _ _ => trivial

theorem selectForUpdate (hkey : kind key) :
    (selectForUpdate key : Prog E V ε _).WritesOnly kind :=
  ⟨hkey, fun _ => trivial⟩

theorem insertNew (hkey : kind key) (row : V key) :
    (insertNew key row : Prog E V ε Bool).WritesOnly kind :=
  ⟨hkey, fun _ => trivial⟩

theorem insert (hkey : kind key) (row : V key) (duplicate : ε) :
    (insert key row duplicate : Prog E V ε Unit).WritesOnly kind := by
  refine ⟨hkey, ?_⟩
  rintro (_ | existing)
  · trivial
  · trivial

theorem updateWhere (hkey : kind key) (change : V key → Option (V key)) :
    (updateWhere key change : Prog E V ε _).WritesOnly kind :=
  ⟨hkey, fun _ => trivial⟩

theorem upsertWhere (hkey : kind key) (row : V key) (change : V key → Option (V key)) :
    (upsertWhere key row change : Prog E V ε _).WritesOnly kind :=
  ⟨hkey, fun _ => trivial⟩

theorem delete (hkey : kind key) : (delete key : Prog E V ε _).WritesOnly kind :=
  ⟨hkey, fun _ => trivial⟩

theorem store (hkey : kind key) (row : Option (V key) → Option (V key)) :
    (store key row : Prog E V ε Unit).WritesOnly kind :=
  ⟨hkey, fun _ => trivial⟩

variable [DecidableEq K] {evolution : Evolution E V} {own : Rows V} {world : World E V}

/-- Whatever rows of that kind have been written by the commit. -/
theorem atCommit_written {p : Prog E V ε ρ} {post : ρ → Rows V → World E V → Prop}
    (hp : p.WritesOnly kind)
    (h : ∀ result written, Rows.Only kind written → post result (written ++ own) world) :
    p.atCommit evolution post own world := by
  induction p generalizing own with
  | pure result => exact h result [] Rows.only_nil
  | raise error => trivial
  | query next ih => exact fun earlier _ => ih _ _ (hp _ _) h
  | write key edit next ih =>
      constructor
      · intro earlier _ _
        exact ih _ (hp.2 _) h
      · intro row _
        apply ih _ (hp.2 _)
        intro result written hwritten
        have hboth := h result (written ++ [⟨key, row⟩])
          (Rows.only_append.mpr ⟨hwritten, Rows.only_cons.mpr ⟨hp.1, Rows.only_nil⟩⟩)
        rw [List.append_assoc] at hboth
        exact hboth

/-- What has been written by the commit is of that kind. -/
theorem atCommit {p : Prog E V ε ρ} (hp : p.WritesOnly kind) (hown : own.Only kind) :
    p.atCommit evolution (fun _ own _ => own.Only kind) own world :=
  hp.atCommit_written fun _ _ hwritten => Rows.only_append.mpr ⟨hwritten, hown⟩

/-- What writes nothing establishes what every result of it does. -/
theorem atCommit_reads {p : Prog E V ε ρ} {post : ρ → Rows V → World E V → Prop}
    (hp : p.WritesOnly fun _ => False) (h : ∀ result, post result own world) :
    p.atCommit evolution post own world := by
  apply hp.atCommit_written
  intro result written hwritten
  cases written with
  | nil => exact h result
  | cons entry rest => exact (Rows.only_cons.mp hwritten).1.elim

end WritesOnly

end Prog

end ReadCommitted
