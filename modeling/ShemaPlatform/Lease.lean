/-
Leases on one item of work.  A worker is granted the item until some expiry,
may extend or release it before that, and loses it to the next grant once it
has lapsed.  Every grant hands out a higher turn than the one before.
-/
import Mathlib.Data.List.Pairwise
import Mathlib.Order.Lattice

namespace Lease

variable {W T : Type}

/-- The last turn handed out, and who holds the item until when. -/
structure Slot (W T : Type) where
  turn : ℕ
  held : Option (W × T)

inductive Act (W T : Type) where
  | grant (worker : W) (turn : ℕ) (now expiry : T)
  | extend (worker : W) (now expiry : T)
  | release (worker : W) (turn : ℕ) (now : T)

def Act.now : Act W T → T
  | .grant _ _ now _ => now
  | .extend _ now _ => now
  | .release _ _ now => now

/-- The turn of a grant. -/
def Act.granted : Act W T → Option ℕ
  | .grant _ turn _ _ => some turn
  | _ => none

/-- The turn of a release. -/
def Act.released : Act W T → Option ℕ
  | .release _ turn _ => some turn
  | _ => none

section Views

variable [DecidableEq W]

/-- The expiry a worker was last told, unless it has released since.  Acts are
listed newest first. -/
def believed : List (Act W T) → W → Option T
  | [], _ => none
  | .grant actor _ _ expiry :: rest, worker =>
      if actor = worker then some expiry else believed rest worker
  | .extend actor _ expiry :: rest, worker =>
      if actor = worker then some expiry else believed rest worker
  | .release actor _ _ :: rest, worker =>
      if actor = worker then none else believed rest worker

/-- Who got the last grant, and its turn. -/
def lastGrant : List (Act W T) → Option (W × ℕ)
  | [] => none
  | .grant worker turn _ _ :: _ => some (worker, turn)
  | .extend _ _ _ :: rest => lastGrant rest
  | .release _ _ _ :: rest => lastGrant rest

end Views

variable [LinearOrder T]

/-- The boundaries of the three acts are complementary: an item may be granted
from its expiry on, and extended or released strictly before. -/
inductive Step : Slot W T → Act W T → Slot W T → Prop where
  | grant {slot : Slot W T} {worker : W} {turn : ℕ} {now expiry : T}
      (hlapsed : ∀ holder ∈ slot.held, holder.2 ≤ now)
      (hturn : slot.turn < turn) :
      Step slot (.grant worker turn now expiry) ⟨turn, some (worker, expiry)⟩
  | extend {turn : ℕ} {worker : W} {now expiry expiry' : T}
      (hlive : now < expiry) :
      Step ⟨turn, some (worker, expiry)⟩ (.extend worker now expiry')
        ⟨turn, some (worker, expiry')⟩
  | release {turn : ℕ} {worker : W} {now expiry : T} (hlive : now < expiry) :
      Step ⟨turn, some (worker, expiry)⟩ (.release worker turn now) ⟨turn, none⟩

section Inversion

variable {slot slot' : Slot W T} {worker : W} {turn : ℕ} {now expiry : T}

theorem Step.after_grant (hstep : Step slot (.grant worker turn now expiry) slot') :
    slot' = ⟨turn, some (worker, expiry)⟩ := by
  cases hstep with
  | grant _ _ => rfl

theorem Step.around_extend (hstep : Step slot (.extend worker now expiry) slot') :
    slot' = ⟨slot.turn, some (worker, expiry)⟩ ∧
      ∃ held, slot.held = some (worker, held) ∧ now < held := by
  cases hstep with
  | extend hlive => exact ⟨rfl, _, rfl, hlive⟩

theorem Step.around_release (hstep : Step slot (.release worker turn now) slot') :
    slot' = ⟨turn, none⟩ ∧ slot.turn = turn ∧
      ∃ held, slot.held = some (worker, held) ∧ now < held := by
  cases hstep with
  | release hlive => exact ⟨rfl, rfl, _, rfl, hlive⟩

end Inversion

/-- What happened to an item since nobody held it, newest act first. -/
inductive History : List (Act W T) → Slot W T → Prop where
  | start (turn : ℕ) : History [] ⟨turn, none⟩
  | step {acts : List (Act W T)} {act : Act W T} {slot slot' : Slot W T}
      (hhistory : History acts slot) (hstep : Step slot act slot') :
      History (act :: acts) slot'

section Holding

variable [DecidableEq W] {acts : List (Act W T)} {slot : Slot W T}
  {worker worker' : W} {now expiry expiry' : T}

/-- The holder knows its lease. -/
theorem History.believed_of_held (hhistory : History acts slot)
    (hheld : slot.held = some (worker, expiry)) :
    believed acts worker = some expiry := by
  induction hhistory with
  | start turn => simp at hheld
  | step _ hstep _ =>
      cases hstep with
      | grant _ _ =>
          obtain ⟨rfl, rfl⟩ := Prod.mk.inj (Option.some.inj hheld)
          simp [believed]
      | extend _ =>
          obtain ⟨rfl, rfl⟩ := Prod.mk.inj (Option.some.inj hheld)
          simp [believed]
      | release _ => simp at hheld

/-- A lease a worker still believes in is its own, or some act has seen it
lapse. -/
theorem History.held_or_lapsed (hhistory : History acts slot)
    (hbelieved : believed acts worker = some expiry) :
    slot.held = some (worker, expiry) ∨ ∃ act ∈ acts, expiry ≤ act.now := by
  induction hhistory with
  | start turn => simp [believed] at hbelieved
  | @step acts act slot slot' hhistory hstep ih =>
      have hearlier : believed acts worker = some expiry →
          slot.held = some (worker, expiry) ∨
            ∃ later ∈ act :: acts, expiry ≤ later.now := by
        intro hbefore
        rcases ih hbefore with hheld | ⟨earlier, hmem, hle⟩
        · exact Or.inl hheld
        · exact Or.inr ⟨earlier, List.mem_cons_of_mem _ hmem, hle⟩
      cases hstep with
      | @grant _ actor turn _ _ hlapsed _ =>
          by_cases hsame : actor = worker
          · subst hsame
            left
            simpa [believed] using hbelieved
          · right
            rcases hearlier (by simpa [believed, hsame] using hbelieved) with
              hheld | hlater
            · exact ⟨_, List.mem_cons_self, hlapsed _ hheld⟩
            · exact hlater
      | @extend _ actor _ _ _ _ =>
          by_cases hsame : actor = worker
          · subst hsame
            left
            simpa [believed] using hbelieved
          · rcases hearlier (by simpa [believed, hsame] using hbelieved) with
              hheld | hlater
            · simp [hsame] at hheld
            · exact Or.inr hlater
      | @release _ actor _ _ _ =>
          by_cases hsame : actor = worker
          · simp [believed, hsame] at hbelieved
          · rcases hearlier (by simpa [believed, hsame] using hbelieved) with
              hheld | hlater
            · simp [hsame] at hheld
            · exact Or.inr hlater

/-- At a moment no act is ahead of, an unexpired lease a worker believes in is
the one on record. -/
theorem History.held_of_believed (hhistory : History acts slot)
    (hclock : ∀ act ∈ acts, act.now ≤ now)
    (hbelieved : believed acts worker = some expiry) (hlive : now < expiry) :
    slot.held = some (worker, expiry) := by
  rcases hhistory.held_or_lapsed hbelieved with hheld | ⟨act, hmem, hle⟩
  · exact hheld
  · exact absurd (hle.trans (hclock act hmem)) (not_le.mpr hlive)

/-- At most one worker has an unexpired lease. -/
theorem History.exclusive (hhistory : History acts slot)
    (hclock : ∀ act ∈ acts, act.now ≤ now)
    (hbelieved : believed acts worker = some expiry) (hlive : now < expiry)
    (hbelieved' : believed acts worker' = some expiry')
    (hlive' : now < expiry') : worker = worker' := by
  have hheld := hhistory.held_of_believed hclock hbelieved hlive
  have hheld' := hhistory.held_of_believed hclock hbelieved' hlive'
  rw [hheld] at hheld'
  exact (Prod.mk.inj (Option.some.inj hheld')).1

omit [DecidableEq W] in
/-- Whoever holds the item got the last grant. -/
theorem History.lastGrant_of_held (hhistory : History acts slot)
    (hheld : slot.held = some (worker, expiry)) :
    lastGrant acts = some (worker, slot.turn) := by
  induction hhistory generalizing expiry with
  | start turn => simp at hheld
  | step _ hstep ih =>
      cases hstep with
      | grant _ _ =>
          obtain ⟨rfl, rfl⟩ := Prod.mk.inj (Option.some.inj hheld)
          rfl
      | extend _ =>
          obtain ⟨rfl, rfl⟩ := Prod.mk.inj (Option.some.inj hheld)
          exact ih rfl
      | release _ => simp at hheld

end Holding

section Turns

variable {acts : List (Act W T)} {slot : Slot W T}

theorem History.granted_le (hhistory : History acts slot) :
    ∀ turn ∈ acts.filterMap Act.granted, turn ≤ slot.turn := by
  induction hhistory with
  | start turn => simp
  | step _ hstep ih =>
      cases hstep with
      | grant _ hturn =>
          intro turn hmem
          simp only [List.filterMap_cons, Act.granted, List.mem_cons] at hmem
          rcases hmem with rfl | hmem
          · exact le_refl _
          · exact (ih turn hmem).trans hturn.le
      | extend _ => exact ih
      | release _ => exact ih

/-- Turns are handed out in strictly increasing order. -/
theorem History.granted_increasing (hhistory : History acts slot) :
    (acts.filterMap Act.granted).Pairwise (· > ·) := by
  induction hhistory with
  | start turn => simp
  | step hhistory hstep ih =>
      cases hstep with
      | grant _ hturn =>
          simp only [List.filterMap_cons, Act.granted, List.pairwise_cons]
          constructor
          · intro turn hmem
            exact (hhistory.granted_le turn hmem).trans_lt hturn
          · exact ih
      | extend _ => exact ih
      | release _ => exact ih

/-- A released turn is behind the item, and while somebody holds the item it
is behind the holder's. -/
theorem History.released_lt (hhistory : History acts slot) :
    ∀ turn ∈ acts.filterMap Act.released,
      turn ≤ slot.turn ∧ (slot.held ≠ none → turn < slot.turn) := by
  induction hhistory with
  | start turn => simp
  | step _ hstep ih =>
      cases hstep with
      | grant _ hturn =>
          intro turn hmem
          have hbehind := (ih turn hmem).1.trans_lt hturn
          exact ⟨hbehind.le, fun _ => hbehind⟩
      | extend _ =>
          intro turn hmem
          exact ⟨(ih turn hmem).1, fun _ => (ih turn hmem).2 (by simp)⟩
      | release _ =>
          intro turn hmem
          simp only [List.filterMap_cons, Act.released, List.mem_cons] at hmem
          rcases hmem with rfl | hmem
          · exact ⟨le_refl _, fun hheld => absurd rfl hheld⟩
          · exact ⟨(ih turn hmem).1, fun hheld => absurd rfl hheld⟩

/-- No turn is released twice. -/
theorem History.released_increasing (hhistory : History acts slot) :
    (acts.filterMap Act.released).Pairwise (· > ·) := by
  induction hhistory with
  | start turn => simp
  | step hhistory hstep ih =>
      cases hstep with
      | grant _ _ => exact ih
      | extend _ => exact ih
      | release _ =>
          simp only [List.filterMap_cons, Act.released, List.pairwise_cons]
          constructor
          · intro turn hmem
            exact (hhistory.released_lt turn hmem).2 (by simp)
          · exact ih

end Turns

end Lease
