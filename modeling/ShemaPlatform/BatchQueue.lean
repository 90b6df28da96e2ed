/-
A queue whose entries are taken in batches.  The entries of a batch are worked
through in order up to the first that raises, so that a single entry which
always raises decides about those behind it.
-/
import Mathlib.Data.List.Nodup
import Mathlib.Data.List.TakeWhile
import Mathlib.Order.Lattice

namespace BatchQueue

universe u v w x

variable {α : Type u} {S : Type v} {ε : Type w} {ι : Type x}

/-- The entries in order up to the first that raises; what was done stays. -/
def each (body : α → S → Except ε ℕ × S) : List α → S → Except ε ℕ × S
  | [], state => (.ok 0, state)
  | entry :: rest, state =>
      match (body entry state).1 with
      | .ok count =>
          let outcome := each body rest (body entry state).2
          (outcome.1.map (count + ·), outcome.2)
      | .error error => (.error error, (body entry state).2)

/-- What an entry does to the rest of the batch it stands in, where `name` tells
which of the entries it is. -/
structure Works (body : α → S → Except ε ℕ × S) (name : α → ι) (failing : ι)
    (finished : S → ι → Prop) (ready : List α → S → Prop) (keeps : S → S → Prop) :
    Prop where
  refl : ∀ state, keeps state state
  trans : ∀ {state state' state''}, keeps state state' → keeps state' state'' →
    keeps state state''
  succeeds : ∀ {entry rest state}, name entry ≠ failing → ready (entry :: rest) state →
    (∃ count, (body entry state).1 = .ok count) ∧ ready rest (body entry state).2 ∧
      keeps state (body entry state).2 ∧
      ∀ other, finished (body entry state).2 other ↔
        finished state other ∨ other = name entry
  raises : ∀ {entry rest state}, name entry = failing → ready (entry :: rest) state →
    (∃ error, (body entry state).1 = .error error) ∧ keeps state (body entry state).2 ∧
      ∀ other, finished (body entry state).2 other ↔ finished state other

section Batch

variable {body : α → S → Except ε ℕ × S} {name : α → ι} {failing : ι}
  {finished : S → ι → Prop} {ready : List α → S → Prop} {keeps : S → S → Prop}
  [DecidableEq ι]

/-- What a batch finishes: the entries in front of the one that raises. -/
theorem Works.each (works : Works body name failing finished ready keeps)
    {entries : List α} {state : S} (hready : ready entries state) :
    keeps state (each body entries state).2 ∧
      ∀ other, finished (BatchQueue.each body entries state).2 other ↔
        finished state other ∨ other ∈ (entries.map name).takeWhile (· ≠ failing) := by
  induction entries generalizing state with
  | nil => exact ⟨works.refl state, fun other => by simp [BatchQueue.each]⟩
  | cons entry rest ih =>
      rw [List.map_cons]
      by_cases hfailing : name entry = failing
      · obtain ⟨⟨error, herror⟩, hkeeps, hfinished⟩ := works.raises hfailing hready
        simp only [BatchQueue.each, herror]
        refine ⟨hkeeps, fun other => ?_⟩
        rw [hfinished other, List.takeWhile_cons_of_neg (by simpa using hfailing)]
        simp
      · obtain ⟨⟨count, hcount⟩, hrest, hkeeps, hfinished⟩ := works.succeeds hfailing hready
        obtain ⟨hkeeps', hfinished'⟩ := ih hrest
        simp only [BatchQueue.each, hcount]
        refine ⟨works.trans hkeeps hkeeps', fun other => ?_⟩
        rw [hfinished' other, hfinished other,
          List.takeWhile_cons_of_pos (by simpa using hfailing), List.mem_cons, or_assoc]

/-- In a sorted batch those in front of an entry are those that precede it. -/
theorem mem_takeWhile_iff {precedes : ι → ι → Prop} {entries : List ι}
    (hsorted : entries.Pairwise precedes)
    (hasymm : ∀ a ∈ entries, ∀ b ∈ entries, precedes a b → precedes b a → a = b)
    {other : ι} (hother : other ≠ failing) :
    other ∈ entries.takeWhile (· ≠ failing) ↔
      other ∈ entries ∧ (failing ∈ entries → precedes other failing) := by
  induction entries with
  | nil => simp
  | cons entry rest ih =>
      obtain ⟨hfirst, hrest⟩ := List.pairwise_cons.mp hsorted
      have hih := ih hrest fun a ha b hb =>
        hasymm a (List.mem_cons_of_mem _ ha) b (List.mem_cons_of_mem _ hb)
      by_cases hfailing : entry = failing
      · subst hfailing
        rw [List.takeWhile_cons_of_neg (by simp)]
        constructor
        · intro hmem
          cases hmem
        · rintro ⟨hmem, hprecedes⟩
          have hlater := (List.mem_cons.mp hmem).resolve_left hother
          exact absurd (hasymm other hmem entry List.mem_cons_self
            (hprecedes List.mem_cons_self) (hfirst other hlater)) hother
      · rw [List.takeWhile_cons_of_pos (by simpa using hfailing), List.mem_cons, List.mem_cons,
          List.mem_cons, hih]
        constructor
        · rintro (rfl | ⟨hmem, hprecedes⟩)
          · refine ⟨Or.inl rfl, ?_⟩
            rintro (rfl | hmem)
            · exact absurd rfl hother
            · exact hfirst failing hmem
          · refine ⟨Or.inr hmem, ?_⟩
            rintro (rfl | hmem)
            · exact absurd rfl hfailing
            · exact hprecedes hmem
        · rintro ⟨rfl | hmem, hprecedes⟩
          · exact Or.inl rfl
          · exact Or.inr ⟨hmem, fun h => hprecedes (Or.inr h)⟩

theorem not_mem_takeWhile (entries : List ι) :
    failing ∉ entries.takeWhile (· ≠ failing) := by
  intro hmem
  simpa using List.mem_takeWhile_imp hmem

end Batch

section InOrder

variable {T : Type w} [LinearOrder T] [LinearOrder ι]

/-- In the order of their times and, at one time, of their names. -/
def InOrder (a b : T × ι) : Prop :=
  a.1 < b.1 ∨ (a.1 = b.1 ∧ a.2 ≤ b.2)

theorem InOrder.total (a b : T × ι) : InOrder a b ∨ InOrder b a := by
  rcases lt_trichotomy a.1 b.1 with hlt | heq | hgt
  · exact Or.inl (Or.inl hlt)
  · rcases le_total a.2 b.2 with hle | hle
    · exact Or.inl (Or.inr ⟨heq, hle⟩)
    · exact Or.inr (Or.inr ⟨heq.symm, hle⟩)
  · exact Or.inr (Or.inl hgt)

theorem InOrder.trans {a b c : T × ι} (hab : InOrder a b) (hbc : InOrder b c) :
    InOrder a c := by
  rcases hab with hab | ⟨hab, hab'⟩
  · rcases hbc with hbc | ⟨hbc, _⟩
    · exact Or.inl (hab.trans hbc)
    · exact Or.inl (hbc ▸ hab)
  · rcases hbc with hbc | ⟨hbc, hbc'⟩
    · exact Or.inl (hab ▸ hbc)
    · exact Or.inr ⟨hab.trans hbc, hab'.trans hbc'⟩

theorem InOrder.antisymm {a b : T × ι} (hab : InOrder a b) (hba : InOrder b a) :
    a.2 = b.2 := by
  rcases hab with hab | ⟨hab, hab'⟩
  · rcases hba with hba | ⟨hba, _⟩
    · exact absurd hba (lt_asymm hab)
    · exact absurd hab (hba ▸ lt_irrefl _)
  · rcases hba with hba | ⟨_, hba'⟩
    · exact absurd hba (hab ▸ lt_irrefl _)
    · exact le_antisymm hab' hba'

end InOrder

section Rounds

variable {T : Type w}

/-- What can be seen of a queue: the entries that are finished, and at which
times an entry can be taken. -/
structure View (ι : Type x) (T : Type w) where
  finished : ι → Prop
  due : ι → T → Prop

/-- One batch taken at a time, with the times from which its entries are free
again. -/
structure Round (precedes : ι → ι → Prop) (failing : ι) (later : T → Prop) (time : T)
    (view view' : View ι T) : Prop where
  finished : ∀ entry ≠ failing, view'.finished entry ↔ view.finished entry ∨
    view.due entry time ∧ (view.due failing time → precedes entry failing)
  failing : view'.finished failing ↔ view.finished failing
  due : ∀ entry, ¬ view'.finished entry → ∀ time', later time' →
    (view'.due entry time' ↔ view.due entry time')

variable {failing : ι} {precedes : ι → ι → Prop} {later : T → T → Prop} {time : ℕ → T}
  {view : ℕ → View ι T}

/-- Batches one after the other, each when the one before is free again. -/
structure Rounds (precedes : ι → ι → Prop) (failing : ι) (later : T → T → Prop)
    (time : ℕ → T) (view : ℕ → View ι T) : Prop where
  round : ∀ n, Round precedes failing (later (time n)) (time n) (view n) (view (n + 1))
  later : ∀ {n m}, n < m → later (time n) (time m)
  pending : ¬ (view 0).finished failing

namespace Rounds

variable (rounds : Rounds precedes failing later time view)

include rounds

theorem failing_pending (n : ℕ) : ¬ (view n).finished failing := by
  induction n with
  | zero => exact rounds.pending
  | succ n ih => exact fun h => ih ((rounds.round n).failing.mp h)

theorem finished_succ {entry : ι} (hentry : entry ≠ failing) {n : ℕ}
    (h : (view n).finished entry) : (view (n + 1)).finished entry :=
  ((rounds.round n).finished entry hentry).mpr (Or.inl h)

theorem finished_mono {entry : ι} (hentry : entry ≠ failing) {n m : ℕ} (hle : n ≤ m)
    (h : (view n).finished entry) : (view m).finished entry := by
  induction hle with
  | refl => exact h
  | step _ ih => exact rounds.finished_succ hentry ih

/-- As long as an entry is not finished it is due when it was from the start. -/
theorem due_iff {entry : ι} {n : ℕ} (hpending : ¬ (view n).finished entry) {m : ℕ}
    (hle : n ≤ m) : (view n).due entry (time m) ↔ (view 0).due entry (time m) := by
  induction n with
  | zero => rfl
  | succ n ih =>
      have hbefore : ¬ (view n).finished entry := by
        intro hfinished
        by_cases hentry : entry = failing
        · subst hentry
          exact rounds.failing_pending n hfinished
        · exact hpending (rounds.finished_succ hentry hfinished)
      rw [(rounds.round n).due entry hpending (time m) (rounds.later hle)]
      exact ih hbefore (Nat.le_of_succ_le hle)

/-- When an entry is finished: some batch had it, and not the failing one in
front of it. -/
theorem finished_iff {entry : ι} (hentry : entry ≠ failing)
    (hpending : ¬ (view 0).finished entry) (n : ℕ) :
    (view n).finished entry ↔ ∃ i < n, (view 0).due entry (time i) ∧
      ((view 0).due failing (time i) → precedes entry failing) := by
  induction n with
  | zero => simp [hpending]
  | succ n ih =>
      by_cases hfinished : (view n).finished entry
      · apply iff_of_true (rounds.finished_succ hentry hfinished)
        obtain ⟨i, hi, h⟩ := ih.mp hfinished
        exact ⟨i, Nat.lt_succ_of_lt hi, h⟩
      · rw [(rounds.round n).finished entry hentry,
          rounds.due_iff hfinished (le_refl n),
          rounds.due_iff (rounds.failing_pending n) (le_refl n)]
        constructor
        · rintro (h | h)
          · exact absurd h hfinished
          · exact ⟨n, Nat.lt_succ_self n, h⟩
        · rintro ⟨i, hi, h⟩
          rcases Nat.lt_succ_iff_lt_or_eq.mp hi with hi | rfl
          · exact absurd (ih.mpr ⟨i, hi, h⟩) hfinished
          · exact Or.inr h

/-- All other entries get finished exactly when each of them precedes the failing
one or is due in time without it. -/
theorem all_finished_iff (entries : List ι)
    (hpending : ∀ entry ∈ entries, ¬ (view 0).finished entry)
    (hdue : ∀ entry ∈ entries, ∃ i, (view 0).due entry (time i)) :
    (∃ n, ∀ entry ∈ entries, entry ≠ failing → (view n).finished entry) ↔
      ∀ entry ∈ entries, entry ≠ failing → precedes entry failing ∨
        ∃ i, (view 0).due entry (time i) ∧ ¬ (view 0).due failing (time i) := by
  constructor
  · rintro ⟨n, hall⟩ entry hentry hne
    obtain ⟨i, _, hi, hfront⟩ := (rounds.finished_iff hne (hpending entry hentry) n).mp
      (hall entry hentry hne)
    by_cases hfailing : (view 0).due failing (time i)
    · exact Or.inl (hfront hfailing)
    · exact Or.inr ⟨i, hi, hfailing⟩
  · intro hcondition
    have hone : ∀ entry ∈ entries, entry ≠ failing → ∃ n, (view n).finished entry := by
      intro entry hentry hne
      have hsome : ∃ i, (view 0).due entry (time i) ∧
          ((view 0).due failing (time i) → precedes entry failing) := by
        rcases hcondition entry hentry hne with hfront | ⟨i, hi, hfailing⟩
        · obtain ⟨i, hi⟩ := hdue entry hentry
          exact ⟨i, hi, fun _ => hfront⟩
        · exact ⟨i, hi, fun h => absurd h hfailing⟩
      obtain ⟨i, hi⟩ := hsome
      exact ⟨i + 1, (rounds.finished_iff hne (hpending entry hentry) (i + 1)).mpr
        ⟨i, Nat.lt_succ_self i, hi⟩⟩
    clear hpending hdue hcondition
    induction entries with
    | nil => exact ⟨0, by simp⟩
    | cons first rest ih =>
        obtain ⟨n, hrest⟩ := ih fun entry hentry => hone entry (List.mem_cons_of_mem _ hentry)
        by_cases hfirst : first = failing
        · refine ⟨n, fun entry hentry hne => ?_⟩
          rcases List.mem_cons.mp hentry with rfl | hentry
          · exact absurd hfirst hne
          · exact hrest entry hentry hne
        · obtain ⟨m, hm⟩ := hone first List.mem_cons_self hfirst
          refine ⟨max n m, fun entry hentry hne => ?_⟩
          rcases List.mem_cons.mp hentry with rfl | hentry
          · exact rounds.finished_mono hne (le_max_right n m) hm
          · exact rounds.finished_mono hne (le_max_left n m) (hrest entry hentry hne)

end Rounds

end Rounds

section Spaced

variable {time : ℕ → ℤ} {lease : ℤ}

/-- Batches that are spaced by more than the lease find it run out. -/
theorem le_of_spaced (hlease : 0 ≤ lease) (hspaced : ∀ n, time n + lease < time (n + 1))
    {n m : ℕ} (hlt : n < m) : time n + lease ≤ time m := by
  induction hlt with
  | refl => exact (hspaced n).le
  | @step m _ ih =>
      have hnext := hspaced m
      change time n + lease ≤ time (m + 1)
      omega

/-- They go on for ever. -/
theorem reaches_of_spaced (hlease : 0 < lease) (hspaced : ∀ n, time n + lease < time (n + 1))
    (moment : ℤ) : ∃ n, moment ≤ time n := by
  have hgrows : ∀ n : ℕ, time 0 + n ≤ time n := by
    intro n
    induction n with
    | zero => simp
    | succ n ih =>
        have hnext := hspaced n
        push_cast
        omega
  refine ⟨(moment - time 0).toNat, le_trans ?_ (hgrows _)⟩
  omega

end Spaced

section Table

variable {R : Type v} {T : Type w}

/-- A queue kept as rows by name, of which some are done and some free to be
taken at a time. -/
structure Table (S : Type v) (ι : Type x) (R : Type v) (T : Type w) where
  row : S → ι → Option R
  done : R → Bool
  free : T → R → Bool

/-- What can be seen of it. -/
def Table.view (table : Table S ι R T) (state : S) : View ι T where
  finished name := ∃ row, table.row state name = some row ∧ table.done row = true
  due name time := ∃ row, table.row state name = some row ∧ table.free time row = true

variable {table : Table S ι R T} {precedes : ι → ι → Prop} {failing : ι}
  {state claimed state' : S} {time : T} {later : T → Prop} {batch : List ι}
  [DecidableEq ι]

variable (table) in
/-- A claim of what is due, after which a part of it is finished, is a round. -/
theorem Table.round
    (hdone : ∀ {row}, table.free time row = true → table.done row = false)
    (hlater : ∀ {row time'}, later time' → table.free time row = true →
      table.free time' row = true)
    (htaken : ∀ {name row}, table.row state name = some row → table.free time row = true →
      ∃ row', table.row claimed name = some row' ∧ table.done row' = false ∧
        ∀ time', later time' → table.free time' row' = true)
    (hleft : ∀ {name}, ¬ (table.view state).due name time →
      table.row claimed name = table.row state name)
    (hsorted : batch.Pairwise precedes)
    (hantisymm : ∀ {first second}, precedes first second → precedes second first →
      first = second)
    (hbatch : ∀ name, name ∈ batch ↔ (table.view state).due name time)
    (hfinished : ∀ name, (table.view state').finished name ↔
      (table.view claimed).finished name ∨ name ∈ batch.takeWhile (· ≠ failing))
    (hpending : ∀ {name}, ¬ (table.view state').finished name →
      table.row state' name = table.row claimed name) :
    Round precedes failing later time (table.view state) (table.view state') := by
  have hclaimed : ∀ name, (table.view claimed).finished name ↔
      (table.view state).finished name := by
    intro name
    by_cases hdue : (table.view state).due name time
    · obtain ⟨row, hrow, hfree⟩ := hdue
      obtain ⟨row', hrow', hopen, _⟩ := htaken hrow hfree
      apply iff_of_false
      · rintro ⟨found, hfound, hfoundDone⟩
        obtain rfl := Option.some.inj (hrow'.symm.trans hfound)
        rw [hopen] at hfoundDone
        cases hfoundDone
      · rintro ⟨found, hfound, hfoundDone⟩
        obtain rfl := Option.some.inj (hrow.symm.trans hfound)
        rw [hdone hfree] at hfoundDone
        cases hfoundDone
    · simp only [Table.view, hleft hdue]
  constructor
  · intro name hname
    rw [hfinished, hclaimed, mem_takeWhile_iff hsorted (fun _ _ _ _ h h' => hantisymm h h')
      hname, hbatch, hbatch]
  · rw [hfinished, hclaimed]
    exact or_iff_left (not_mem_takeWhile _)
  · intro name hopen time' htime
    by_cases hdue : (table.view state).due name time
    · obtain ⟨row, hrow, hfree⟩ := hdue
      obtain ⟨row', hrow', _, hagain⟩ := htaken hrow hfree
      apply iff_of_true
      · exact ⟨row', (hpending hopen).trans hrow', hagain time' htime⟩
      · exact ⟨row, hrow, hlater htime hfree⟩
    · simp only [Table.view, hpending hopen, hleft hdue]

end Table

end BatchQueue
