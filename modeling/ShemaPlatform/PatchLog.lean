/-
Logs of field changes.  Each entry lists the fields in which a new state
differs from a base state; the log is faithful exactly when every base was the
state the log had reached.
-/
import Mathlib.Data.Fintype.Pi
import Mathlib.Data.List.Basic
import Mathlib.Logic.Function.Basic

namespace PatchLog

universe u v

variable {F : Type u} {V : Type v}

/-- One field with its value on either side. -/
structure Change (F : Type u) (V : Type v) where
  field : F
  before : V
  after : V
deriving DecidableEq

section Diff

variable [DecidableEq V]

/-- The listed fields in which two states differ. -/
def diff (fields : List F) (base new : F → V) : List (Change F V) :=
  fields.filterMap fun field =>
    if base field = new field then none else some ⟨field, base field, new field⟩

theorem mem_diff {fields : List F} {base new : F → V} {change : Change F V} :
    change ∈ diff fields base new ↔ change.field ∈ fields ∧
      base change.field ≠ new change.field ∧
      change.before = base change.field ∧ change.after = new change.field := by
  simp only [diff, List.mem_filterMap]
  constructor
  · rintro ⟨field, hfield, hchange⟩
    split_ifs at hchange with hsame
    obtain rfl := Option.some.inj hchange
    exact ⟨hfield, hsame, rfl, rfl⟩
  · rintro ⟨hfield, hdiffer, hbefore, hafter⟩
    refine ⟨change.field, hfield, ?_⟩
    rw [if_neg hdiffer, ← hbefore, ← hafter]

theorem diff_eq_nil_iff {fields : List F} (hfields : ∀ field, field ∈ fields)
    {base new : F → V} : diff fields base new = [] ↔ base = new := by
  constructor
  · intro hnil
    funext field
    by_contra hdiffer
    have hmem : (⟨field, base field, new field⟩ : Change F V) ∈
        diff fields base new := mem_diff.mpr ⟨hfields field, hdiffer, rfl, rfl⟩
    rw [hnil] at hmem
    exact List.not_mem_nil hmem
  · rintro rfl
    rw [List.eq_nil_iff_forall_not_mem]
    intro change hchange
    exact (mem_diff.mp hchange).2.1 rfl

end Diff

section Replay

variable [DecidableEq F]

/-- A state after one entry of the log. -/
def patched (state : F → V) (changes : List (Change F V)) : F → V :=
  changes.foldl (fun state change =>
    Function.update state change.field change.after) state

/-- The entries in order lead from one state to another, and each names the
values it replaces. -/
def Replays : (F → V) → List (List (Change F V)) → (F → V) → Prop
  | state, [], last => state = last
  | state, changes :: rest, last =>
      (∀ change ∈ changes, change.before = state change.field) ∧
        Replays (patched state changes) rest last

instance Replays.decidable [DecidableEq V] [Fintype F] : (state : F → V) →
    (log : List (List (Change F V))) → (last : F → V) → Decidable (Replays state log last)
  | state, [], last => inferInstanceAs (Decidable (state = last))
  | state, changes :: rest, last =>
      have := Replays.decidable (patched state changes) rest last
      inferInstanceAs (Decidable
        ((∀ change ∈ changes, change.before = state change.field) ∧ _))

/-- An entry without changes is not written. -/
def record (log : List (List (Change F V))) (changes : List (Change F V)) :
    List (List (Change F V)) :=
  if changes.isEmpty then log else log ++ [changes]

variable {first last : F → V} {log : List (List (Change F V))}

theorem Replays.unique {last' : F → V} (h : Replays first log last)
    (h' : Replays first log last') : last = last' := by
  induction log generalizing first with
  | nil => exact h.symm.trans h'
  | cons changes rest ih => exact ih h.2 h'.2

theorem replays_concat {changes : List (Change F V)} :
    Replays first (log ++ [changes]) last ↔ ∃ reached, Replays first log reached ∧
      (∀ change ∈ changes, change.before = reached change.field) ∧
        patched reached changes = last := by
  induction log generalizing first with
  | nil => simp [Replays]
  | cons entry rest ih =>
      rw [List.cons_append, Replays, ih]
      constructor
      · rintro ⟨hentry, reached, hrest, hlast⟩
        exact ⟨reached, ⟨hentry, hrest⟩, hlast⟩
      · rintro ⟨reached, ⟨hentry, hrest⟩, hlast⟩
        exact ⟨hentry, reached, hrest, hlast⟩

variable [DecidableEq V] {fields : List F}

theorem patched_diff (state base new : F → V) (field : F) :
    patched state (diff fields base new) field =
      if field ∈ fields ∧ base field ≠ new field then new field else state field := by
  induction fields generalizing state with
  | nil => simp [diff, patched]
  | cons head rest ih =>
      by_cases hsame : base head = new head
      · have hskip : diff (head :: rest) base new = diff rest base new := by
          simp [diff, hsame]
        rw [hskip, ih]
        by_cases hfield : field = head
        · subst hfield
          simp [hsame]
        · simp [hfield]
      · have hstep : patched state (diff (head :: rest) base new) =
            patched (Function.update state head (new head))
              (diff rest base new) := by
          simp [diff, hsame, patched]
        rw [hstep, ih]
        by_cases hfield : field = head
        · subst hfield
          simp [hsame]
        · simp [hfield]

/-- A diff written to a faithful log keeps it faithful exactly when its base is
the state the log has reached. -/
theorem replays_record_iff (hfields : ∀ field, field ∈ fields)
    {reached : F → V} (hreached : Replays first log reached) (base new : F → V) :
    Replays first (record log (diff fields base new)) new ↔ base = reached := by
  by_cases hnil : diff fields base new = []
  · have hsame := (diff_eq_nil_iff hfields).mp hnil
    simp only [record, hnil, List.isEmpty_nil, ↓reduceIte]
    constructor
    · intro hnew
      rw [hsame, hnew.unique hreached]
    · intro hbase
      rw [← hsame, hbase]
      exact hreached
  · have hrecord : record log (diff fields base new) =
        log ++ [diff fields base new] := by
      simp [record, hnil]
    rw [hrecord, replays_concat]
    constructor
    · rintro ⟨reached', hreached', hbefore, hlast⟩
      obtain rfl := hreached'.unique hreached
      funext field
      by_cases hsame : base field = new field
      · have hpatched := congrFun hlast field
        rw [patched_diff] at hpatched
        simp only [hsame, ne_eq, not_true_eq_false, and_false, ↓reduceIte] at hpatched
        exact hsame.trans hpatched.symm
      · exact hbefore ⟨field, base field, new field⟩
          (mem_diff.mpr ⟨hfields field, hsame, rfl, rfl⟩)
    · rintro rfl
      refine ⟨base, hreached, ?_, ?_⟩
      · intro change hchange
        exact (mem_diff.mp hchange).2.2.1
      · funext field
        rw [patched_diff]
        simp only [hfields field, true_and]
        split_ifs with hsame
        · rfl
        · exact not_not.mp hsame

end Replay

end PatchLog
