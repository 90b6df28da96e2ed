/-
A cache that keeps what was used last: its keys are the distinct keys of all uses, the
newest first, cut at its size.
-/
import Mathlib.Data.List.Basic
import Mathlib.Data.List.Nodup

namespace RecentlyUsed

variable {κ α : Type} [DecidableEq κ] {key : κ} {uses newer older keys : List κ} {size : ℕ}
  {entry : κ × α} {entries : List (κ × α)}

/-- The distinct keys of a history that has its newest key first. -/
def recent : List κ → List κ
  | [] => []
  | key :: earlier => key :: (recent earlier).filter fun other => other != key

@[simp] theorem mem_recent : key ∈ recent uses ↔ key ∈ uses := by
  induction uses with
  | nil => simp [recent]
  | cons last earlier ih =>
      by_cases hlast : key = last
      · simp [recent, hlast]
      · simp [recent, hlast, ih]

theorem nodup_recent (uses : List κ) : (recent uses).Nodup := by
  induction uses with
  | nil => exact List.nodup_nil
  | cons last earlier ih =>
      apply List.Nodup.cons
      · simp
      · exact ih.filter _

theorem recent_append (newer older : List κ) :
    recent (newer ++ older) =
      recent newer ++ (recent older).filter fun key => !newer.contains key := by
  induction newer with
  | nil => simp [recent]
  | cons last earlier ih =>
      rw [List.cons_append, recent, ih, recent, List.filter_append, List.cons_append,
        List.filter_filter]
      congr 2
      apply List.filter_congr
      intro key _
      by_cases hlast : key = last
      · simp [hlast]
      · simp [hlast]

/-- The key was used, and fewer than so many other ones since. -/
def WithinLast (size : ℕ) (uses : List κ) (key : κ) : Prop :=
  ∃ newer older, uses = newer ++ key :: older ∧ key ∉ newer ∧ (recent newer).length < size

theorem exists_last_use (hused : key ∈ uses) :
    ∃ newer older, uses = newer ++ key :: older ∧ key ∉ newer := by
  induction uses with
  | nil => simp at hused
  | cons last earlier ih =>
      by_cases hlast : key = last
      · exact ⟨[], earlier, by simp [hlast], List.not_mem_nil⟩
      · have hearlier : key ∈ earlier := (List.mem_cons.mp hused).resolve_left hlast
        obtain ⟨newer, older, hsplit, hnot⟩ := ih hearlier
        exact ⟨last :: newer, older, by simp [hsplit], by simp [hlast, hnot]⟩

omit [DecidableEq κ] in
theorem mem_take_append_cons (hnewer : key ∉ newer) :
    key ∈ (newer ++ key :: older).take size ↔ newer.length < size := by
  rw [List.take_append, List.mem_append]
  constructor
  · intro hmem
    rcases hmem with hfirst | hrest
    · exact absurd (List.mem_of_mem_take hfirst) hnewer
    · by_contra hlong
      rw [Nat.sub_eq_zero_of_le (Nat.le_of_not_lt hlong), List.take_zero] at hrest
      exact List.not_mem_nil hrest
  · intro hshort
    right
    obtain ⟨more, hmore⟩ := Nat.exists_eq_add_of_lt hshort
    have hroom : size - newer.length = more + 1 := by omega
    rw [hroom, List.take_succ_cons]
    exact List.mem_cons_self

theorem mem_take_recent : key ∈ (recent uses).take size ↔ WithinLast size uses key := by
  constructor
  · intro hmem
    have hused := mem_recent.mp (List.mem_of_mem_take hmem)
    obtain ⟨newer, older, rfl, hnot⟩ := exists_last_use hused
    rw [recent_append, recent, List.filter_cons_of_pos (by simpa using hnot)] at hmem
    have hnewer : key ∉ recent newer := fun hmem => hnot (mem_recent.mp hmem)
    exact ⟨newer, older, rfl, hnot, (mem_take_append_cons hnewer).mp hmem⟩
  · intro hwithin
    obtain ⟨newer, older, rfl, hnot, hshort⟩ := hwithin
    rw [recent_append, recent, List.filter_cons_of_pos (by simpa using hnot)]
    have hnewer : key ∉ recent newer := fun hmem => hnot (mem_recent.mp hmem)
    exact (mem_take_append_cons hnewer).mpr hshort

instance : Decidable (WithinLast size uses key) := decidable_of_iff _ mem_take_recent

/-- An entry that is used again comes first. -/
def touch (entry : κ × α) (entries : List (κ × α)) : List (κ × α) :=
  entry :: entries.filter fun other => other.1 != entry.1

/-- A new entry comes first, and the last one gives way when there is no room. -/
def insert (size : ℕ) (entry : κ × α) (entries : List (κ × α)) : List (κ × α) :=
  (entry :: entries).take size

/-- The entries of a cache are those of the keys that were used last. -/
def Holds (size : ℕ) (uses : List κ) (entries : List (κ × α)) : Prop :=
  entries.map Prod.fst = (recent uses).take size

theorem filter_take_of_mem (hnodup : keys.Nodup) (hmem : key ∈ keys.take (size + 1)) :
    (keys.take (size + 1)).filter (fun other => other != key) =
      (keys.filter fun other => other != key).take size := by
  induction keys generalizing size with
  | nil => simp at hmem
  | cons first rest ih =>
      rw [List.take_succ_cons] at hmem ⊢
      have hrest := List.nodup_cons.mp hnodup
      by_cases hfirst : first = key
      · subst hfirst
        have hall : ∀ other ∈ rest, (other != first) = true := by
          intro other hother
          exact bne_iff_ne.mpr fun heq => hrest.1 (heq ▸ hother)
        have htaken : ∀ other ∈ rest.take size, (other != first) = true := fun other hother =>
          hall other (List.mem_of_mem_take hother)
        rw [List.filter_cons_of_neg (by simp), List.filter_cons_of_neg (by simp),
          List.filter_eq_self.mpr hall, List.filter_eq_self.mpr htaken]
      · have hlater : key ∈ rest.take size :=
          (List.mem_cons.mp hmem).resolve_left fun heq => hfirst heq.symm
        cases size with
        | zero => simp at hlater
        | succ less =>
            rw [List.filter_cons_of_pos (by simpa using hfirst),
              List.filter_cons_of_pos (by simpa using hfirst), List.take_succ_cons,
              ih hrest.2 hlater]

theorem take_filter_of_not_mem (hnot : key ∉ keys.take (size + 1)) :
    (keys.filter fun other => other != key).take size = keys.take size := by
  induction keys generalizing size with
  | nil => rfl
  | cons first rest ih =>
      rw [List.take_succ_cons, List.mem_cons, not_or] at hnot
      rw [List.filter_cons_of_pos (by simpa using fun heq => hnot.1 (Eq.symm heq))]
      cases size with
      | zero => rfl
      | succ less => rw [List.take_succ_cons, List.take_succ_cons, ih hnot.2]

theorem mem_of_lookup {value : α} (hkept : entries.lookup key = some value) :
    (key, value) ∈ entries := by
  obtain ⟨newer, older, hsplit, -⟩ := List.lookup_eq_some_iff.mp hkept
  rw [hsplit]
  exact List.mem_append_right newer List.mem_cons_self

theorem Holds.initial : Holds size ([] : List κ) ([] : List (κ × α)) := by
  simp [Holds, recent]

/-- A key that is kept stays, as the one that was used last. -/
theorem Holds.touch (h : Holds size uses entries) (hkept : entry.1 ∈ entries.map Prod.fst) :
    Holds size (entry.1 :: uses) (touch entry entries) := by
  have hfilter : (entries.filter fun other => other.1 != entry.1).map Prod.fst =
      (entries.map Prod.fst).filter fun other => other != entry.1 := by
    rw [List.filter_map]
    rfl
  rw [h] at hkept
  cases size with
  | zero => simp at hkept
  | succ more =>
      rw [Holds, RecentlyUsed.touch, List.map_cons, hfilter, h,
        filter_take_of_mem (nodup_recent uses) hkept, recent, List.take_succ_cons]

/-- A key that is not kept takes the place of the one that was used the longest ago. -/
theorem Holds.insert (h : Holds size uses entries) (hnew : entry.1 ∉ entries.map Prod.fst) :
    Holds size (entry.1 :: uses) (insert size entry entries) := by
  rw [h] at hnew
  cases size with
  | zero => simp [Holds, RecentlyUsed.insert]
  | succ more =>
      rw [Holds, RecentlyUsed.insert, List.map_take, List.map_cons, h, recent,
        List.take_succ_cons, List.take_succ_cons, take_filter_of_not_mem hnew, List.take_take,
        Nat.min_eq_left (Nat.le_succ more)]

/-- A key is kept exactly when fewer others were used since its last use. -/
theorem Holds.mem_iff (h : Holds size uses entries) :
    key ∈ entries.map Prod.fst ↔ WithinLast size uses key := by
  rw [h, mem_take_recent]

end RecentlyUsed
