/-
Keyed rows with a newest-first version log.  A transaction's private writes
and the committed table contents have the same shape, so that reading through
uncommitted writes and committing them are both concatenation.
-/
import Mathlib.Data.List.Dedup
import Mathlib.Logic.Basic

namespace ReadCommitted

universe u v w

variable {K : Type u} {V : K → Type v}

/-- Row versions, newest first; `none` records a deletion. -/
abbrev Rows (V : K → Type v) := List (Σ k, Option (V k))

/-- The current version of one row. -/
def Rows.get [DecidableEq K] : Rows V → (key : K) → Option (V key)
  | [], _ => none
  | ⟨written, row⟩ :: rest, key =>
      if h : written = key then h ▸ row else Rows.get rest key

/-- The keys a log has ever written. -/
def Rows.keys (rows : Rows V) : List K :=
  rows.map Sigma.fst

/-- Every live row, one entry per key. -/
def Rows.live [DecidableEq K] (rows : Rows V) : List (Σ k, V k) :=
  rows.keys.dedup.filterMap fun key => (rows.get key).map (Sigma.mk key)

@[simp] theorem Rows.keys_nil : Rows.keys ([] : Rows V) = [] := rfl

@[simp] theorem Rows.keys_cons (key : K) (row : Option (V key))
    (rest : Rows V) : Rows.keys (⟨key, row⟩ :: rest) = key :: rest.keys := rfl

@[simp] theorem Rows.keys_append (own rest : Rows V) :
    Rows.keys (own ++ rest) = own.keys ++ rest.keys :=
  List.map_append

variable [DecidableEq K]

@[simp] theorem Rows.get_nil (key : K) :
    Rows.get ([] : Rows V) key = none := rfl

@[simp] theorem Rows.get_cons_self (key : K) (row : Option (V key))
    (rest : Rows V) : Rows.get (⟨key, row⟩ :: rest) key = row := by
  simp [Rows.get]

@[simp] theorem Rows.get_cons_ne {written key : K} (hne : written ≠ key)
    (row : Option (V written)) (rest : Rows V) :
    Rows.get (⟨written, row⟩ :: rest) key = rest.get key := by
  simp [Rows.get, hne]

/-- Reading through a log that never wrote the key reaches the rows below. -/
theorem Rows.get_append_of_not_mem {own : Rows V} {key : K}
    (hkey : key ∉ own.keys) (rest : Rows V) :
    Rows.get (own ++ rest) key = rest.get key := by
  induction own with
  | nil => rfl
  | cons entry own ih =>
      obtain ⟨written, row⟩ := entry
      simp only [Rows.keys_cons, List.mem_cons, not_or] at hkey
      rw [List.cons_append, Rows.get_cons_ne (Ne.symm hkey.1)]
      exact ih hkey.2

/-- A written key hides whatever lies below. -/
theorem Rows.get_append_of_mem {own : Rows V} {key : K}
    (hkey : key ∈ own.keys) (rest : Rows V) :
    Rows.get (own ++ rest) key = own.get key := by
  induction own with
  | nil => simp at hkey
  | cons entry own ih =>
      obtain ⟨written, row⟩ := entry
      by_cases hwritten : written = key
      · subst hwritten
        rw [List.cons_append, Rows.get_cons_self, Rows.get_cons_self]
      · rw [List.cons_append, Rows.get_cons_ne hwritten,
          Rows.get_cons_ne hwritten]
        simp only [Rows.keys_cons, List.mem_cons] at hkey
        exact ih (hkey.resolve_left (Ne.symm hwritten))

theorem Rows.get_append_congr (own : Rows V) {rows rows' : Rows V} {key : K}
    (hsame : rows.get key = rows'.get key) :
    Rows.get (own ++ rows) key = Rows.get (own ++ rows') key := by
  by_cases hkey : key ∈ own.keys
  · rw [Rows.get_append_of_mem hkey, Rows.get_append_of_mem hkey]
  · rw [Rows.get_append_of_not_mem hkey, Rows.get_append_of_not_mem hkey, hsame]

/-- A log that writes only keys of one kind. -/
def Rows.Only (kind : K → Prop) (rows : Rows V) : Prop :=
  ∀ key ∈ rows.keys, kind key

section Only

omit [DecidableEq K]

variable {kind kind' : K → Prop} {rows rows' : Rows V}

@[simp] theorem Rows.only_nil : Rows.Only kind ([] : Rows V) := by
  simp [Rows.Only]

@[simp] theorem Rows.only_cons {entry : Σ k, Option (V k)} :
    Rows.Only kind (entry :: rows) ↔ kind entry.1 ∧ rows.Only kind := by
  simp [Rows.Only, Rows.keys]

@[simp] theorem Rows.only_append :
    Rows.Only kind (rows ++ rows') ↔ rows.Only kind ∧ rows'.Only kind := by
  simp only [Rows.Only, Rows.keys_append, List.mem_append, or_imp, forall_and]

theorem Rows.Only.mono (h : rows.Only kind) (hkind : ∀ key, kind key → kind' key) :
    rows.Only kind' :=
  fun key hkey => hkind key (h key hkey)

end Only

theorem Rows.Only.get_append {kind : K → Prop} {rows : Rows V}
    (h : rows.Only kind) {key : K} (hkey : ¬ kind key) (rest : Rows V) :
    Rows.get (rows ++ rest) key = rest.get key :=
  Rows.get_append_of_not_mem (fun hmem => hkey (h key hmem)) rest

theorem Rows.mem_keys_of_get {rows : Rows V} {key : K} {row : V key}
    (hrow : rows.get key = some row) : key ∈ rows.keys := by
  by_contra hkey
  have hnone := Rows.get_append_of_not_mem hkey []
  rw [List.append_nil, hrow] at hnone
  simp at hnone

/-- What a point read sees has been written. -/
theorem Rows.mem_of_get {rows : Rows V} {key : K} {row : V key}
    (h : rows.get key = some row) : ⟨key, some row⟩ ∈ rows := by
  induction rows with
  | nil => cases h
  | cons version rest ih =>
      obtain ⟨written, stored⟩ := version
      by_cases heq : written = key
      · subst heq
        rw [Rows.get_cons_self] at h
        subst h
        exact List.mem_cons_self
      · rw [Rows.get_cons_ne heq] at h
        exact List.mem_cons_of_mem _ (ih h)

/-- The live listing is exactly what point reads see. -/
theorem Rows.mem_live {rows : Rows V} {key : K} {row : V key} :
    (⟨key, row⟩ : Σ k, V k) ∈ rows.live ↔ rows.get key = some row := by
  simp only [Rows.live, List.mem_filterMap, List.mem_dedup, Option.map_eq_some_iff]
  constructor
  · rintro ⟨other, _, found, hfound, heq⟩
    obtain ⟨rfl, hrow⟩ := Sigma.mk.inj heq
    rw [hfound, eq_of_heq hrow]
  · intro hrow
    exact ⟨key, Rows.mem_keys_of_get hrow, row, hrow, rfl⟩

/-- A version of a row that a listing passes over does not change it. -/
theorem Rows.filterMap_live_cons {β : Type w} (select : (Σ k, V k) → Option β)
    {key : K} (hkey : ∀ row, select ⟨key, row⟩ = none) (row : Option (V key))
    (rows : Rows V) :
    (Rows.live (⟨key, row⟩ :: rows)).filterMap select = rows.live.filterMap select := by
  have hselect : ∀ other,
      ((Rows.get (⟨key, row⟩ :: rows) other).map (Sigma.mk other)).bind select =
        ((rows.get other).map (Sigma.mk other)).bind select := by
    intro other
    by_cases hother : key = other
    · subst hother
      have hnone : ∀ found : Option (V key),
          (found.map (Sigma.mk key)).bind select = none := by
        rintro (_ | found)
        · rfl
        · exact hkey found
      rw [hnone, hnone]
    · rw [Rows.get_cons_ne hother]
  simp only [Rows.live, List.filterMap_filterMap, Rows.keys_cons, hselect]
  by_cases hmem : key ∈ rows.keys
  · rw [List.dedup_cons_of_mem hmem]
  · rw [List.dedup_cons_of_notMem hmem, List.filterMap_cons]
    cases hfound : rows.get key with
    | none => rfl
    | some found => simp [hkey]

theorem Rows.nodup_live_keys (rows : Rows V) :
    (rows.live.map Sigma.fst).Nodup := by
  have hsub : (rows.live.map Sigma.fst).Sublist rows.keys.dedup := by
    unfold Rows.live
    induction rows.keys.dedup with
    | nil => simp
    | cons key rest ih =>
        cases hrow : rows.get key with
        | none =>
            simpa [List.filterMap_cons, hrow] using ih.cons key
        | some row =>
            simpa [List.filterMap_cons, hrow] using ih
  exact hsub.nodup (List.nodup_dedup _)

/-- A listing that takes the rows of one kind of key, each with its index. -/
structure Rows.Lists {ι : Type v} {β : Type w} (key : ι → K)
    (reading : ∀ index, V (key index) → β) (choose : (Σ k, V k) → Option (ι × β)) :
    Prop where
  kind : ∀ index row, choose ⟨key index, row⟩ = some (index, reading index row)
  only : ∀ {entry index row}, choose entry = some (index, row) → entry.1 = key index

section Lists

variable {ι : Type v} {β : Type w} {key : ι → K} {reading : ∀ index, V (key index) → β}
  {choose : (Σ k, V k) → Option (ι × β)} {rows : Rows V}

theorem Rows.Lists.mem_iff (h : Rows.Lists key reading choose) {index : ι} {row : β} :
    (index, row) ∈ rows.live.filterMap choose ↔
      ∃ stored, rows.get (key index) = some stored ∧ reading index stored = row := by
  rw [List.mem_filterMap]
  constructor
  · rintro ⟨⟨other, stored⟩, hmem, hchoose⟩
    obtain rfl := h.only hchoose
    rw [h.kind, Option.some.injEq, Prod.mk.injEq] at hchoose
    exact ⟨stored, Rows.mem_live.mp hmem, hchoose.2⟩
  · rintro ⟨stored, hstored, rfl⟩
    exact ⟨⟨key index, stored⟩, Rows.mem_live.mpr hstored, h.kind index stored⟩

theorem Rows.Lists.nodup (h : Rows.Lists key reading choose) :
    ((rows.live.filterMap choose).map Prod.fst).Nodup := by
  have hkeys := List.pairwise_map.mp (Rows.nodup_live_keys rows)
  apply List.pairwise_map.mpr
  apply List.pairwise_filterMap.mpr
  apply hkeys.imp
  rintro entry entry' hne ⟨index, row⟩ hchoose ⟨index', row'⟩ hchoose' rfl
  exact hne ((h.only hchoose).trans (h.only hchoose').symm)

end Lists

end ReadCommitted
