/-
Rounding into the decimal context keeps the order to every number that the context
can hold.
-/
import Mathlib.Tactic.FieldSimp
import Mathlib.Tactic.Linarith
import Mathlib.Tactic.NormNum
import Mathlib.Tactic.Positivity
import ShemaPlatform.Money

namespace ShemaPlatform

namespace Decimal

variable {x t : ℚ} {n : ℤ}

theorem roundHalfEven_cases (x : ℚ) :
    roundHalfEven x = ⌊x⌋ ∨ (roundHalfEven x = ⌊x⌋ + 1 ∧ (⌊x⌋ : ℚ) < x) := by
  have hfloor := Int.floor_le x
  simp only [roundHalfEven]
  split_ifs with hless hmore heven
  · exact Or.inl rfl
  · exact Or.inr ⟨rfl, by linarith⟩
  · exact Or.inl rfl
  · exact Or.inr ⟨rfl, by linarith⟩

theorem le_roundHalfEven (h : (n : ℚ) ≤ x) : n ≤ roundHalfEven x := by
  have hfloor : n ≤ ⌊x⌋ := Int.le_floor.mpr h
  rcases roundHalfEven_cases x with heq | ⟨heq, _⟩
  · omega
  · omega

theorem roundHalfEven_le (h : x ≤ n) : roundHalfEven x ≤ n := by
  rcases roundHalfEven_cases x with heq | ⟨heq, hless⟩
  · rw [heq]
    exact_mod_cast (Int.floor_le x).trans h
  · have hfloor : ⌊x⌋ < n := by exact_mod_cast hless.trans_le h
    omega

theorem roundHalfUp_of_nonneg (h : 0 ≤ x) : roundHalfUp x = ⌊x + 1 / 2⌋ := if_pos h

/-- The distance of the numbers that the context holds around a positive one. -/
theorem unit_eq {x : ℚ} {scale : ℕ} (hsmall : x < 10 ^ (precision - scale)) (hpos : 0 < x)
    (hscale : scale ≤ precision) :
    ∃ places : ℕ, scale ≤ places ∧ Int.log 10 |x| - (precision - 1 : ℤ) = -(places : ℤ) := by
  have hlog : Int.log 10 |x| < (precision - scale : ℕ) := by
    rw [abs_of_pos hpos]
    apply (Int.lt_zpow_iff_log_lt (by norm_num) hpos).mp
    rw [zpow_natCast]
    exact_mod_cast hsmall
  refine ⟨(-(Int.log 10 |x| - (precision - 1 : ℤ))).toNat, ?_, ?_⟩
  · simp only [precision] at *
    omega
  · simp only [precision] at *
    omega

/-- Rounding a number below a power of ten never crosses a multiple of the unit that all
those numbers are held to. -/
theorem inContext_mono {scale : ℕ} (hscale : scale ≤ precision) (hpos : 0 ≤ x)
    (hsmall : x < 10 ^ (precision - scale)) (ht : t = n / 10 ^ scale) :
    (t ≤ x → t ≤ inContext x) ∧ (x ≤ t → inContext x ≤ t) := by
  rcases hpos.eq_or_lt with rfl | hpositive
  · rw [inContext, if_pos rfl]
    exact ⟨id, id⟩
  obtain ⟨places, hplaces, hunit⟩ := unit_eq hsmall hpositive hscale
  have hten : (0 : ℚ) < 10 ^ places := by positivity
  have hround : inContext x = roundHalfEven (x * 10 ^ places) / 10 ^ places := by
    rw [inContext, if_neg hpositive.ne', hunit, zpow_neg, zpow_natCast]
    dsimp only
    rw [div_inv_eq_mul, ← div_eq_mul_inv]
  have hmultiple : t * 10 ^ places = ((n * 10 ^ (places - scale) : ℤ) : ℚ) := by
    rw [ht]
    push_cast
    rw [div_mul_eq_mul_div, div_eq_iff (by positivity), mul_assoc, ← pow_add,
      Nat.sub_add_cancel hplaces]
  rw [hround]
  constructor
  · intro h
    rw [le_div_iff₀ hten, hmultiple]
    exact_mod_cast le_roundHalfEven (hmultiple ▸ mul_le_mul_of_nonneg_right h hten.le)
  · intro h
    rw [div_le_iff₀ hten, hmultiple]
    exact_mod_cast roundHalfEven_le (hmultiple ▸ mul_le_mul_of_nonneg_right h hten.le)

/-- A number that the context holds is not changed. -/
theorem inContext_eq {scale : ℕ} (hscale : scale ≤ precision) (hpos : 0 ≤ x)
    (hsmall : x < 10 ^ (precision - scale)) (hx : x = n / 10 ^ scale) : inContext x = x := by
  have h := inContext_mono hscale hpos hsmall hx
  exact le_antisymm (h.2 le_rfl) (h.1 le_rfl)

/-- Rounding does not go below the power of ten that a number has reached. -/
theorem le_inContext_of_pow_le {digits : ℕ} (h : (10 : ℚ) ^ digits ≤ x) :
    (10 : ℚ) ^ digits ≤ inContext x := by
  have hpositive : 0 < x := lt_of_lt_of_le (by positivity) h
  set power := Int.log 10 |x| with hpower
  have hlog : (10 : ℚ) ^ power ≤ x := by
    rw [hpower, abs_of_pos hpositive]
    exact_mod_cast Int.zpow_log_le_self (by norm_num : 1 < 10) hpositive
  have hdigits : (digits : ℤ) ≤ power := by
    rw [hpower, abs_of_pos hpositive]
    apply (Int.zpow_le_iff_le_log (by norm_num) hpositive).mp
    rw [zpow_natCast]
    exact_mod_cast h
  have hunit : (0 : ℚ) < 10 ^ (power - (precision - 1 : ℤ)) := zpow_pos (by norm_num) _
  have hleast : ((10 ^ (precision - 1) : ℤ) : ℚ) ≤ x / 10 ^ (power - (precision - 1 : ℤ)) := by
    rw [le_div_iff₀ hunit]
    refine le_trans (le_of_eq ?_) hlog
    push_cast
    rw [← zpow_natCast, ← zpow_add₀ (by norm_num)]
    congr 1
    simp only [precision]
    omega
  have hrounded := le_roundHalfEven hleast
  rw [inContext, if_neg hpositive.ne']
  calc (10 : ℚ) ^ digits = 10 ^ (digits : ℤ) := (zpow_natCast _ _).symm
    _ ≤ 10 ^ power := zpow_le_zpow_right₀ (by norm_num) hdigits
    _ = ((10 ^ (precision - 1) : ℤ) : ℚ) * 10 ^ (power - (precision - 1 : ℤ)) := by
        push_cast
        rw [← zpow_natCast, ← zpow_add₀ (by norm_num)]
        congr 1
        simp only [precision]
        omega
    _ ≤ _ := by
        apply mul_le_mul_of_nonneg_right _ hunit.le
        exact_mod_cast hrounded

end Decimal

end ShemaPlatform
