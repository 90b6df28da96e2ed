/-
The total of an order: when it is the sum of the exact line amounts, each rounded
once.
-/
import Mathlib.Algebra.BigOperators.Group.List.Basic
import Mathlib.Algebra.Order.BigOperators.Group.List
import ShemaPlatform.DecimalContext
import ShemaPlatform.OrderLines

namespace ShemaPlatform

/-- A price that `Money` has accepted. -/
def Money.Built (money : Money) : Prop :=
  ∃ amount currency, Money.new amount currency = .ok money

/-- A line that its constructors have accepted. -/
structure OrderLine.Built (line : OrderLine) : Prop where
  price : line.unitPrice.Built
  accepted : line.new = .ok line

/-- An order that its constructors have accepted. -/
structure Order.Built (order : Order) : Prop where
  lines : ∀ line ∈ order.lines, line.Built
  accepted : order.new = .ok order

namespace OrderLine

/-- The exact product of price and quantity; an infinite quantity has none. -/
def product (line : OrderLine) : ℚ :=
  match line.quantity with
  | .finite quantity => line.unitPrice.amount * quantity
  | _ => 0

/-- The exact product in cents, rounded half up. -/
def exactCents (line : OrderLine) : ℤ :=
  Decimal.roundHalfUp (line.product * 100)

/-- The product in cents as it is computed: rounded into the context, then half up. -/
def computedCents (line : OrderLine) : ℤ :=
  Decimal.roundHalfUp (Decimal.inContext line.product * 100)

/-- The quantity is a number. -/
def Finite (line : OrderLine) : Prop :=
  ∃ quantity, line.quantity = .finite quantity

/-- The exact product lies below a half cent that its rounding into the context reaches. -/
def ReachesHalfCent (line : OrderLine) : Prop :=
  ∃ cents : ℤ, line.product * 100 < cents + 1 / 2 ∧
    cents + 1 / 2 ≤ Decimal.inContext line.product * 100

end OrderLine

namespace Order

/-- The total is the sum of the rounded exact products, in the currency of the lines. -/
def TotalExact (order : Order) : Prop :=
  ∃ currency, (∀ line ∈ order.lines, line.unitPrice.currency = currency) ∧
    order.total = .ok ⟨(order.lines.map OrderLine.exactCents).sum, currency⟩

/-- What makes the total exact. -/
structure Totals (lines : List OrderLine) : Prop where
  finite : ∀ line ∈ lines, line.Finite
  oneCurrency : ∃ currency, ∀ line ∈ lines, line.unitPrice.currency = currency
  below : ∀ line ∈ lines, ¬line.ReachesHalfCent
  fits : (lines.map OrderLine.exactCents).sum < 10 ^ Decimal.precision

end Order

namespace Money

theorem Built.currency {money : Money} (h : money.Built) :
    currencyValid money.currency = true ∧ currencyCode money.currency = money.currency := by
  obtain ⟨amount, currency, hnew⟩ := h
  cases amount with
  | finite value =>
      obtain ⟨hvalid, _, rfl⟩ := Money.new_eq_ok.mp hnew
      exact ⟨hvalid, currencyCode_currencyCode hvalid⟩
  | infinite negative => cases hnew
  | nan => cases hnew

theorem Built.fits {money : Money} (h : money.Built) :
    |money.cents| < 10 ^ Decimal.precision := by
  obtain ⟨amount, currency, hnew⟩ := h
  cases amount with
  | finite value =>
      obtain ⟨_, hfits, rfl⟩ := Money.new_eq_ok.mp hnew
      exact hfits
  | infinite negative => cases hnew
  | nan => cases hnew

/-- A new amount in the currency of a price. -/
theorem Built.new_eq_ok {money : Money} (h : money.Built) {value : ℚ} {result : Money} :
    Money.new (.finite value) money.currency = .ok result ↔
      |Decimal.roundHalfUp (value * 100)| < 10 ^ Decimal.precision ∧
        result = ⟨Decimal.roundHalfUp (value * 100), money.currency⟩ := by
  rw [Money.new_eq_ok, h.currency.2, and_iff_right h.currency.1, eq_comm (a := result)]

/-- Cents that are not negative are added exactly, as long as they fit the context. -/
theorem add_eq_ok {left right result : Money} (h : left.Built) (hleft : 0 ≤ left.cents)
    (hright : 0 ≤ right.cents) :
    left.add right = .ok result ↔ right.currency = left.currency ∧
      left.cents + right.cents < 10 ^ Decimal.precision ∧
      result = ⟨left.cents + right.cents, left.currency⟩ := by
  have hsum : left.amount + right.amount = ((left.cents + right.cents : ℤ) : ℚ) / 10 ^ 2 := by
    simp only [amount]
    push_cast
    ring
  have hpos : 0 ≤ left.amount + right.amount := by
    rw [hsum]
    have : (0 : ℚ) ≤ ((left.cents + right.cents : ℤ) : ℚ) := by
      exact_mod_cast Int.add_nonneg hleft hright
    positivity
  simp only [add, requireSameCurrency, bind_eq_ok, require_eq_ok, beq_iff_eq, exists_const,
    Decimal.add, Except.ok.injEq, exists_eq_left', h.new_eq_ok, eq_comm (a := right.currency)]
  apply and_congr_right
  intro _
  rcases lt_or_ge (left.cents + right.cents) (10 ^ Decimal.precision) with hfits | hlarge
  · have hsmall : left.amount + right.amount < 10 ^ (Decimal.precision - 2) := by
      rw [hsum, div_lt_iff₀ (by norm_num), ← pow_add]
      exact_mod_cast hfits
    have hcents : Decimal.roundHalfUp
        (Decimal.inContext (left.amount + right.amount) * 100) = left.cents + right.cents := by
      rw [Decimal.inContext_eq (by decide) hpos hsmall hsum, hsum, div_mul_eq_mul_div,
        mul_div_assoc, show (100 : ℚ) / 10 ^ 2 = 1 by norm_num, mul_one,
        Decimal.roundHalfUp_intCast]
    rw [hcents, abs_of_nonneg (Int.add_nonneg hleft hright)]
  · apply iff_of_false
    · rintro ⟨hfits, _⟩
      have hreached : (10 : ℚ) ^ (Decimal.precision - 2) ≤ left.amount + right.amount := by
        rw [hsum, le_div_iff₀ (by norm_num), ← pow_add]
        exact_mod_cast hlarge
      have hcontext := Decimal.le_inContext_of_pow_le hreached
      have hround : (10 : ℤ) ^ Decimal.precision ≤ Decimal.roundHalfUp
          (Decimal.inContext (left.amount + right.amount) * 100) := by
        have hnonneg : (0 : ℚ) ≤ Decimal.inContext (left.amount + right.amount) :=
          le_trans (by positivity) hcontext
        rw [Decimal.roundHalfUp_of_nonneg (by positivity), Int.le_floor]
        push_cast
        have hpow : (10 : ℚ) ^ Decimal.precision = 10 ^ (Decimal.precision - 2) * 100 := by
          norm_num [Decimal.precision]
        rw [hpow]
        linarith
      exact absurd (lt_of_le_of_lt (le_abs_self _) hfits) (not_lt.mpr hround)
    · exact fun h => absurd h.1 (not_lt.mpr hlarge)

end Money

theorem Money.built_of_add {left right result : Money} (h : left.add right = .ok result) :
    result.Built := by
  simp only [Money.add, bind_eq_ok] at h
  obtain ⟨_, _, total, _, hnew⟩ := h
  exact ⟨total, left.currency, hnew⟩

namespace OrderLine

variable {line : OrderLine}

/-- What an accepted line holds. -/
theorem Built.quantity_cases (h : line.Built) :
    0 ≤ line.unitPrice.cents ∧
      ((∃ quantity, line.quantity = .finite quantity ∧ 0 < quantity) ∨
        line.quantity = .infinite false) := by
  have haccepted := h.accepted
  simp only [new, bind_eq_ok, require_eq_ok, pure_eq_ok, exists_const, Bool.not_eq_true',
    decide_eq_true_eq] at haccepted
  obtain ⟨_, negative, hnegative, rfl, hprice, _⟩ := haccepted
  refine ⟨hprice, ?_⟩
  cases hquantity : line.quantity with
  | finite quantity =>
      rw [hquantity, Decimal.nonPositive, Except.ok.injEq, decide_eq_false_iff_not,
        not_le] at hnegative
      exact Or.inl ⟨quantity, rfl, hnegative⟩
  | infinite sign =>
      rw [hquantity, Decimal.nonPositive, Except.ok.injEq] at hnegative
      exact Or.inr (by rw [hnegative])
  | nan =>
      rw [hquantity] at hnegative
      cases hnegative

theorem Built.product_nonneg (h : line.Built) : 0 ≤ line.product := by
  obtain ⟨hprice, ⟨quantity, hquantity, hpos⟩ | hinfinite⟩ := h.quantity_cases
  · have hamount : 0 ≤ line.unitPrice.amount := by
      have : (0 : ℚ) ≤ line.unitPrice.cents := by exact_mod_cast hprice
      rw [Money.amount]
      positivity
    rw [product, hquantity]
    exact mul_nonneg hamount hpos.le
  · rw [product, hinfinite]

/-- Rounding into the context keeps a product on its side of every half cent that it has
reached. -/
theorem halfCent_le_inContext (hpos : 0 ≤ line.product) (hsmall : line.product < 10 ^ 20)
    {cents : ℤ} :
    ((cents + 1 / 2 : ℚ) ≤ line.product * 100 →
        (cents + 1 / 2 : ℚ) ≤ Decimal.inContext line.product * 100) := by
  have hbound : line.product < 10 ^ (Decimal.precision - 3) :=
    hsmall.trans (by norm_num [Decimal.precision])
  have hmultiple : (cents + 1 / 2 : ℚ) / 100 = ((10 * cents + 5 : ℤ) : ℚ) / 10 ^ 3 := by
    push_cast
    ring
  intro h
  have hround := (Decimal.inContext_mono (by decide) hpos hbound hmultiple).1
  rw [div_le_iff₀ (by norm_num), div_le_iff₀ (by norm_num)] at hround
  exact hround h

theorem inContext_nonneg (hpos : 0 ≤ line.product) (hsmall : line.product < 10 ^ 20) :
    0 ≤ Decimal.inContext line.product := by
  have hbound : line.product < 10 ^ (Decimal.precision - 0) :=
    hsmall.trans (by norm_num [Decimal.precision])
  exact (@Decimal.inContext_mono line.product 0 0 0 (by decide) hpos hbound (by norm_num)).1
    hpos

theorem exactCents_eq (hpos : 0 ≤ line.product) :
    line.exactCents = ⌊line.product * 100 + 1 / 2⌋ :=
  Decimal.roundHalfUp_of_nonneg (by positivity)

theorem computedCents_eq (hpos : 0 ≤ line.product) (hsmall : line.product < 10 ^ 20) :
    line.computedCents = ⌊Decimal.inContext line.product * 100 + 1 / 2⌋ :=
  Decimal.roundHalfUp_of_nonneg (mul_nonneg (inContext_nonneg hpos hsmall) (by norm_num))

theorem exactCents_le_computedCents (hpos : 0 ≤ line.product)
    (hsmall : line.product < 10 ^ 20) : line.exactCents ≤ line.computedCents := by
  rw [computedCents_eq hpos hsmall, Int.le_floor]
  have hfloor : ((line.exactCents : ℤ) : ℚ) ≤ line.product * 100 + 1 / 2 := by
    rw [exactCents_eq hpos]
    exact Int.floor_le _
  have hhalf := @halfCent_le_inContext line hpos hsmall (line.exactCents - 1)
  push_cast at hhalf
  have := hhalf (by linarith)
  linarith

/-- The two roundings lead to the same cents unless the first one reaches a half cent. -/
theorem computedCents_eq_exactCents_iff (hpos : 0 ≤ line.product)
    (hsmall : line.product < 10 ^ 20) :
    line.exactCents = line.computedCents ↔ ¬line.ReachesHalfCent := by
  have hle := exactCents_le_computedCents hpos hsmall
  constructor
  · rintro hsame ⟨cents, hbelow, hreached⟩
    have hexact : line.exactCents ≤ cents := by
      rw [exactCents_eq hpos, ← Int.lt_add_one_iff, Int.floor_lt]
      push_cast
      linarith
    have hcomputed : cents + 1 ≤ line.computedCents := by
      rw [computedCents_eq hpos hsmall, Int.le_floor]
      push_cast
      linarith
    omega
  · intro hbelow
    by_contra hdiffers
    have hless : line.exactCents + 1 ≤ line.computedCents := by omega
    apply hbelow
    refine ⟨line.exactCents, ?_, ?_⟩
    · have hfloor := Int.lt_floor_add_one (line.product * 100 + 1 / 2)
      rw [← exactCents_eq hpos] at hfloor
      linarith
    · rw [computedCents_eq hpos hsmall, Int.le_floor] at hless
      push_cast at hless
      linarith

/-- The total of a line is computed for every number. -/
theorem Built.total_eq_ok (h : line.Built) (hsmall : line.product < 10 ^ 20)
    {money : Money} :
    line.total = .ok money ↔
      line.Finite ∧ money = ⟨line.computedCents, line.unitPrice.currency⟩ := by
  have hpos := h.product_nonneg
  obtain ⟨_, ⟨quantity, hquantity, hpositive⟩ | hinfinite⟩ := h.quantity_cases
  · have hproduct : line.product = line.unitPrice.amount * quantity := by
      rw [product, hquantity]
    have hbound : line.product < 10 ^ (Decimal.precision - 0) :=
      hsmall.trans (by norm_num [Decimal.precision])
    have hcontext : Decimal.inContext line.product ≤ 10 ^ 20 :=
      (@Decimal.inContext_mono line.product (10 ^ 20) (10 ^ 20) 0 (by decide) hpos hbound
        (by norm_num)).2 hsmall.le
    have hnonneg := inContext_nonneg hpos hsmall
    have hfits : |line.computedCents| < 10 ^ Decimal.precision := by
      rw [computedCents_eq hpos hsmall, abs_of_nonneg (Int.floor_nonneg.mpr (by positivity)),
        Int.floor_lt]
      push_cast
      norm_num [Decimal.precision]
      linarith
    have hquantified : line.total =
        Money.new (.finite (Decimal.inContext line.product)) line.unitPrice.currency := by
      rw [total, Money.multiply, hquantity, hproduct]
      simp [Decimal.nonPositive, Decimal.mul, require, hpositive, bind, Except.bind]
    rw [hquantified, h.price.new_eq_ok]
    exact and_congr_left fun _ => iff_of_true hfits ⟨quantity, hquantity⟩
  · apply iff_of_false
    · intro htotal
      simp only [total, Money.multiply, hinfinite, bind_eq_ok] at htotal
      obtain ⟨_, _, _, _, product, hproduct, hnew⟩ := htotal
      by_cases hzero : line.unitPrice.amount = 0
      · rw [Decimal.mul.eq_def] at hproduct
        dsimp only at hproduct
        rw [if_pos hzero] at hproduct
        cases hproduct
      · rw [Decimal.mul.eq_def] at hproduct
        dsimp only at hproduct
        rw [if_neg hzero] at hproduct
        obtain rfl := Except.ok.inj hproduct
        cases hnew
    · rintro ⟨⟨quantity, hquantity⟩, _⟩
      rw [hinfinite] at hquantity
      cases hquantity

theorem built_of_total {money : Money} (htotal : line.total = .ok money) : money.Built := by
  simp only [total, Money.multiply, bind_eq_ok] at htotal
  obtain ⟨_, _, _, _, product, _, hnew⟩ := htotal
  exact ⟨product, line.unitPrice.currency, hnew⟩

theorem Built.computedCents_nonneg (h : line.Built) (hsmall : line.product < 10 ^ 20) :
    0 ≤ line.computedCents := by
  rw [computedCents_eq h.product_nonneg hsmall]
  have := inContext_nonneg h.product_nonneg hsmall
  exact Int.floor_nonneg.mpr (by positivity)

end OrderLine

namespace Order

variable {lines : List OrderLine}

/-- The rest of the lines is added exactly when they are numbers in the currency of the
sum and everything fits the context. -/
theorem foldlM_total_eq_ok (hbuilt : ∀ line ∈ lines, line.Built)
    (hsmall : ∀ line ∈ lines, line.product < 10 ^ 20) {sum result : Money}
    (hsum : sum.Built) (hnonneg : 0 ≤ sum.cents) (hfits : sum.cents < 10 ^ Decimal.precision) :
    lines.foldlM (fun sum line => do sum.add (← line.total)) sum = .ok result ↔
      (∀ line ∈ lines, line.Finite ∧ line.unitPrice.currency = sum.currency) ∧
        sum.cents + (lines.map OrderLine.computedCents).sum < 10 ^ Decimal.precision ∧
        result = ⟨sum.cents + (lines.map OrderLine.computedCents).sum, sum.currency⟩ := by
  induction lines generalizing sum with
  | nil =>
      simp only [List.foldlM_nil, pure_eq_ok, List.map_nil, List.sum_nil, add_zero]
      simp [hfits, eq_comm]
  | cons line rest ih =>
      obtain ⟨hline, hrest⟩ := List.forall_mem_cons.mp hbuilt
      obtain ⟨hlineSmall, hrestSmall⟩ := List.forall_mem_cons.mp hsmall
      have hcents := hline.computedCents_nonneg hlineSmall
      have hlater : 0 ≤ (rest.map OrderLine.computedCents).sum := by
        apply List.sum_nonneg
        intro cents hmem
        obtain ⟨later, hlater, rfl⟩ := List.mem_map.mp hmem
        exact (hrest later hlater).computedCents_nonneg (hrestSmall later hlater)
      simp only [List.foldlM_cons, bind_eq_ok, hline.total_eq_ok hlineSmall,
        List.forall_mem_cons, List.map_cons, List.sum_cons]
      constructor
      · rintro ⟨next, ⟨_, ⟨hfinite, rfl⟩, hadd⟩, hfold⟩
        have hnextBuilt := Money.built_of_add hadd
        obtain ⟨hcurrency, hnext, rfl⟩ := (Money.add_eq_ok hsum hnonneg hcents).mp hadd
        obtain ⟨hall, htotal, rfl⟩ := (ih hrest hrestSmall hnextBuilt
          (Int.add_nonneg hnonneg hcents) hnext).mp hfold
        rw [← add_assoc]
        exact ⟨⟨⟨hfinite, hcurrency⟩, hall⟩, htotal, rfl⟩
      · rintro ⟨⟨⟨hfinite, hcurrency⟩, hall⟩, htotal, rfl⟩
        rw [← add_assoc] at htotal
        have hnext : sum.cents + line.computedCents < 10 ^ Decimal.precision := by omega
        have hadd := (@Money.add_eq_ok sum ⟨line.computedCents, line.unitPrice.currency⟩ _
          hsum hnonneg hcents).mpr ⟨hcurrency, hnext, rfl⟩
        exact ⟨_, ⟨_, ⟨hfinite, rfl⟩, hadd⟩, (ih hrest hrestSmall (Money.built_of_add hadd)
          (Int.add_nonneg hnonneg hcents) hnext).mpr ⟨hall, htotal, by rw [add_assoc]⟩⟩

theorem totalOf_eq_ok (hbuilt : ∀ line ∈ lines, line.Built)
    (hsmall : ∀ line ∈ lines, line.product < 10 ^ 20) (hsome : lines ≠ []) {cents : ℤ}
    {currency : String} :
    totalOf lines = .ok ⟨cents, currency⟩ ↔
      (∀ line ∈ lines, line.Finite ∧ line.unitPrice.currency = currency) ∧
        (lines.map OrderLine.computedCents).sum < 10 ^ Decimal.precision ∧
        cents = (lines.map OrderLine.computedCents).sum := by
  cases lines with
  | nil => exact absurd rfl hsome
  | cons first rest =>
      obtain ⟨hfirst, hrest⟩ := List.forall_mem_cons.mp hbuilt
      obtain ⟨hfirstSmall, hrestSmall⟩ := List.forall_mem_cons.mp hsmall
      simp only [totalOf, bind_eq_ok, List.forall_mem_cons, List.map_cons, List.sum_cons]
      have hstart : ∀ {start : Money}, first.total = .ok start → start.Built ∧
          0 ≤ start.cents ∧ start.cents < 10 ^ Decimal.precision := by
        intro start htotal
        have hbuiltStart := OrderLine.built_of_total htotal
        obtain ⟨_, rfl⟩ := (hfirst.total_eq_ok hfirstSmall).mp htotal
        exact ⟨hbuiltStart, hfirst.computedCents_nonneg hfirstSmall,
          lt_of_abs_lt hbuiltStart.fits⟩
      constructor
      · rintro ⟨start, htotal, hfold⟩
        obtain ⟨hbuiltStart, hnonneg, hfits⟩ := hstart htotal
        obtain ⟨hall, hsum, hresult⟩ :=
          (foldlM_total_eq_ok hrest hrestSmall hbuiltStart hnonneg hfits).mp hfold
        obtain ⟨hfinite, rfl⟩ := (hfirst.total_eq_ok hfirstSmall).mp htotal
        rw [Money.mk.injEq] at hresult
        obtain ⟨rfl, rfl⟩ := hresult
        exact ⟨⟨⟨hfinite, rfl⟩, hall⟩, hsum, rfl⟩
      · rintro ⟨⟨⟨hfinite, rfl⟩, hall⟩, hsum, rfl⟩
        have htotal := (hfirst.total_eq_ok hfirstSmall).mpr ⟨hfinite, rfl⟩
        obtain ⟨hbuiltStart, hnonneg, hfits⟩ := hstart htotal
        exact ⟨_, htotal, (foldlM_total_eq_ok hrest hrestSmall hbuiltStart hnonneg
          hfits).mpr ⟨hall, hsum, rfl⟩⟩

/-- The rounded exact products have the sum of the computed ones only one by one. -/
theorem sum_exactCents_eq_iff (hbuilt : ∀ line ∈ lines, line.Built)
    (hsmall : ∀ line ∈ lines, line.product < 10 ^ 20) :
    (lines.map OrderLine.exactCents).sum = (lines.map OrderLine.computedCents).sum ↔
      ∀ line ∈ lines, ¬line.ReachesHalfCent := by
  have hle : ∀ line ∈ lines, line.exactCents ≤ line.computedCents := fun line hmem =>
    OrderLine.exactCents_le_computedCents (hbuilt line hmem).product_nonneg (hsmall line hmem)
  have hiff : ∀ line ∈ lines,
      (line.exactCents = line.computedCents ↔ ¬line.ReachesHalfCent) := fun line hmem =>
    OrderLine.computedCents_eq_exactCents_iff (hbuilt line hmem).product_nonneg
      (hsmall line hmem)
  constructor
  · intro hsum line hmem
    rw [← hiff line hmem]
    by_contra hdiffers
    exact absurd hsum (List.sum_lt_sum _ _ hle
      ⟨line, hmem, lt_of_le_of_ne (hle line hmem) hdiffers⟩).ne
  · intro hbelow
    rw [List.map_congr_left fun line hmem => (hiff line hmem).mpr (hbelow line hmem)]

theorem Built.lines_ne_nil {order : Order} (h : order.Built) : order.lines ≠ [] := by
  have haccepted := h.accepted
  simp only [new, bind_eq_ok, require_eq_ok] at haccepted
  obtain ⟨_, _, _, _, _, _, _, hsome, _⟩ := haccepted
  intro hnil
  simp [hnil] at hsome

/-- The total is the exact one if and only if every quantity is a number, the lines are in
one currency, no product reaches a half cent by its first rounding, and the sum fits. -/
theorem total_exact_iff (order : Order) (h : order.Built)
    (hsmall : ∀ line ∈ order.lines, line.product < 10 ^ 20) :
    order.TotalExact ↔ Totals order.lines := by
  have hsums := sum_exactCents_eq_iff h.lines hsmall
  constructor
  · rintro ⟨currency, _, htotal⟩
    obtain ⟨hall, hfits, hsum⟩ := (totalOf_eq_ok h.lines hsmall h.lines_ne_nil).mp htotal
    exact ⟨fun line hmem => (hall line hmem).1, ⟨currency, fun line hmem =>
      (hall line hmem).2⟩, hsums.mp hsum, hsum ▸ hfits⟩
  · intro htotals
    obtain ⟨currency, hcurrency⟩ := htotals.oneCurrency
    have hsum := hsums.mpr htotals.below
    exact ⟨currency, hcurrency, (totalOf_eq_ok h.lines hsmall h.lines_ne_nil).mpr
      ⟨fun line hmem => ⟨htotals.finite line hmem, hcurrency line hmem⟩,
        hsum ▸ htotals.fits, hsum⟩⟩

section Sample

/-- One unit at the price of one. -/
def sampleLine (lineId currency : String) : OrderLine :=
  ⟨lineId, "service", .finite 1, ⟨100, currency⟩⟩

def sampleOrder (lines : List OrderLine) : Order :=
  ⟨"order-1", "identity-1", "action-1", lines, none, .draft⟩

variable {lineId currency : String}

theorem sampleLine_built (hid : PyText.blank lineId = false)
    (hvalid : currencyValid currency = true) (hcode : currencyCode currency = currency) :
    (sampleLine lineId currency).Built := by
  constructor
  · refine ⟨.finite 1, currency, Money.new_eq_ok.mpr ⟨hcode.symm ▸ hvalid, ?_, ?_⟩⟩
    · rw [one_mul, show (100 : ℚ) = ((100 : ℤ) : ℚ) by norm_num, Decimal.roundHalfUp_intCast]
      decide
    · rw [one_mul, show (100 : ℚ) = ((100 : ℤ) : ℚ) by norm_num, Decimal.roundHalfUp_intCast,
        hcode]
      rfl
  · have hservice : PyText.blank "service" = false := by decide
    simp [OrderLine.new, sampleLine, hid, hservice, Decimal.nonPositive, require, bind,
      Except.bind, pure, Except.pure]

theorem sampleLine_product : (sampleLine lineId currency).product = 1 := by
  simp [OrderLine.product, sampleLine, Money.amount]

theorem inContext_one : Decimal.inContext 1 = 1 :=
  @Decimal.inContext_eq 1 1 0 (by decide) (by norm_num) (by norm_num [Decimal.precision])
    (by norm_num)

theorem sampleLine_cents : (sampleLine lineId currency).exactCents = 100 ∧
    (sampleLine lineId currency).computedCents = 100 := by
  rw [OrderLine.exactCents, OrderLine.computedCents, sampleLine_product, inContext_one, one_mul,
    show (100 : ℚ) = ((100 : ℤ) : ℚ) by norm_num, Decimal.roundHalfUp_intCast]
  exact ⟨rfl, rfl⟩

theorem sampleLine_total (hbuilt : (sampleLine lineId currency).Built) :
    (sampleLine lineId currency).total = .ok ⟨100, currency⟩ := by
  rw [hbuilt.total_eq_ok (by rw [sampleLine_product]; norm_num), sampleLine_cents.2]
  exact ⟨⟨1, rfl⟩, rfl⟩

end Sample

/-- A total that is exact. -/
theorem total_exact_sample : (sampleOrder [sampleLine "line-1" "RUB"]).TotalExact := by
  have hbuilt : (sampleLine "line-1" "RUB").Built :=
    sampleLine_built (by decide) (by decide) (by decide)
  apply (total_exact_iff (sampleOrder [sampleLine "line-1" "RUB"])
    ⟨by simpa [sampleOrder] using hbuilt, by decide⟩ ?_).mpr
  · constructor
    · simp only [sampleOrder, List.forall_mem_singleton]
      exact ⟨1, rfl⟩
    · exact ⟨"RUB", by simp [sampleOrder, sampleLine]⟩
    · simp only [sampleOrder, List.forall_mem_singleton, OrderLine.ReachesHalfCent,
        sampleLine_product, inContext_one]
      rintro ⟨cents, hbelow, hreached⟩
      linarith
    · simp only [sampleOrder, List.map_cons, List.map_nil, List.sum_singleton,
        sampleLine_cents.1]
      decide
  · simp only [sampleOrder, List.forall_mem_singleton, sampleLine_product]
    norm_num

/-- Two lines in different currencies are accepted as an order that has no total. -/
theorem mixed_currencies_raise : ¬ ∀ order : Order, order.Built →
    (∀ line ∈ order.lines, line.product < 10 ^ 20) → order.TotalExact := by
  have hrub : (sampleLine "line-1" "RUB").Built :=
    sampleLine_built (by decide) (by decide) (by decide)
  have husd : (sampleLine "line-2" "USD").Built :=
    sampleLine_built (by decide) (by decide) (by decide)
  have hraises : (sampleOrder [sampleLine "line-1" "RUB", sampleLine "line-2" "USD"]).total =
      .error (.valueError "currency mismatch") := by
    simp only [total, sampleOrder, totalOf, sampleLine_total hrub, sampleLine_total husd,
      List.foldlM_cons, List.foldlM_nil]
    rfl
  intro hclaim
  obtain ⟨_, _, htotal⟩ := hclaim
    (sampleOrder [sampleLine "line-1" "RUB", sampleLine "line-2" "USD"])
    ⟨by simpa [sampleOrder] using ⟨hrub, husd⟩, by decide⟩ (by
      simp only [sampleOrder, List.forall_mem_cons, sampleLine_product, List.not_mem_nil,
        IsEmpty.forall_iff, implies_true, and_true]
      norm_num)
  rw [hraises] at htotal
  cases htotal

end Order

end ShemaPlatform
