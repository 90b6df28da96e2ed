/-
The lines of an order through the database: a line that was read, written and
read again is the same line.
-/
import Mathlib.Tactic.NormNum
import ShemaPlatform.Schema

namespace ShemaPlatform

theorem currencyCode_currencyCode {currency : String}
    (h : currencyValid (currencyCode currency) = true) :
    currencyCode (currencyCode currency) = currencyCode currency := by
  rw [currencyValid, Bool.and_eq_true] at h
  have hupper := PyText.upper_upper h.2
  rw [currencyCode, PyText.strip_of_isAlpha h.2]
  exact hupper

theorem Money.new_eq_ok {value : ℚ} {currency : String} {money : Money} :
    Money.new (.finite value) currency = .ok money ↔
      currencyValid (currencyCode currency) = true ∧
        |Decimal.roundHalfUp (value * 100)| < 10 ^ Decimal.precision ∧
        ⟨Decimal.roundHalfUp (value * 100), currencyCode currency⟩ = money := by
  simp only [Money.new, bind_eq_ok, require_eq_ok, pure_eq_ok, exists_const,
    decide_eq_true_eq]

theorem Decimal.toNumeric_eq_ok {digits scale : ℕ} {column : String} {value : ℚ}
    {units : ℤ} :
    (Decimal.finite value).toNumeric digits scale column = .ok units ↔
      |roundHalfUp (value * 10 ^ scale)| < 10 ^ digits ∧
        roundHalfUp (value * 10 ^ scale) = units := by
  simp only [toNumeric, bind_eq_ok, require_eq_ok, pure_eq_ok, exists_const,
    decide_eq_true_eq]

theorem OrderLine.new_eq_ok {line result : OrderLine}
    (h : line.new = .ok result) : result = line := by
  simp only [new, bind_eq_ok, require_eq_ok, pure_eq_ok] at h
  obtain ⟨_, _, _, _, _, _, _, _, rfl⟩ := h
  rfl

namespace OrderLineRow

/-- Writing a line that was read, and reading it again, changes nothing. -/
theorem toLine_of_ofLine {row new : OrderLineRow} {line : OrderLine}
    (hread : row.toLine = .ok line) (hwrite : ofLine line = .ok new) :
    new.toLine = .ok line ∧ new.lineId = row.lineId := by
  simp only [toLine, bind_eq_ok, Money.new_eq_ok] at hread
  obtain ⟨price, ⟨hcode, hfits, rfl⟩, hline⟩ := hread
  obtain rfl := OrderLine.new_eq_ok hline
  simp only [ofLine, bind_eq_ok, Decimal.toNumeric_eq_ok, require_eq_ok,
    pure_eq_ok, exists_const] at hwrite
  obtain ⟨quantity, ⟨_, rfl⟩, _, unitPrice, ⟨_, rfl⟩, _, _, rfl⟩ := hwrite
  refine ⟨?_, rfl⟩
  set cents := Decimal.roundHalfUp (row.unitPrice / 10 ^ 8 * 100) with hcents
  have hquantity : Decimal.roundHalfUp ((row.quantity : ℚ) / 10 ^ 8 * 10 ^ 8) =
      row.quantity := by
    rw [div_mul_cancel₀ _ (by norm_num), Decimal.roundHalfUp_intCast]
  have hprice : Decimal.roundHalfUp (Money.amount ⟨cents, currencyCode
      row.currency⟩ * 10 ^ 8) = cents * 10 ^ 6 := by
    have hunits : Money.amount ⟨cents, currencyCode row.currency⟩ * 10 ^ 8 =
        ((cents * 10 ^ 6 : ℤ) : ℚ) := by
      simp only [Money.amount]
      push_cast
      ring
    rw [hunits, Decimal.roundHalfUp_intCast]
  have hback : Decimal.roundHalfUp (((cents * 10 ^ 6 : ℤ) : ℚ) / 10 ^ 8 * 100) =
      cents := by
    have hunits : ((cents * 10 ^ 6 : ℤ) : ℚ) / 10 ^ 8 * 100 = (cents : ℚ) := by
      push_cast
      ring
    rw [hunits, Decimal.roundHalfUp_intCast]
  simp only [toLine, bind_eq_ok, Money.new_eq_ok, hquantity, hprice, hback,
    currencyCode_currencyCode hcode]
  exact ⟨_, ⟨hcode, hfits, rfl⟩, hline⟩

theorem mapM_toLine_of_ofLine {rows new : List OrderLineRow}
    {lines : List OrderLine} (hread : rows.mapM toLine = .ok lines)
    (hwrite : lines.mapM ofLine = .ok new) :
    new.mapM toLine = .ok lines ∧ new.map lineId = rows.map lineId := by
  induction rows generalizing lines new with
  | nil =>
      obtain rfl := Except.ok.inj hread
      obtain rfl := Except.ok.inj hwrite
      exact ⟨rfl, rfl⟩
  | cons row rest ih =>
      simp only [List.mapM_cons, bind_eq_ok, pure_eq_ok] at hread
      obtain ⟨line, hline, restLines, hrest, rfl⟩ := hread
      simp only [List.mapM_cons, bind_eq_ok, pure_eq_ok] at hwrite
      obtain ⟨row', hrow', restNew, hrestNew, rfl⟩ := hwrite
      obtain ⟨hback, hid⟩ := toLine_of_ofLine hline hrow'
      obtain ⟨hbackRest, hids⟩ := ih hrest hrestNew
      simp only [List.mapM_cons, bind_eq_ok, pure_eq_ok, List.map_cons]
      exact ⟨⟨line, hback, restLines, hbackRest, rfl⟩, by rw [hid, hids]⟩

/-- Lines that were read and rewritten read the same again, in the same order. -/
theorem readLines_of_ofLine {rows stored : Option (List OrderLineRow)}
    {new : List OrderLineRow} {lines : List OrderLine}
    (hread : readLines rows = .ok lines) (hwrite : lines.mapM ofLine = .ok new)
    (hstored : stored.getD [] = new) : readLines stored = .ok lines := by
  obtain ⟨hback, hids⟩ := mapM_toLine_of_ofLine hread hwrite
  have hsorted : new.Pairwise fun a b => a.lineId ≤ b.lineId := by
    rw [← List.pairwise_map (f := lineId) (R := (· ≤ ·)), hids, List.pairwise_map]
    exact List.pairwise_insertionSort _ _
  rw [readLines, hstored, hsorted.insertionSort_eq]
  exact hback

end OrderLineRow

end ShemaPlatform
