/-
Decimal arithmetic in the default 28-digit context, and money as whole
hundredths of a three-letter currency.
-/
import Mathlib.Data.Int.Log
import Mathlib.Data.Rat.Floor
import ShemaPlatform.Errors
import ShemaPlatform.PyText

namespace ShemaPlatform

/-- A `decimal.Decimal`: exact when finite. -/
inductive Decimal where
  | finite (value : ℚ)
  | infinite (negative : Bool)
  | nan
deriving DecidableEq

namespace Decimal

/-- `ROUND_HALF_UP`: ties go away from zero. -/
def roundHalfUp (x : ℚ) : ℤ :=
  if 0 ≤ x then ⌊x + 1 / 2⌋ else -⌊-x + 1 / 2⌋

/-- `ROUND_HALF_EVEN` -/
def roundHalfEven (x : ℚ) : ℤ :=
  let below := ⌊x⌋
  if x - below < 1 / 2 then below
  else if 1 / 2 < x - below then below + 1
  else if below % 2 = 0 then below else below + 1

/-- The default context: 28 significant digits. -/
def precision : ℕ := 28

/-- A finite result rounded into the context. -/
def inContext (x : ℚ) : ℚ :=
  if x = 0 then 0
  else
    let unit : ℚ := 10 ^ (Int.log 10 |x| - (precision - 1 : ℤ))
    roundHalfEven (x / unit) * unit

def add : Decimal → Decimal → Except Failure Decimal
  | .finite a, .finite b => .ok (.finite (inContext (a + b)))
  | .nan, _ => .ok .nan
  | _, .nan => .ok .nan
  | .infinite a, .infinite b =>
      if a = b then .ok (.infinite a) else .error .invalidOperation
  | .infinite a, .finite _ => .ok (.infinite a)
  | .finite _, .infinite b => .ok (.infinite b)

def mul : Decimal → Decimal → Except Failure Decimal
  | .finite a, .finite b => .ok (.finite (inContext (a * b)))
  | .nan, _ => .ok .nan
  | _, .nan => .ok .nan
  | .infinite a, .infinite b => .ok (.infinite (a != b))
  | .infinite a, .finite b | .finite b, .infinite a =>
      if b = 0 then .error .invalidOperation
      else .ok (.infinite (a != decide (b < 0)))

/-- `value <= 0`; an ordered comparison with a NaN is invalid. -/
def nonPositive : Decimal → Except Failure Bool
  | .finite a => .ok (decide (a ≤ 0))
  | .infinite negative => .ok negative
  | .nan => .error .invalidOperation

/-- A value stored in a `numeric(digits, scale)` column, as a count of the
smallest units it can hold. -/
def toNumeric (digits scale : ℕ) (column : String) :
    Decimal → Except Failure ℤ
  | .finite value => do
      let units := roundHalfUp (value * 10 ^ scale)
      require (decide (|units| < 10 ^ digits)) (.numericOverflow column)
      return units
  | _ => .error (.numericOverflow column)

theorem roundHalfUp_intCast (n : ℤ) : roundHalfUp (n : ℚ) = n := by
  unfold roundHalfUp
  have hfloor : ∀ m : ℤ, ⌊(m : ℚ) + 1 / 2⌋ = m := by
    intro m
    rw [Int.floor_intCast_add]
    norm_num
  split
  · exact hfloor n
  · have h := hfloor (-n)
    push_cast at h
    rw [h]
    ring

end Decimal

/-- The three ASCII letters of a normalized currency code. -/
def currencyCode (currency : String) : String :=
  PyText.upper (PyText.strip currency)

def currencyValid (code : String) : Bool :=
  code.length == 3 && code.toList.all Char.isAlpha

/-- An amount of money; the amount has been quantized to hundredths. -/
structure Money where
  cents : ℤ
  currency : String
deriving DecidableEq

namespace Money

/-- The amount as the decimal it is. -/
def amount (money : Money) : ℚ := money.cents / 100

/-- `str(amount)` of an amount with two decimal places. -/
def amountText (money : Money) : String :=
  let units := money.cents.natAbs / 100
  let rest := money.cents.natAbs % 100
  (if money.cents < 0 then "-" else "") ++ toString units ++ "." ++
    toString (rest / 10) ++ toString (rest % 10)

/-- `Money(amount, currency)` -/
def new (amount : Decimal) (currency : String) : Except Failure Money := do
  let code := currencyCode currency
  match amount with
  | .finite value =>
      require (currencyValid code)
        (.valueError "currency must be a 3-letter ASCII code")
      let cents := Decimal.roundHalfUp (value * 100)
      -- quantize refuses a coefficient that does not fit the context
      require (decide (|cents| < 10 ^ Decimal.precision)) .invalidOperation
      return ⟨cents, code⟩
  | _ => throw (.valueError "amount must be finite")

def requireSameCurrency (left right : Money) : Except Failure Unit :=
  require (left.currency == right.currency) (.valueError "currency mismatch")

def add (left right : Money) : Except Failure Money := do
  requireSameCurrency left right
  let total ← Decimal.add (.finite left.amount) (.finite right.amount)
  new total left.currency

def multiply (money : Money) (quantity : Decimal) : Except Failure Money := do
  require (!(← quantity.nonPositive)) (.valueError "quantity must be positive")
  let product ← Decimal.mul (.finite money.amount) quantity
  new product money.currency

end Money

end ShemaPlatform
