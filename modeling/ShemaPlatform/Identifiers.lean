/-
The numbers of companies, and the two functions that check them.
-/
import ShemaPlatform.Monitoring
import ShemaPlatform.PyUnicode

namespace ShemaPlatform

inductive CounterpartyLookupIdentifierType where
  | inn | ogrn | ogrnip
deriving DecidableEq, Repr

def CounterpartyLookupIdentifierType.value : CounterpartyLookupIdentifierType → String
  | .inn => "INN"
  | .ogrn => "OGRN"
  | .ogrnip => "OGRNIP"

/-- `sum(int(digit) * weight for digit, weight in zip(…, …, strict=True))` -/
def strictSum : List Char → List ℕ → Except Failure ℕ
  | [], [] => .ok 0
  | digit :: digits, weight :: weights => do
      let value ← PyText.int [digit]
      let rest ← strictSum digits weights
      return value * weight + rest
  | [], _ :: _ => .error (.valueError "zip() argument 2 is longer than argument 1")
  | _ :: _, [] => .error (.valueError "zip() argument 2 is shorter than argument 1")

/-- The digit at so many places before the end. -/
def digitFromEnd (digits : List Char) (place : ℕ) : List Char :=
  (digits.drop (digits.length - place)).take 1

namespace PublicPreflight

/-- `_inn_valid` -/
def innValid (identifier : List Char) : Except Failure Bool :=
  if identifier.length = 10 then do
    let sum ← strictSum identifier [2, 4, 10, 3, 5, 9, 4, 6, 8, 0]
    let last ← PyText.int (digitFromEnd identifier 1)
    return sum % 11 % 10 == last
  else if identifier.length = 12 then do
    let sum1 ← strictSum identifier [7, 2, 4, 10, 3, 5, 9, 4, 6, 8, 0, 0]
    let sum2 ← strictSum identifier [3, 7, 2, 4, 10, 3, 5, 9, 4, 6, 8, 0]
    let first ← PyText.int (digitFromEnd identifier 2)
    if sum1 % 11 % 10 == first then do
      let last ← PyText.int (digitFromEnd identifier 1)
      return sum2 % 11 % 10 == last
    else
      return false
  else
    return false

/-- `_ogrn_valid` and `_ogrnip_valid`, which differ in length and modulus. -/
def registrationValid (length modulus : ℕ) (identifier : List Char) :
    Except Failure Bool :=
  if identifier.length = length then do
    let number ← PyText.int identifier.dropLast
    let last ← PyText.int (digitFromEnd identifier 1)
    return number % modulus % 10 == last
  else
    return false

def ogrnValid : List Char → Except Failure Bool :=
  registrationValid 13 11

def ogrnipValid : List Char → Except Failure Bool :=
  registrationValid 15 13

/-- `_checksum_valid` -/
def checksumValid (identifierType : CounterpartyLookupIdentifierType)
    (identifier : String) : Except Failure Bool :=
  match identifierType with
  | .inn => innValid identifier.toList
  | .ogrn => ogrnValid identifier.toList
  | .ogrnip => ogrnipValid identifier.toList

end PublicPreflight

/-- The check of a registration number in `validate_counterparty_identifier`. -/
def validateRegistration (length modulus : ℕ) (message : String)
    (normalized : List Char) : Except Failure Unit := do
  require (decide (normalized.length = length)) (.valueError message)
  let number ← PyText.int normalized.dropLast
  let last ← PyText.int (digitFromEnd normalized 1)
  require (number % modulus % 10 == last) (.valueError message)

def validateInn (normalized : List Char) : Except Failure Unit :=
  if normalized.length = 10 then do
    let sum ← strictSum normalized.dropLast [2, 4, 10, 3, 5, 9, 4, 6, 8]
    let last ← PyText.int (digitFromEnd normalized 1)
    require (sum % 11 % 10 == last) (.valueError "invalid INN checksum")
  else if normalized.length = 12 then do
    let sum1 ← strictSum normalized.dropLast.dropLast [7, 2, 4, 10, 3, 5, 9, 4, 6, 8, 0]
    let sum2 ← strictSum normalized.dropLast [3, 7, 2, 4, 10, 3, 5, 9, 4, 6, 8, 0]
    let first ← PyText.int (digitFromEnd normalized 2)
    let last ← PyText.int (digitFromEnd normalized 1)
    require (sum1 % 11 % 10 == first && sum2 % 11 % 10 == last)
      (.valueError "invalid INN checksum")
  else
    .error (.valueError "invalid INN length")

def validateCounterpartyIdentifier (identifierType : CounterpartyIdentifierType)
    (identifier : String) : Except Failure String := do
  let normalized := identifier.toList.filter PyText.isDigit
  require (String.ofList normalized == PyText.strip identifier)
    (.valueError "counterparty identifier must contain digits only")
  match identifierType with
  | .inn => validateInn normalized
  | .ogrn => validateRegistration 13 11 "invalid OGRN" normalized
  | .ogrnip => validateRegistration 15 13 "invalid OGRNIP" normalized
  return String.ofList normalized

/-- An error that is a `ValueError`. -/
def Failure.IsValueError (error : Failure) : Prop :=
  ∃ message, error = .valueError message

theorem int_raises {digits : List Char} {error : Failure}
    (h : PyText.int digits = .error error) : error.IsValueError := by
  unfold PyText.int at h
  split at h
  · cases h
  · exact ⟨_, (Except.error.inj h).symm⟩

theorem strictSum_raises {digits : List Char} {weights : List ℕ} {error : Failure}
    (h : strictSum digits weights = .error error) : error.IsValueError := by
  induction digits generalizing weights with
  | nil =>
      cases weights with
      | nil => cases h
      | cons weight weights => exact ⟨_, (Except.error.inj h).symm⟩
  | cons digit digits ih =>
      cases weights with
      | nil => exact ⟨_, (Except.error.inj h).symm⟩
      | cons weight weights =>
          simp only [strictSum, bind_eq_error] at h
          rcases h with h | ⟨_, _, h | ⟨_, _, h⟩⟩
          · exact int_raises h
          · exact ih h
          · cases h

theorem validateRegistration_raises {length modulus : ℕ} {message : String}
    {normalized : List Char} {error : Failure}
    (h : validateRegistration length modulus message normalized = .error error) :
    error.IsValueError := by
  simp only [validateRegistration, bind_eq_error, require_eq_error] at h
  rcases h with ⟨_, rfl⟩ | ⟨_, _, h | ⟨_, _, h | ⟨_, _, _, rfl⟩⟩⟩
  · exact ⟨_, rfl⟩
  · exact int_raises h
  · exact int_raises h
  · exact ⟨_, rfl⟩

theorem validateInn_raises {normalized : List Char} {error : Failure}
    (h : validateInn normalized = .error error) : error.IsValueError := by
  unfold validateInn at h
  split at h
  · simp only [bind_eq_error, require_eq_error] at h
    rcases h with h | ⟨_, _, h | ⟨_, _, _, rfl⟩⟩
    · exact strictSum_raises h
    · exact int_raises h
    · exact ⟨_, rfl⟩
  · split at h
    · simp only [bind_eq_error, require_eq_error] at h
      rcases h with h | ⟨_, _, h | ⟨_, _, h | ⟨_, _, h | ⟨_, _, _, rfl⟩⟩⟩⟩
      · exact strictSum_raises h
      · exact strictSum_raises h
      · exact int_raises h
      · exact int_raises h
      · exact ⟨_, rfl⟩
    · exact ⟨_, (Except.error.inj h).symm⟩

theorem validate_raises {identifierType : CounterpartyIdentifierType} {identifier : String}
    {error : Failure}
    (h : validateCounterpartyIdentifier identifierType identifier = .error error) :
    error.IsValueError := by
  simp only [validateCounterpartyIdentifier, bind_eq_error, require_eq_error] at h
  rcases h with ⟨_, rfl⟩ | ⟨_, _, h⟩
  · exact ⟨_, rfl⟩
  · cases identifierType with
    | inn =>
        rcases bind_eq_error.mp h with h | ⟨_, _, h⟩
        · exact validateInn_raises h
        · cases h
    | ogrn =>
        rcases bind_eq_error.mp h with h | ⟨_, _, h⟩
        · exact validateRegistration_raises h
        · cases h
    | ogrnip =>
        rcases bind_eq_error.mp h with h | ⟨_, _, h⟩
        · exact validateRegistration_raises h
        · cases h

end ShemaPlatform
