/-
The two checks of company numbers, compared with each other and with the official
check digits.
-/
import ShemaPlatform.Identifiers

namespace ShemaPlatform

open PyText

def weightedSum (weights values : List ℕ) : ℕ :=
  (List.zipWith (· * ·) values weights).sum

/-- The official check digits of a taxpayer number. -/
def OfficialInn (values : List ℕ) : Prop :=
  (values.length = 10 ∧
    values[9]? = some (weightedSum [2, 4, 10, 3, 5, 9, 4, 6, 8] values % 11 % 10)) ∨
  (values.length = 12 ∧
    values[10]? = some (weightedSum [7, 2, 4, 10, 3, 5, 9, 4, 6, 8] values % 11 % 10) ∧
    values[11]? = some (weightedSum [3, 7, 2, 4, 10, 3, 5, 9, 4, 6, 8] values % 11 % 10))

/-- The official check digit of a registration number. -/
def OfficialRegistration (length modulus : ℕ) (values : List ℕ) : Prop :=
  values.length = length ∧
    values[length - 1]? = some (number (values.take (length - 1)) % modulus % 10)

def Official (identifierType : CounterpartyIdentifierType) (digits : List Char) : Prop :=
  PyText.Decimal digits ∧
    match identifierType with
    | .inn => OfficialInn (digits.map digitValue)
    | .ogrn => OfficialRegistration 13 11 (digits.map digitValue)
    | .ogrnip => OfficialRegistration 15 13 (digits.map digitValue)

def CounterpartyIdentifierType.lookup :
    CounterpartyIdentifierType → CounterpartyLookupIdentifierType
  | .inn => .inn
  | .ogrn => .ogrn
  | .ogrnip => .ogrnip

section Sums

theorem strictSum_eq_ok {digits : List Char} {weights : List ℕ} {total : ℕ} :
    strictSum digits weights = .ok total ↔ digits.length = weights.length ∧
      PyText.Decimal digits ∧ total = weightedSum weights (digits.map digitValue) := by
  induction digits generalizing weights total with
  | nil =>
      cases weights with
      | nil =>
          simp only [strictSum, Except.ok.injEq]
          constructor
          · rintro rfl
            exact ⟨rfl, fun c hc => absurd hc List.not_mem_nil, rfl⟩
          · rintro ⟨_, _, rfl⟩
            rfl
      | cons weight weights => simp [strictSum]
  | cons digit digits ih =>
      cases weights with
      | nil => simp [strictSum]
      | cons weight weights =>
          simp only [strictSum, bind_eq_ok, int_eq_ok, ih, pure_eq_ok, List.length_cons,
            Nat.add_right_cancel_iff]
          constructor
          · rintro ⟨value, ⟨hdigit, rfl⟩, rest, ⟨hlength, hdigits, rfl⟩, rfl⟩
            refine ⟨hlength, List.forall_mem_cons.mpr
              ⟨hdigit digit List.mem_cons_self, hdigits⟩, ?_⟩
            simp [weightedSum, number]
          · rintro ⟨hlength, hall, rfl⟩
            obtain ⟨hdigit, hdigits⟩ := List.forall_mem_cons.mp hall
            refine ⟨digitValue digit, ⟨?_, by simp [number]⟩, _, ⟨hlength, hdigits, rfl⟩, ?_⟩
            · intro c hc
              rw [List.mem_singleton.mp hc]
              exact hdigit
            · simp [weightedSum]

theorem number_singleton (value : ℕ) : number [value] = value := by
  simp [number]

theorem digit_eq_ok {c : Char} {value : ℕ} :
    int [c] = .ok value ↔ (decimal c).isSome = true ∧ value = digitValue c := by
  rw [int_eq_ok]
  simp [PyText.Decimal, number]

theorem decimal_singleton {c : Char} : PyText.Decimal [c] ↔ (decimal c).isSome = true := by
  simp [PyText.Decimal]

/-- Weights beyond those given do not count. -/
theorem weightedSum_append {values rest weights : List ℕ}
    (hlength : values.length = weights.length) :
    weightedSum weights (values ++ rest) = weightedSum weights values := by
  have hzip := @List.zipWith_append _ _ _ (fun (x y : ℕ) => x * y) values rest weights []
    hlength
  rw [List.append_nil, List.zipWith_nil_right, List.append_nil] at hzip
  rw [weightedSum, hzip, weightedSum]

theorem weightedSum_zero {values rest weights zeros : List ℕ}
    (hlength : values.length = weights.length) (hzeros : ∀ weight ∈ zeros, weight = 0) :
    weightedSum (weights ++ zeros) (values ++ rest) = weightedSum weights values := by
  have hsum : (List.zipWith (· * ·) rest zeros).sum = 0 := by
    induction rest generalizing zeros with
    | nil => simp
    | cons value rest ih =>
        cases zeros with
        | nil => simp
        | cons weight zeros =>
            obtain ⟨rfl, hrest⟩ := List.forall_mem_cons.mp hzeros
            simp [ih hrest]
  rw [weightedSum, List.zipWith_append hlength, List.sum_append, hsum, Nat.add_zero,
    weightedSum]

theorem eq_append_of_length {α : Type} {l : List α} {n : ℕ} (h : l.length = n + 1) :
    ∃ init last, l = init ++ [last] ∧ init.length = n := by
  rcases List.eq_nil_or_concat l with rfl | ⟨init, last, rfl⟩
  · cases h
  · rw [List.concat_eq_append] at h ⊢
    refine ⟨init, last, rfl, ?_⟩
    rw [List.length_append, List.length_singleton] at h
    omega

theorem digitFromEnd_one (init : List Char) (c : Char) :
    digitFromEnd (init ++ [c]) 1 = [c] := by
  simp [digitFromEnd]

theorem digitFromEnd_two (init : List Char) (c d : Char) :
    digitFromEnd (init ++ [c] ++ [d]) 2 = [c] := by
  simp [digitFromEnd]

end Sums

section Registration

variable {digits : List Char} {length modulus : ℕ}

theorem registrationValid_eq_true (hlength : 0 < length) :
    PublicPreflight.registrationValid length modulus digits = .ok true ↔
      PyText.Decimal digits ∧ OfficialRegistration length modulus (digits.map digitValue) := by
  rw [PublicPreflight.registrationValid, OfficialRegistration, List.length_map]
  by_cases h : digits.length = length
  · obtain ⟨init, last, rfl, hinit⟩ := eq_append_of_length (n := length - 1)
      (h.trans (by omega))
    rw [if_pos h]
    simp only [bind_eq_ok, int_eq_ok, List.dropLast_concat, digitFromEnd_one, pure_eq_ok,
      beq_iff_eq, decimal_append, decimal_singleton, List.map_append, List.map_cons,
      List.map_nil, number_singleton, h, true_and]
    rw [List.take_append_of_le_length (by rw [List.length_map]; omega),
      List.take_of_length_le (by rw [List.length_map]; omega),
      List.getElem?_append_right (by rw [List.length_map]; omega), List.length_map, hinit,
      Nat.sub_self]
    constructor
    · rintro ⟨_, ⟨hdecimal, rfl⟩, _, ⟨hlast, rfl⟩, hcheck⟩
      exact ⟨⟨hdecimal, hlast⟩, congrArg some hcheck.symm⟩
    · rintro ⟨⟨hdecimal, hlast⟩, hcheck⟩
      exact ⟨_, ⟨hdecimal, rfl⟩, _, ⟨hlast, rfl⟩, (Option.some.inj hcheck).symm⟩
  · rw [if_neg h]
    simp [h]

theorem validateRegistration_eq_ok {message : String} :
    validateRegistration length modulus message digits = .ok () ↔
      PublicPreflight.registrationValid length modulus digits = .ok true := by
  rw [validateRegistration, PublicPreflight.registrationValid]
  by_cases h : digits.length = length
  · rw [if_pos h]
    simp only [bind_eq_ok, require_eq_ok, pure_eq_ok, h, decide_true, true_and, exists_const]
  · rw [if_neg h]
    simp [bind_eq_ok, h]

end Registration

section Inn

variable {digits : List Char}

/-- The sums over the first ten and eleven of twelve digits, with the weights
filled up with zeros. -/
theorem twelve_sums {values : List ℕ} (first last : ℕ) (hvalues : values.length = 10) :
    weightedSum [7, 2, 4, 10, 3, 5, 9, 4, 6, 8, 0, 0] (values ++ [first] ++ [last]) =
        weightedSum [7, 2, 4, 10, 3, 5, 9, 4, 6, 8] (values ++ [first] ++ [last]) ∧
      weightedSum [3, 7, 2, 4, 10, 3, 5, 9, 4, 6, 8, 0] (values ++ [first] ++ [last]) =
        weightedSum [3, 7, 2, 4, 10, 3, 5, 9, 4, 6, 8] (values ++ [first] ++ [last]) := by
  constructor
  · rw [List.append_assoc]
    exact (@weightedSum_zero values _ [7, 2, 4, 10, 3, 5, 9, 4, 6, 8] [0, 0] hvalues
      (by simp)).trans (weightedSum_append hvalues).symm
  · have hlength : (values ++ [first]).length =
        [3, 7, 2, 4, 10, 3, 5, 9, 4, 6, 8].length := by
      rw [List.length_append, hvalues]
      rfl
    exact (@weightedSum_zero (values ++ [first]) _ [3, 7, 2, 4, 10, 3, 5, 9, 4, 6, 8] [0]
      hlength (by simp)).trans (weightedSum_append hlength).symm

theorem innValid_eq_true :
    PublicPreflight.innValid digits = .ok true ↔
      PyText.Decimal digits ∧ OfficialInn (digits.map digitValue) := by
  rw [PublicPreflight.innValid, OfficialInn, List.length_map]
  by_cases hten : digits.length = 10
  · obtain ⟨init, last, rfl, hinit⟩ := eq_append_of_length hten
    have hvalues : (init.map digitValue).length = [2, 4, 10, 3, 5, 9, 4, 6, 8].length := by
      rw [List.length_map, hinit]
      rfl
    have hsum := @weightedSum_zero (init.map digitValue) [digitValue last] _ [0] hvalues
      (by simp)
    rw [if_pos hten]
    simp only [bind_eq_ok, strictSum_eq_ok, digitFromEnd_one, digit_eq_ok, pure_eq_ok,
      beq_iff_eq, List.map_append, List.map_cons, List.map_nil, hten, true_and,
      weightedSum_append hvalues]
    rw [List.getElem?_append_right (by rw [List.length_map, hinit]), List.length_map, hinit,
      decimal_append, decimal_singleton]
    constructor
    · rintro ⟨_, ⟨_, ⟨hdecimal, hlast⟩, rfl⟩, _, ⟨_, rfl⟩, hcheck⟩
      refine ⟨⟨hdecimal, hlast⟩, Or.inl (congrArg some ?_)⟩
      exact hcheck.symm.trans (congrArg (fun sum => sum % 11 % 10) hsum)
    · rintro ⟨⟨hdecimal, hlast⟩, hcheck | ⟨hlength, _⟩⟩
      · refine ⟨_, ⟨rfl, ⟨hdecimal, hlast⟩, rfl⟩, _, ⟨hlast, rfl⟩, ?_⟩
        exact (congrArg (fun sum => sum % 11 % 10) hsum).trans (Option.some.inj hcheck).symm
      · cases hlength
  · rw [if_neg hten]
    by_cases htwelve : digits.length = 12
    · obtain ⟨front, last, rfl, hfront⟩ := eq_append_of_length htwelve
      obtain ⟨init, first, rfl, hinit⟩ := eq_append_of_length hfront
      have hvalues : (init.map digitValue).length = 10 := by
        rw [List.length_map, hinit]
      obtain ⟨hsum1, hsum2⟩ := twelve_sums (digitValue first) (digitValue last) hvalues
      have hfirst : (init.map digitValue ++ [digitValue first] ++ [digitValue last])[10]? =
          some (digitValue first) := by
        rw [List.append_assoc, List.getElem?_append_right (by rw [hvalues]), hvalues]
        rfl
      have hlast : (init.map digitValue ++ [digitValue first] ++ [digitValue last])[11]? =
          some (digitValue last) := by
        rw [List.getElem?_append_right (by rw [List.length_append, hvalues]; exact Nat.le_refl 11),
          List.length_append, hvalues]
        rfl
      rw [if_pos htwelve, List.map_append, List.map_append, List.map_singleton,
        List.map_singleton, hfirst, hlast]
      simp only [bind_eq_ok, strictSum_eq_ok, digitFromEnd_one, digitFromEnd_two, digit_eq_ok,
        htwelve, List.map_append, List.map_singleton, Option.some.injEq]
      generalize init.map digitValue ++ [digitValue first] ++ [digitValue last] = values
        at hsum1 hsum2 ⊢
      rw [decimal_append, decimal_append, decimal_singleton, decimal_singleton]
      constructor
      · rintro ⟨_, ⟨_, hdecimal, rfl⟩, _, ⟨_, _, rfl⟩, _, ⟨_, rfl⟩, hcheck⟩
        split at hcheck
        · rename_i hcheckFirst
          simp only [bind_eq_ok, digit_eq_ok, pure_eq_ok, beq_iff_eq] at hcheck hcheckFirst
          obtain ⟨_, ⟨_, rfl⟩, hcheckLast⟩ := hcheck
          refine ⟨hdecimal, Or.inr ⟨trivial, ?_, ?_⟩⟩
          · rw [← hcheckFirst, hsum1]
          · rw [← hcheckLast, hsum2]
        · cases hcheck
      · rintro ⟨hdecimal, ⟨hlength, _⟩ | ⟨_, hcheckFirst, hcheckLast⟩⟩
        · cases hlength
        · refine ⟨_, ⟨rfl, hdecimal, rfl⟩, _, ⟨rfl, hdecimal, rfl⟩, _,
            ⟨hdecimal.1.2, rfl⟩, ?_⟩
          rw [if_pos (by rw [hsum1, ← hcheckFirst, beq_self_eq_true])]
          simp only [bind_eq_ok, digit_eq_ok, pure_eq_ok, beq_iff_eq]
          refine ⟨_, ⟨hdecimal.2, rfl⟩, ?_⟩
          rw [hsum2, ← hcheckLast]
    · rw [if_neg htwelve]
      simp [hten, htwelve]

theorem validateInn_eq_ok :
    validateInn digits = .ok () ↔ digits.length = 10 ∧
      PyText.Decimal digits ∧ OfficialInn (digits.map digitValue) := by
  rw [validateInn]
  by_cases hten : digits.length = 10
  · obtain ⟨init, last, rfl, hinit⟩ := eq_append_of_length hten
    have hvalues : (init.map digitValue).length = [2, 4, 10, 3, 5, 9, 4, 6, 8].length := by
      rw [List.length_map, hinit]
      rfl
    rw [if_pos hten, and_iff_right hten, OfficialInn, List.length_map]
    simp only [bind_eq_ok, strictSum_eq_ok, List.dropLast_concat, digitFromEnd_one,
      digit_eq_ok, require_eq_ok, beq_iff_eq, List.map_append, List.map_cons, List.map_nil,
      hten, true_and, weightedSum_append hvalues]
    rw [List.getElem?_append_right (by rw [List.length_map, hinit]), List.length_map, hinit,
      decimal_append, decimal_singleton]
    constructor
    · rintro ⟨_, ⟨_, hdecimal, rfl⟩, _, ⟨hlast, rfl⟩, hcheck⟩
      exact ⟨⟨hdecimal, hlast⟩, Or.inl (congrArg some hcheck.symm)⟩
    · rintro ⟨⟨hdecimal, hlast⟩, hcheck | ⟨hlength, _⟩⟩
      · exact ⟨_, ⟨rfl, hdecimal, rfl⟩, _, ⟨hlast, rfl⟩, (Option.some.inj hcheck).symm⟩
      · cases hlength
  · rw [if_neg hten]
    apply iff_of_false
    · intro hvalid
      split at hvalid
      · -- the weights are one too many for ten digits
        rename_i htwelve
        obtain ⟨sum, hsum, _⟩ := bind_eq_ok.mp hvalid
        obtain ⟨hlength, _⟩ := strictSum_eq_ok.mp hsum
        rw [List.length_dropLast, List.length_dropLast, htwelve] at hlength
        cases hlength
      · cases hvalid
    · exact fun h => hten h.1

end Inn

section Agreement

variable {identifierType : CounterpartyIdentifierType} {identifier : String}

/-- The two checks accept the same number, the one with the official digits. -/
structure ChecksAgree (identifierType : CounterpartyIdentifierType) (identifier : String) :
    Prop where
  validate : (∃ normalized, validateCounterpartyIdentifier identifierType identifier =
    .ok normalized) ↔ Official identifierType identifier.toList
  preflight : PublicPreflight.checksumValid identifierType.lookup identifier = .ok true ↔
    Official identifierType identifier.toList

theorem checksumValid_eq_true :
    PublicPreflight.checksumValid identifierType.lookup identifier = .ok true ↔
      Official identifierType identifier.toList := by
  cases identifierType with
  | inn => exact innValid_eq_true
  | ogrn => exact registrationValid_eq_true (by decide)
  | ogrnip => exact registrationValid_eq_true (by decide)

theorem validate_eq_ok (hdigits : ∀ c ∈ identifier.toList, isDigit c = true) :
    (∃ normalized, validateCounterpartyIdentifier identifierType identifier =
      .ok normalized) ↔ Official identifierType identifier.toList ∧
        (identifierType = .inn → identifier.toList.length = 10) := by
  have hnormalized : identifier.toList.filter isDigit = identifier.toList :=
    List.filter_eq_self.mpr hdigits
  have hstrip : strip identifier = identifier :=
    strip_of_not_space fun c hc => isSpace_of_isDigit (hdigits c hc)
  simp only [validateCounterpartyIdentifier, hnormalized, hstrip, String.ofList_toList,
    beq_self_eq_true, bind_eq_ok, require_eq_ok, true_and, exists_const]
  have hdone : ∀ {checked : Except Failure Unit}, (∃ normalized,
      (checked >>= fun _ => pure identifier) = .ok normalized) ↔ checked = .ok () := by
    intro checked
    simp only [bind_eq_ok, pure_eq_ok]
    constructor
    · rintro ⟨_, _, hchecked, _⟩
      exact hchecked
    · intro hchecked
      exact ⟨identifier, (), hchecked, rfl⟩
  cases identifierType with
  | inn =>
      refine hdone.trans ?_
      rw [validateInn_eq_ok, and_comm]
      exact and_congr_right fun _ => ⟨fun hten _ => hten, fun hten => hten rfl⟩
  | ogrn =>
      refine hdone.trans ?_
      rw [validateRegistration_eq_ok, registrationValid_eq_true (by decide)]
      exact (and_iff_left fun h => absurd h (by decide)).symm
  | ogrnip =>
      refine hdone.trans ?_
      rw [validateRegistration_eq_ok, registrationValid_eq_true (by decide)]
      exact (and_iff_left fun h => absurd h (by decide)).symm

/-- The checks agree on every number but the taxpayer numbers of twelve digits
that have the official check digits. -/
theorem checksAgree_iff (hdigits : ∀ c ∈ identifier.toList, isDigit c = true) :
    ChecksAgree identifierType identifier ↔
      ¬ (identifierType = .inn ∧ identifier.toList.length = 12 ∧
        Official identifierType identifier.toList) := by
  constructor
  · rintro ⟨hvalidate, _⟩ ⟨rfl, htwelve, hofficial⟩
    obtain ⟨_, hten⟩ := (validate_eq_ok hdigits).mp (hvalidate.mpr hofficial)
    rw [htwelve] at hten
    exact absurd (hten rfl) (by decide)
  · intro hnot
    constructor
    · rw [validate_eq_ok hdigits]
      apply and_iff_left_of_imp
      rintro hofficial rfl
      have hlength := hofficial.2
      change OfficialInn _ at hlength
      rw [OfficialInn, List.length_map] at hlength
      rcases hlength with ⟨hten, _⟩ | ⟨htwelve, _⟩
      · exact hten
      · exact absurd ⟨rfl, htwelve, hofficial⟩ hnot
    · exact checksumValid_eq_true

theorem checksAgree_iff_sample : ChecksAgree .inn "7707083893" := by
  have hdigits : "7707083893".toList.all isDigit = true := by decide +kernel
  apply (checksAgree_iff (List.all_eq_true.mp hdigits)).mpr
  rintro ⟨_, htwelve, _⟩
  exact absurd htwelve (by decide)

/-- A taxpayer number of twelve digits that only one of the checks accepts. -/
theorem twelve_digits_refused :
    validateCounterpartyIdentifier .inn "500100732259" =
        .error (.valueError "zip() argument 2 is longer than argument 1") ∧
      PublicPreflight.checksumValid .inn "500100732259" = .ok true ∧
      ¬ ChecksAgree .inn "500100732259" := by
  have hrefused : validateCounterpartyIdentifier .inn "500100732259" =
      .error (.valueError "zip() argument 2 is longer than argument 1") := by decide +kernel
  have haccepted : PublicPreflight.checksumValid .inn "500100732259" = .ok true := by
    decide +kernel
  refine ⟨hrefused, haccepted, ?_⟩
  rintro ⟨hvalidate, hpreflight⟩
  obtain ⟨normalized, hnormalized⟩ := hvalidate.mpr (hpreflight.mp haccepted)
  rw [hrefused] at hnormalized
  cases hnormalized

end Agreement

end ShemaPlatform
