/-
One run of the preflight, with every way in which its provider can fail.
-/
import ShemaPlatform.IdentifierAgreement
import ShemaPlatform.PublicPreflight

namespace ShemaPlatform

open Calendar

/-- The attempts that `BoundedCounterpartyLookup.lookup` makes of those left. -/
def lookupAttempts (answer : ℕ → LookupAnswer) (attempt : ℕ) : ℕ → ℕ
  | 0 => 0
  | left + 1 =>
      match answer attempt with
      | .ok _ => 1
      | .error error =>
          if error.final (decide (left = 0)) then 1
          else lookupAttempts answer (attempt + 1) left + 1

/-- What a run finds outside: the cache, the budget for lookups, the provider. -/
structure PreflightSetting where
  cached : String → Option CounterpartyPreflightSnapshot
  exhausted : Bool
  answer : ℕ → LookupAnswer

namespace PublicPreflight

/-- What `consume_lookup_budget` raises. -/
def lookupExhausted : Failure :=
  .rateLimited "registry_lookup rate limit exceeded" "registry_lookup"

/-- `run`, with the number of attempts it makes. -/
def run (service : PublicCounterpartyPreflightService) (payload : PublicIntakePayload)
    (requestId : String) (now : Instant) (setting : PreflightSetting) :
    Except Failure CounterpartyPreflightSnapshot × ℕ :=
  match begin service payload requestId now with
  | .error error => (.error error, 0)
  | .ok (.inl snapshot) => (.ok snapshot, 0)
  | .ok (.inr lookup) =>
      match setting.cached lookup.cacheKey with
      | some snapshot => (.ok snapshot, 0)
      | none =>
          if setting.exhausted then (.error lookupExhausted, 0)
          else match counterpartyLookupQuery lookup.identifierType lookup.identifier with
            | .error error => (.error error, 0)
            | .ok _ =>
                ((ask service payload.companyName requestId now lookup setting.answer).map
                  Prod.fst, lookupAttempts setting.answer 1 2)

/-- Only the budget raises, and a registry that did not answer is on the snapshot. -/
structure Withstands (setting : PreflightSetting)
    (result : Except Failure CounterpartyPreflightSnapshot × ℕ) : Prop where
  bounded : result.2 ≤ 2
  raised : ∀ error, result.1 = .error error →
    setting.exhausted = true ∧ error = lookupExhausted
  unavailable : ∀ snapshot, result.1 = .ok snapshot → 0 < result.2 →
    (∀ attempt, 1 ≤ attempt → attempt ≤ result.2 → ∀ record,
      setting.answer attempt ≠ .ok record) →
    snapshot.decision = .unknown ∧ "PROVIDER_UNAVAILABLE" ∈ snapshot.flags

end PublicPreflight

/-- The lengths of a number, by its type. -/
def CounterpartyLookupIdentifierType.lengths : CounterpartyLookupIdentifierType → List ℕ
  | .inn => [10, 12]
  | .ogrn => [13]
  | .ogrnip => [15]

/-- A number of the right length has decimal digits only. -/
def ReadableIdentifier (payload : PublicIntakePayload) : Prop :=
  ∀ company ∈ PublicPreflight.resolveIdentifier payload,
    company.2.toList.length ∈ company.1.lengths → PyText.Decimal company.2.toList

/-- What the preflight does not catch. -/
def LookupError.unclassified : LookupError → Bool
  | .other _ => true
  | _ => false

/-- No attempt that is made raises what the preflight does not catch. -/
def ClassifiedAnswers (answer : ℕ → LookupAnswer) : Prop :=
  ∀ error, answer 1 = .error error → error.unclassified = false ∧
    (error.final false = false → ∀ second, answer 2 = .error second →
      second.unclassified = false)

section Checksums

open PublicPreflight

theorem decimal_digitFromEnd {digits : List Char} (h : PyText.Decimal digits) (place : ℕ) :
    PyText.Decimal (digitFromEnd digits place) :=
  fun c hc => h c (List.mem_of_mem_drop (List.mem_of_mem_take hc))

/-- Digits that are decimal are read. -/
theorem int_of_decimal {digits : List Char} (h : PyText.Decimal digits) :
    ∃ n, PyText.int digits = .ok n :=
  ⟨_, PyText.int_eq_ok.mpr ⟨h, rfl⟩⟩

theorem strictSum_of_decimal (weights : List ℕ) {digits : List Char}
    (hlength : digits.length = weights.length) (h : PyText.Decimal digits) :
    ∃ total, strictSum digits weights = .ok total :=
  ⟨_, strictSum_eq_ok.mpr ⟨hlength, h, rfl⟩⟩

theorem innValid_decides {identifier : List Char} :
    (∃ valid, innValid identifier = .ok valid) ↔
      (identifier.length ∈ CounterpartyLookupIdentifierType.inn.lengths →
        PyText.Decimal identifier) := by
  simp only [CounterpartyLookupIdentifierType.lengths, List.mem_cons, List.not_mem_nil,
    or_false]
  by_cases hten : identifier.length = 10
  · simp only [innValid, hten, if_true, bind_eq_ok, pure_eq_ok, true_or, true_implies]
    constructor
    · rintro ⟨_, sum, hsum, _⟩
      exact (strictSum_eq_ok.mp hsum).2.1
    · intro hdigits
      obtain ⟨sum, hsum⟩ := strictSum_of_decimal [2, 4, 10, 3, 5, 9, 4, 6, 8, 0] hten
        hdigits
      obtain ⟨last, hlast⟩ := int_of_decimal (decimal_digitFromEnd hdigits 1)
      exact ⟨_, sum, hsum, last, hlast, rfl⟩
  · by_cases htwelve : identifier.length = 12
    · simp only [innValid, htwelve, if_true, bind_eq_ok, or_true, true_implies,
        show ¬ 12 = 10 by decide, if_false]
      constructor
      · rintro ⟨_, sum, hsum, _⟩
        exact (strictSum_eq_ok.mp hsum).2.1
      · intro hdigits
        obtain ⟨sum, hsum⟩ := strictSum_of_decimal [7, 2, 4, 10, 3, 5, 9, 4, 6, 8, 0, 0]
          htwelve hdigits
        obtain ⟨second, hsecond⟩ := strictSum_of_decimal [3, 7, 2, 4, 10, 3, 5, 9, 4, 6, 8, 0]
          htwelve hdigits
        obtain ⟨first, hfirst⟩ := int_of_decimal (decimal_digitFromEnd hdigits 2)
        obtain ⟨last, hlast⟩ := int_of_decimal (decimal_digitFromEnd hdigits 1)
        by_cases hcheck : (sum % 11 % 10 == first) = true
        · exact ⟨second % 11 % 10 == last, sum, hsum, second, hsecond, first, hfirst, by
            simp only [hcheck, if_true, bind_eq_ok, pure_eq_ok]
            exact ⟨last, hlast, rfl⟩⟩
        · exact ⟨false, sum, hsum, second, hsecond, first, hfirst, by
            simp only [hcheck]
            rfl⟩
    · simp [innValid, hten, htwelve]

theorem registrationValid_decides {length modulus : ℕ} {identifier : List Char}
    (hlength : 0 < length) :
    (∃ valid, registrationValid length modulus identifier = .ok valid) ↔
      (identifier.length = length → PyText.Decimal identifier) := by
  by_cases hsame : identifier.length = length
  · simp only [registrationValid, hsame, if_true, bind_eq_ok, pure_eq_ok, true_implies]
    constructor
    · rintro ⟨_, number, hnumber, last, hlast, _⟩
      obtain ⟨init, c, rfl, _⟩ := eq_append_of_length
        (hsame.trans (Nat.succ_pred_eq_of_pos hlength).symm)
      rw [List.dropLast_concat] at hnumber
      rw [digitFromEnd_one] at hlast
      exact PyText.decimal_append.mpr
        ⟨(PyText.int_eq_ok.mp hnumber).1, (PyText.int_eq_ok.mp hlast).1⟩
    · intro hdigits
      have hinit : PyText.Decimal identifier.dropLast :=
        fun c hc => hdigits c (List.mem_of_mem_dropLast hc)
      obtain ⟨number, hnumber⟩ := int_of_decimal hinit
      obtain ⟨last, hlast⟩ := int_of_decimal (decimal_digitFromEnd hdigits 1)
      exact ⟨_, number, hnumber, last, hlast, rfl⟩
  · simp [registrationValid, hsame]

/-- The checksum is computed when the digits of a number of the right length are
decimal. -/
theorem checksumValid_decides {identifierType : CounterpartyLookupIdentifierType}
    {identifier : String} :
    (∃ valid, checksumValid identifierType identifier = .ok valid) ↔
      (identifier.toList.length ∈ identifierType.lengths →
        PyText.Decimal identifier.toList) := by
  cases identifierType with
  | inn => exact innValid_decides
  | ogrn =>
      simp only [CounterpartyLookupIdentifierType.lengths, List.mem_singleton]
      exact registrationValid_decides (by decide)
  | ogrnip =>
      simp only [CounterpartyLookupIdentifierType.lengths, List.mem_singleton]
      exact registrationValid_decides (by decide)

theorem innValid_raises {identifier : List Char} {error : Failure}
    (h : innValid identifier = .error error) : error.IsValueError := by
  unfold innValid at h
  split at h
  · simp only [bind_eq_error] at h
    rcases h with h | ⟨_, _, h | ⟨_, _, h⟩⟩
    · exact strictSum_raises h
    · exact int_raises h
    · cases h
  · split at h
    · simp only [bind_eq_error] at h
      rcases h with h | ⟨_, _, h | ⟨_, _, h | ⟨_, _, h⟩⟩⟩
      · exact strictSum_raises h
      · exact strictSum_raises h
      · exact int_raises h
      · split at h
        · simp only [bind_eq_error] at h
          rcases h with h | ⟨_, _, h⟩
          · exact int_raises h
          · cases h
        · cases h
    · cases h

theorem registrationValid_raises {length modulus : ℕ} {identifier : List Char}
    {error : Failure} (h : registrationValid length modulus identifier = .error error) :
    error.IsValueError := by
  unfold registrationValid at h
  split at h
  · simp only [bind_eq_error] at h
    rcases h with h | ⟨_, _, h | ⟨_, _, h⟩⟩
    · exact int_raises h
    · exact int_raises h
    · cases h
  · cases h

theorem checksumValid_raises {identifierType : CounterpartyLookupIdentifierType}
    {identifier : String} {error : Failure}
    (h : checksumValid identifierType identifier = .error error) : error.IsValueError := by
  cases identifierType with
  | inn => exact innValid_raises h
  | ogrn => exact registrationValid_raises h
  | ogrnip => exact registrationValid_raises h

end Checksums

section Lookups

variable {answer : ℕ → LookupAnswer} {record : CounterpartyProviderRecord}

theorem lookupAttempts_le (answer : ℕ → LookupAnswer) (attempt left : ℕ) :
    lookupAttempts answer attempt left ≤ left := by
  induction left generalizing attempt with
  | zero => exact le_rfl
  | succ left ih =>
      unfold lookupAttempts
      split
      · omega
      · split
        · omega
        · exact Nat.succ_le_succ (ih (attempt + 1))

/-- A record comes from an attempt that was made. -/
theorem attempt_of_boundedLookup {attempt left : ℕ}
    (h : boundedLookup answer attempt left = .ok record) :
    ∃ made, attempt ≤ made ∧ made < attempt + lookupAttempts answer attempt left ∧
      answer made = .ok record := by
  induction left generalizing attempt with
  | zero => cases h
  | succ left ih =>
      unfold boundedLookup at h
      unfold lookupAttempts
      cases hanswer : answer attempt with
      | ok found =>
          simp only [hanswer] at h ⊢
          exact ⟨attempt, le_rfl, Nat.lt_succ_self attempt, hanswer.trans h⟩
      | error error =>
          simp only [hanswer] at h ⊢
          split at h
          · cases h
          · rename_i hretry
            obtain ⟨made, hfirst, hlast, hmade⟩ := ih h
            rw [if_neg hretry]
            exact ⟨made, by omega, by omega, hmade⟩

theorem final_last (error : LookupError) : error.final true = true := by
  cases error with
  | provider code retryable => exact Bool.or_true _
  | _ => rfl

/-- The last of two attempts is answered as it is. -/
theorem boundedLookup_last (attempt : ℕ) :
    boundedLookup answer attempt 1 = answer attempt := by
  unfold boundedLookup
  cases answer attempt with
  | ok record => rfl
  | error error => simp only [decide_true, final_last, if_true]

theorem classified_iff : (∀ error, boundedLookup answer 1 2 = .error error →
    error.unclassified = false) ↔ ClassifiedAnswers answer := by
  unfold ClassifiedAnswers boundedLookup
  cases hfirst : answer 1 with
  | ok record => simp
  | error error =>
      rw [boundedLookup_last]
      cases hfinal : error.final (decide (1 = 0)) with
      | true =>
          have hfalse : error.final false = true := hfinal
          simp [hfalse]
      | false =>
          have hfalse : error.final false = false := hfinal
          have hclassified : error.unclassified = false := by
            cases error with
            | other failure => cases hfalse
            | _ => rfl
          simp [hfalse, hclassified]

/-- What the run makes of an error of the lookup. -/
theorem errorCode_isOk {error : LookupError} :
    (∃ code, PublicPreflight.errorCode error = .ok code) ↔ error.unclassified = false := by
  cases error with
  | other failure => simp [PublicPreflight.errorCode, LookupError.unclassified]
  | _ => simp [PublicPreflight.errorCode, LookupError.unclassified]

end Lookups

section Runs

open PublicPreflight

variable {service : PublicCounterpartyPreflightService} {payload : PublicIntakePayload}
  {requestId : String} {now : Instant} {lookup : PreflightLookup}

/-- A run comes to its lookup, or answers without one, when the number is read. -/
theorem begin_decides :
    (∃ outcome, begin service payload requestId now = .ok outcome) ↔
      ReadableIdentifier payload := by
  unfold begin ReadableIdentifier
  cases hcompany : resolveIdentifier payload with
  | none => simp
  | some company =>
      simp only [Option.mem_some_iff, forall_eq', ← checksumValid_decides]
      constructor
      · rintro ⟨outcome, houtcome⟩
        obtain ⟨valid, hvalid, _⟩ := bind_eq_ok.mp houtcome
        exact ⟨valid, hvalid⟩
      · rintro ⟨valid, hvalid⟩
        simp only [hvalid, bind, Except.bind]
        split
        · exact ⟨_, rfl⟩
        · split
          · exact ⟨_, rfl⟩
          · split
            · exact ⟨_, rfl⟩
            · exact ⟨_, rfl⟩

theorem begin_raises {error : Failure}
    (h : begin service payload requestId now = .error error) : error.IsValueError := by
  unfold begin at h
  cases hcompany : resolveIdentifier payload with
  | none =>
      simp only [hcompany] at h
      cases h
  | some company =>
      simp only [hcompany, bind_eq_error] at h
      rcases h with h | ⟨valid, _, h⟩
      · exact checksumValid_raises h
      · split at h
        · cases h
        · split at h
          · cases h
          · split at h
            · cases h
            · cases h

/-- What is looked up has passed its checksum. -/
theorem lookup_of_begin
    (h : begin service payload requestId now = .ok (.inr lookup)) :
    resolveIdentifier payload = some (lookup.identifierType, lookup.identifier) ∧
      checksumValid lookup.identifierType lookup.identifier = .ok true := by
  unfold begin at h
  cases hcompany : resolveIdentifier payload with
  | none =>
      simp only [hcompany] at h
      cases h
  | some company =>
      simp only [hcompany] at h
      obtain ⟨valid, hvalid, hrest⟩ := bind_eq_ok.mp h
      cases valid with
      | false => cases hrest
      | true =>
          cases hprovider : service.provider with
          | none =>
              simp only [hprovider] at hrest
              cases hrest
          | some provider =>
              simp only [hprovider, Bool.not_true, Bool.false_eq_true, if_false] at hrest
              split at hrest
              · cases hrest
              · obtain rfl := Sum.inr.inj (Except.ok.inj hrest)
                exact ⟨rfl, hvalid⟩

theorem innValid_length {identifier : List Char} (h : innValid identifier = .ok true) :
    identifier.length ∈ CounterpartyLookupIdentifierType.inn.lengths := by
  unfold innValid at h
  split at h
  · rename_i hlength
    rw [hlength]
    exact List.mem_cons_self
  · split at h
    · rename_i hlength
      rw [hlength]
      exact List.mem_cons_of_mem _ List.mem_cons_self
    · cases h

theorem registrationValid_length {length modulus : ℕ} {identifier : List Char}
    (h : registrationValid length modulus identifier = .ok true) :
    identifier.length = length := by
  unfold registrationValid at h
  split at h
  · rename_i hlength
    exact hlength
  · cases h

/-- A number that passes its checksum has a length of its type. -/
theorem length_of_checksumValid {identifierType : CounterpartyLookupIdentifierType}
    {identifier : String} (h : checksumValid identifierType identifier = .ok true) :
    identifier.toList.length ∈ identifierType.lengths := by
  cases identifierType with
  | inn => exact innValid_length h
  | ogrn => exact List.mem_singleton.mpr (registrationValid_length h)
  | ogrnip => exact List.mem_singleton.mpr (registrationValid_length h)

theorem isDigit_digits {value : Option String} :
    ∀ c ∈ (digits value).toList, PyText.isDigit c = true := by
  intro c hc
  rw [digits, String.toList_ofList] at hc
  exact (List.mem_filter.mp hc).2

theorem isDigit_of_resolve {company : CounterpartyLookupIdentifierType × String}
    (h : resolveIdentifier payload = some company) :
    ∀ c ∈ company.2.toList, PyText.isDigit c = true := by
  unfold resolveIdentifier at h
  simp only at h
  split at h
  · obtain rfl := Option.some.inj h
    exact isDigit_digits
  · split at h
    · obtain rfl := Option.some.inj h
      exact isDigit_digits
    · cases h

/-- The query of a number that has passed its checksum is accepted. -/
theorem query_of_begin (h : begin service payload requestId now = .ok (.inr lookup)) :
    counterpartyLookupQuery lookup.identifierType lookup.identifier =
      .ok lookup.identifier := by
  obtain ⟨hcompany, hvalid⟩ := lookup_of_begin h
  have hdigits := isDigit_of_resolve hcompany
  have hlength := length_of_checksumValid hvalid
  have hstrip : PyText.strip lookup.identifier = lookup.identifier :=
    PyText.strip_of_not_space fun c hc => PyText.isSpace_of_isDigit (hdigits c hc)
  have hsome : lookup.identifier.toList.isEmpty = false := by
    cases hlist : lookup.identifier.toList with
    | nil =>
        rw [hlist] at hlength
        cases htype : lookup.identifierType with
        | _ => simp [htype, CounterpartyLookupIdentifierType.lengths] at hlength
    | cons c rest => rfl
  have hall : lookup.identifier.toList.all PyText.isDigit = true :=
    List.all_eq_true.mpr hdigits
  unfold counterpartyLookupQuery
  simp only [hstrip, hall, hsome, Bool.not_false, Bool.and_self, bind_eq_ok, require_eq_ok,
    pure_eq_ok, true_and, exists_const, and_true]
  cases htype : lookup.identifierType with
  | _ =>
      rw [htype] at hlength
      exact List.contains_iff_mem.mpr hlength

/-- What a run that looks something up returns. -/
theorem run_of_begin {setting : PreflightSetting}
    (h : begin service payload requestId now = .ok (.inr lookup))
    (hcached : setting.cached lookup.cacheKey = none) (hbudget : setting.exhausted = false) :
    run service payload requestId now setting =
      ((ask service payload.companyName requestId now lookup setting.answer).map Prod.fst,
        lookupAttempts setting.answer 1 2) := by
  simp only [run, h, hcached, hbudget, query_of_begin h, Bool.false_eq_true, if_false]

/-- The lookup comes to an answer when what it raises is caught. -/
theorem ask_isOk (hquery : counterpartyLookupQuery lookup.identifierType lookup.identifier =
      .ok lookup.identifier) {answer : ℕ → LookupAnswer} :
    (∃ result, ask service payload.companyName requestId now lookup answer = .ok result) ↔
      ∀ error, boundedLookup answer 1 2 = .error error → error.unclassified = false := by
  simp only [ask, hquery, bind_eq_ok, Except.ok.injEq, exists_eq_left']
  cases hlookup : boundedLookup answer 1 2 with
  | ok record => simp
  | error error =>
      simp only [Except.error.injEq, forall_eq', ← errorCode_isOk, bind_eq_ok, pure_eq_ok]
      constructor
      · rintro ⟨_, code, hcode, _⟩
        exact ⟨code, hcode⟩
      · rintro ⟨code, hcode⟩
        exact ⟨_, code, hcode, rfl⟩

/-- Without a record the snapshot says that the registry did not answer. -/
theorem unavailable_of_ask {answer : ℕ → LookupAnswer}
    {result : CounterpartyPreflightSnapshot × Option CounterpartyProviderRecord}
    (hask : ask service payload.companyName requestId now lookup answer = .ok result)
    (hnone : ∀ attempt, 1 ≤ attempt → attempt ≤ lookupAttempts answer 1 2 →
      ∀ record, answer attempt ≠ .ok record) :
    result.1.decision = .unknown ∧ "PROVIDER_UNAVAILABLE" ∈ result.1.flags := by
  simp only [ask, bind_eq_ok] at hask
  obtain ⟨_, _, hrest⟩ := hask
  cases hlookup : boundedLookup answer 1 2 with
  | ok record =>
      obtain ⟨attempt, hfirst, hlast, hmade⟩ := attempt_of_boundedLookup hlookup
      exact absurd hmade (hnone attempt hfirst (by omega) record)
  | error error =>
      simp only [hlookup, bind_eq_ok, pure_eq_ok] at hrest
      obtain ⟨code, _, rfl⟩ := hrest
      exact ⟨rfl, List.mem_singleton_self _⟩

end Runs

namespace PublicPreflight

theorem withstands_lookup_iff {service : PublicCounterpartyPreflightService}
    {payload : PublicIntakePayload} {requestId : String} {now : Instant}
    {setting : PreflightSetting} {lookup : PreflightLookup}
    (hbegin : begin service payload requestId now = .ok (.inr lookup)) :
    Withstands setting (run service payload requestId now setting) ↔
      (setting.cached lookup.cacheKey = none → setting.exhausted = false →
        ClassifiedAnswers setting.answer) := by
  cases hcached : setting.cached lookup.cacheKey with
  | some snapshot =>
      have hrun : run service payload requestId now setting = (.ok snapshot, 0) := by
        simp only [run, hbegin, hcached]
      rw [hrun]
      constructor
      · intro _ hnone
        cases hnone
      · intro _
        exact ⟨Nat.zero_le 2, by simp, by simp⟩
  | none =>
      cases hbudget : setting.exhausted with
      | true =>
          have hrun : run service payload requestId now setting =
              (.error lookupExhausted, 0) := by
            simp only [run, hbegin, hcached, hbudget, if_true]
          rw [hrun]
          constructor
          · intro _ _ hfalse
            cases hfalse
          · intro _
            constructor
            · exact Nat.zero_le 2
            · intro error herror
              exact ⟨hbudget, (Except.error.inj herror).symm⟩
            · simp
      | false =>
          rw [run_of_begin hbegin hcached hbudget, ← classified_iff,
            ← ask_isOk (query_of_begin hbegin)]
          simp only [true_implies]
          constructor
          · intro h
            cases hask : ask service payload.companyName requestId now lookup
                setting.answer with
            | ok result => exact ⟨result, rfl⟩
            | error error =>
                rw [hask] at h
                have hraised := (h.raised error rfl).1
                rw [hbudget] at hraised
                cases hraised
          · rintro ⟨result, hask⟩
            rw [hask]
            constructor
            · exact lookupAttempts_le setting.answer 1 2
            · intro error herror
              cases herror
            · intro snapshot hsnapshot _ hnone
              obtain rfl := Except.ok.inj hsnapshot
              exact unavailable_of_ask hask hnone

/-- A run withstands its registry exactly when its number is read and no attempt
that is made raises what it does not catch. -/
theorem withstands_iff (service : PublicCounterpartyPreflightService)
    (payload : PublicIntakePayload) (requestId : String) (now : Instant)
    (setting : PreflightSetting) :
    Withstands setting (run service payload requestId now setting) ↔
      ReadableIdentifier payload ∧
        ∀ lookup, begin service payload requestId now = .ok (.inr lookup) →
          setting.cached lookup.cacheKey = none → setting.exhausted = false →
            ClassifiedAnswers setting.answer := by
  rw [← @begin_decides service payload requestId now]
  cases hbegin : begin service payload requestId now with
  | error error =>
      constructor
      · intro h
        obtain ⟨message, rfl⟩ := begin_raises hbegin
        have hraised := (h.raised (.valueError message) (by simp only [run, hbegin])).2
        cases hraised
      · rintro ⟨⟨outcome, houtcome⟩, _⟩
        cases houtcome
  | ok outcome =>
      simp only [Except.ok.injEq, exists_eq', true_and]
      cases outcome with
      | inl snapshot =>
          have hrun : run service payload requestId now setting = (.ok snapshot, 0) := by
            simp only [run, hbegin]
          rw [hrun]
          constructor
          · intro _ lookup hlookup
            cases hlookup
          · intro _
            exact ⟨Nat.zero_le 2, by simp, by simp⟩
      | inr lookup =>
          simp only [Sum.inr.injEq, forall_eq']
          exact withstands_lookup_iff hbegin

theorem registryService_valid : (1 : ℤ) ≤ 300 ∧ (300 : ℤ) ≤ 900 := by
  decide

/-- A service with an official registry. -/
def registryService : PublicCounterpartyPreflightService where
  provider := some ⟨"registry", "registry:v1", "official_registry"⟩
  cacheTtlSeconds := 300
  operatorReuseSeconds := 900
  valid := registryService_valid

def registryPayload (inn : String) : PublicIntakePayload :=
  { serviceType := "transport"
    location := "Kazan"
    preferredDateOrPeriod := "June"
    workOrCargoDescription := "furniture"
    contactName := "Anna"
    contactChannel := "+70000000000"
    inn := some inn }

/-- Nothing is cached, and the provider raises a `ValueError`. -/
def raisingSetting : PreflightSetting where
  cached _ := none
  exhausted := false
  answer _ := .error (.other (.valueError
    "DaData response exceeds configured max_response_bytes"))

/-- An error of the provider that is not caught, and a number in superscript digits. -/
theorem outage_escapes :
    ¬ Withstands raisingSetting
      (run registryService (registryPayload "7707083893") "request-1" 0 raisingSetting) ∧
    ¬ Withstands raisingSetting
      (run registryService (registryPayload "²²²²²²²²²²") "request-1" 0 raisingSetting) := by
  have hraised : (run registryService (registryPayload "7707083893") "request-1" 0
      raisingSetting).1 = .error (.valueError
        "DaData response exceeds configured max_response_bytes") := by
    decide +kernel
  have hdigits : (run registryService (registryPayload "²²²²²²²²²²") "request-1" 0
      raisingSetting).1 = .error (.valueError
        "invalid literal for int() with base 10: '²'") := by
    decide +kernel
  constructor
  · intro h
    have hfalse := (h.raised _ hraised).1
    cases hfalse
  · intro h
    have hfalse := (h.raised _ hdigits).1
    cases hfalse

end PublicPreflight

end ShemaPlatform
