/-
The runs of the preflight that share one cache: which snapshot a key of the cache
stands for, and when one that is taken from it is what a lookup would have made.
-/
import ShemaPlatform.PreflightOutages
import ShemaPlatform.PublicIntakeTables

namespace ShemaPlatform

open Calendar ReadCommitted ReadCommitted.Prog PublicIntakeRepository

/-- A run of the preflight, with what it is called with. -/
structure PreflightCall where
  service : PublicCounterpartyPreflightService
  payload : PublicIntakePayload
  requestId : String
  now : Instant

namespace PreflightCall

/-- The run up to the cache. -/
def start (call : PreflightCall) :
    Except Failure (CounterpartyPreflightSnapshot ⊕ PreflightLookup) :=
  PublicPreflight.begin call.service call.payload call.requestId call.now

/-- The run past the cache. -/
def ask (call : PreflightCall) (lookup : PreflightLookup) (answer : ℕ → LookupAnswer) :
    Except Failure (CounterpartyPreflightSnapshot × Option CounterpartyProviderRecord) :=
  PublicPreflight.ask call.service call.payload.companyName call.requestId call.now lookup
    answer

/-- The run, given what it finds in the cache and what its provider answers. -/
def run (call : PreflightCall) (found : Option CounterpartyPreflightSnapshot)
    (answer : ℕ → LookupAnswer) : Except Failure CounterpartyPreflightSnapshot :=
  (PublicPreflight.run call.service call.payload call.requestId call.now
    ⟨fun _ => found, false, answer⟩).1

end PreflightCall

/-- What a run has stored in the cache: the record it was answered for its lookup. -/
structure CachedLookup where
  call : PreflightCall
  lookup : PreflightLookup
  record : CounterpartyProviderRecord

/-- The snapshot that was made of it. -/
def CachedLookup.snapshot (entry : CachedLookup) : CounterpartyPreflightSnapshot :=
  PublicPreflight.assess entry.call.service entry.call.payload.companyName
    entry.call.requestId entry.call.now entry.lookup entry.record

/-- A statement on the table of snapshots: a run reads the cache or stores in it, and a
snapshot is kept with its request. -/
inductive CacheStep where
  | looked (call : PreflightCall) (lookup : PreflightLookup)
      (found : Option CounterpartyPreflightSnapshot)
  | stored (entry : CachedLookup)
  | kept (snapshot : CounterpartyPreflightSnapshot)

/-- A history of any number of runs, with the rows it leaves; other runs may come between
the two statements of one. -/
inductive CacheHistory : List CacheStep → IntakeRows → Prop where
  | start : CacheHistory [] []
  | looked {steps : List CacheStep} {rows : IntakeRows} {call : PreflightCall}
      {lookup : PreflightLookup} {found : Option CounterpartyPreflightSnapshot}
      {locked : IntakeKey → Bool} (h : CacheHistory steps rows)
      (hstart : call.start = .ok (.inr lookup))
      (hget : (getPreflightCache lookup.cacheKey call.now).atomically locked rows =
        .ok (found, rows)) :
      CacheHistory (steps ++ [.looked call lookup found]) rows
  | stored {steps : List CacheStep} {rows rows' : IntakeRows} {call : PreflightCall}
      {lookup : PreflightLookup} {answer : ℕ → LookupAnswer}
      {snapshot : CounterpartyPreflightSnapshot} {record : CounterpartyProviderRecord}
      {locked : IntakeKey → Bool} (h : CacheHistory steps rows)
      (hmissed : .looked call lookup none ∈ steps)
      (hask : call.ask lookup answer = .ok (snapshot, some record))
      (hsave : (savePreflightCache lookup.cacheKey snapshot).atomically locked rows =
        .ok ((), rows')) :
      CacheHistory (steps ++ [.stored ⟨call, lookup, record⟩]) rows'
  | kept {steps : List CacheStep} {rows rows' : IntakeRows}
      {snapshot : CounterpartyPreflightSnapshot} {locked : IntakeKey → Bool}
      (h : CacheHistory steps rows)
      (hsave : (savePreflightSnapshot snapshot).atomically locked rows = .ok ((), rows')) :
      CacheHistory (steps ++ [.kept snapshot]) rows'

/-- What a step stores under a key of the cache. -/
def CacheStep.storedUnder (cacheKey : String) : CacheStep → Option CachedLookup
  | .stored entry => if entry.lookup.cacheKey = cacheKey then some entry else none
  | .looked _ _ _ => none
  | .kept _ => none

/-- What was last stored under a key of the cache. -/
def lastStored (steps : List CacheStep) (cacheKey : String) : Option CachedLookup :=
  (steps.filterMap (CacheStep.storedUnder cacheKey)).getLast?

/-- A snapshot from the cache is the one that a lookup with the same record would have
made, and it is no older than the cache keeps one. -/
structure AgreesWithFresh (call : PreflightCall) (entry : CachedLookup)
    (snapshot : CounterpartyPreflightSnapshot) : Prop where
  same : ∃ fresh, call.run none (fun _ => .ok entry.record) = .ok fresh ∧
    snapshot.decision = fresh.decision ∧ snapshot.identityMatch = fresh.identityMatch ∧
    snapshot.flags = fresh.flags
  recent : call.now ≤ entry.call.now + seconds call.service.cacheTtlSeconds

/-- Two names stand alike to the one on record: both are left out, or both are given and
read the same way. -/
structure StandAlike (name other : Option String) (canonicalName : String) : Prop where
  given : name.getD "" = "" ↔ other.getD "" = ""
  alike : name.getD "" ≠ "" →
    (PublicPreflight.normalizeName (name.getD "") =
        PublicPreflight.normalizeName canonicalName ↔
      PublicPreflight.normalizeName (other.getD "") =
        PublicPreflight.normalizeName canonicalName)

section Names

variable {name other : Option String} {canonicalName : String}

open PublicPreflight

/-- The three outcomes of the comparison of a name. -/
theorem identityMatch_cases :
    (name.getD "" = "" ∧ identityMatch name canonicalName = .notChecked) ∨
      (name.getD "" ≠ "" ∧ normalizeName (name.getD "") = normalizeName canonicalName ∧
        identityMatch name canonicalName = .matched) ∨
      (name.getD "" ≠ "" ∧ normalizeName (name.getD "") ≠ normalizeName canonicalName ∧
        identityMatch name canonicalName = .nameMismatch) := by
  by_cases hgiven : name.getD "" = ""
  · apply Or.inl
    constructor
    · exact hgiven
    · rw [identityMatch, if_pos hgiven]
  · apply Or.inr
    by_cases hsame : normalizeName (name.getD "") = normalizeName canonicalName
    · apply Or.inl
      constructor
      · exact hgiven
      · exact ⟨hsame, by rw [identityMatch, if_neg hgiven, if_pos hsame]⟩
    · apply Or.inr
      constructor
      · exact hgiven
      · exact ⟨hsame, by rw [identityMatch, if_neg hgiven, if_neg hsame]⟩

theorem standAlike_iff :
    StandAlike name other canonicalName ↔
      identityMatch name canonicalName = identityMatch other canonicalName := by
  rcases @identityMatch_cases name canonicalName with ⟨hgiven, hmatch⟩ |
      ⟨hgiven, hsame, hmatch⟩ | ⟨hgiven, hsame, hmatch⟩
  · rw [hmatch]
    rcases @identityMatch_cases other canonicalName with ⟨hother, hmatch'⟩ |
        ⟨hother, _, hmatch'⟩ | ⟨hother, _, hmatch'⟩
    · exact iff_of_true ⟨iff_of_true hgiven hother, fun hne => absurd hgiven hne⟩ hmatch'.symm
    · exact iff_of_false (fun h => hother (h.given.mp hgiven)) (by rw [hmatch']; decide)
    · exact iff_of_false (fun h => hother (h.given.mp hgiven)) (by rw [hmatch']; decide)
  · rw [hmatch]
    rcases @identityMatch_cases other canonicalName with ⟨hother, hmatch'⟩ |
        ⟨hother, hsame', hmatch'⟩ | ⟨hother, hsame', hmatch'⟩
    · exact iff_of_false (fun h => hgiven (h.given.mpr hother)) (by rw [hmatch']; decide)
    · exact iff_of_true ⟨iff_of_false hgiven hother, fun _ => iff_of_true hsame hsame'⟩
        hmatch'.symm
    · exact iff_of_false (fun h => hsame' ((h.alike hgiven).mp hsame)) (by rw [hmatch']; decide)
  · rw [hmatch]
    rcases @identityMatch_cases other canonicalName with ⟨hother, hmatch'⟩ |
        ⟨hother, hsame', hmatch'⟩ | ⟨hother, hsame', hmatch'⟩
    · exact iff_of_false (fun h => hgiven (h.given.mpr hother)) (by rw [hmatch']; decide)
    · exact iff_of_false (fun h => hsame ((h.alike hgiven).mpr hsame')) (by rw [hmatch']; decide)
    · exact iff_of_true ⟨iff_of_false hgiven hother, fun _ => iff_of_false hsame hsame'⟩
        hmatch'.symm

end Names

section Statements

variable {rows rows' : IntakeRows} {locked : IntakeKey → Bool} {cacheKey : String} {now : Instant}
  {snapshot : CounterpartyPreflightSnapshot} {found : Option CounterpartyPreflightSnapshot}

/-- What the cache is read to hold. -/
theorem getPreflightCache_eq_ok :
    (getPreflightCache cacheKey now).atomically locked rows = .ok (found, rows') ↔
      found = (((Rows.get rows (IntakeKey.preflightCache cacheKey)).bind fun snapshotId =>
        (Rows.get rows (IntakeKey.preflightSnapshot snapshotId)).map
          IntakeSnapshotRow.snapshot).filter fun snapshot => decide (now < snapshot.expiresAt)) ∧
        rows' = rows := by
  simp only [getPreflightCache, atomically_eq_ok, execute_bind, execute_select, List.nil_append]
  cases hpointer : Rows.get rows (IntakeKey.preflightCache cacheKey) with
  | none => simp [eq_comm]
  | some snapshotId =>
      simp [snapshotOf, execute_bind, eq_comm]

/-- What storing a snapshot under a key does to the table. -/
structure Saves (rows rows' : IntakeRows) (cacheKey : String)
    (snapshot : CounterpartyPreflightSnapshot) : Prop where
  pointer : Rows.get rows' (IntakeKey.preflightCache cacheKey) = some snapshot.snapshotId
  row : Rows.get rows' (IntakeKey.preflightSnapshot snapshot.snapshotId) =
    some ⟨some cacheKey, snapshot⟩
  pointers : ∀ other, other ≠ cacheKey →
    Rows.get rows' (IntakeKey.preflightCache other) =
      Rows.get rows (IntakeKey.preflightCache other)
  untouched : ∀ snapshotId, snapshotId ≠ snapshot.snapshotId →
    Rows.get rows (IntakeKey.preflightCache cacheKey) ≠ some snapshotId →
      Rows.get rows' (IntakeKey.preflightSnapshot snapshotId) =
        Rows.get rows (IntakeKey.preflightSnapshot snapshotId)
  vacant : Rows.get rows (IntakeKey.preflightCache cacheKey) = some snapshot.snapshotId ∨
    Rows.get rows (IntakeKey.preflightSnapshot snapshot.snapshotId) = none

theorem saves_of_atomically
    (h : (savePreflightCache cacheKey snapshot).atomically locked rows = .ok ((), rows')) :
    Saves rows rows' cacheKey snapshot := by
  simp only [savePreflightCache, atomically_eq_ok, execute_bind_eq_ok, execute_select_eq_ok,
    execute_insert_eq_ok, List.nil_append] at h
  rcases h with ⟨own, ⟨_, _, ⟨rfl, rfl⟩, _, renamedRows, hrenamed, _, inserted,
    ⟨hvacant, rfl⟩, hstored⟩, rfl⟩
  obtain rfl : own = ⟨IntakeKey.preflightCache cacheKey, some snapshot.snapshotId⟩ ::
      ⟨IntakeKey.preflightSnapshot snapshot.snapshotId, some ⟨some cacheKey, snapshot⟩⟩ ::
        renamedRows := by
    simpa [store, execute, eq_comm] using hstored
  cases hpointer : Rows.get rows (IntakeKey.preflightCache cacheKey) with
  | none =>
      obtain rfl : renamedRows = [] := by
        simpa [renamed, hpointer, eq_comm] using hrenamed
      constructor
      · simp
      · simp
      · intro other hother
        simp [Ne.symm hother]
      · intro snapshotId hne _
        simp [Ne.symm hne]
      · exact Or.inr hvacant
  | some earlier =>
      obtain rfl : renamedRows = [⟨IntakeKey.preflightSnapshot earlier, none⟩] := by
        simpa [renamed, hpointer, delete, execute, execute_bind, eq_comm] using hrenamed
      constructor
      · simp
      · simp
      · intro other hother
        simp [Ne.symm hother]
      · intro snapshotId hne hearlier
        have hother : earlier ≠ snapshotId := fun heq => hearlier (by rw [hpointer, heq])
        simp [Ne.symm hne, hother]
      · by_cases hsame : earlier = snapshot.snapshotId
        · exact Or.inl (by rw [hpointer, hsame])
        · apply Or.inr
          simpa [hsame] using hvacant

/-- A snapshot that is kept with its request changes no row that is there. -/
theorem kept_of_atomically
    (h : (savePreflightSnapshot snapshot).atomically locked rows = .ok ((), rows')) :
    (∀ other, Rows.get rows' (IntakeKey.preflightCache other) =
      Rows.get rows (IntakeKey.preflightCache other)) ∧
    ∀ snapshotId row, Rows.get rows (IntakeKey.preflightSnapshot snapshotId) = some row →
      Rows.get rows' (IntakeKey.preflightSnapshot snapshotId) = some row := by
  simp only [savePreflightSnapshot, atomically_eq_ok, execute_bind_eq_ok,
    execute_insertNew_eq_ok, execute_pure_eq_ok, List.nil_append] at h
  rcases h with ⟨own, ⟨_, _, ⟨hfree, _, rfl⟩ | ⟨_, _, rfl⟩, _, rfl⟩, rfl⟩
  · constructor
    · intro other
      simp
    · intro snapshotId row hrow
      have hne : snapshot.snapshotId ≠ snapshotId := by
        intro heq
        rw [heq, hrow] at hfree
        cases hfree
      simpa [hne] using hrow
  · exact ⟨fun _ => rfl, fun _ _ hrow => hrow⟩

end Statements

section Histories

variable {steps : List CacheStep} {rows rows' : IntakeRows} {cacheKey : String}
  {entry : CachedLookup}

theorem lastStored_concat (step : CacheStep) :
    lastStored (steps ++ [step]) cacheKey =
      (step.storedUnder cacheKey).or (lastStored steps cacheKey) := by
  rw [lastStored, List.filterMap_append, List.getLast?_append]
  cases hstored : step.storedUnder cacheKey with
  | none => simp [hstored, lastStored]
  | some entry => simp [hstored]

/-- The cache holds what was last stored under each key. -/
structure Caches (steps : List CacheStep) (rows : IntakeRows) : Prop where
  pointer : ∀ cacheKey, Rows.get rows (IntakeKey.preflightCache cacheKey) =
    (lastStored steps cacheKey).map fun entry => entry.snapshot.snapshotId
  row : ∀ cacheKey entry, lastStored steps cacheKey = some entry →
    Rows.get rows (IntakeKey.preflightSnapshot entry.snapshot.snapshotId) =
      some ⟨some cacheKey, entry.snapshot⟩

/-- The rows of different keys have different ids. -/
theorem Caches.cacheKey_eq (h : Caches steps rows) {other : String} {entry entry' : CachedLookup}
    (hentry : lastStored steps cacheKey = some entry)
    (hother : lastStored steps other = some entry')
    (hid : entry.snapshot.snapshotId = entry'.snapshot.snapshotId) : cacheKey = other := by
  have hrow := h.row cacheKey entry hentry
  rw [hid, h.row other entry' hother] at hrow
  exact (Option.some.inj (congrArg IntakeSnapshotRow.cacheKey (Option.some.inj hrow))).symm

theorem Caches.frame (h : Caches steps rows) {step : CacheStep}
    (hstep : ∀ cacheKey, step.storedUnder cacheKey = none)
    (hpointers : ∀ other, Rows.get rows' (IntakeKey.preflightCache other) =
      Rows.get rows (IntakeKey.preflightCache other))
    (hrows : ∀ snapshotId row,
      Rows.get rows (IntakeKey.preflightSnapshot snapshotId) = some row →
      Rows.get rows' (IntakeKey.preflightSnapshot snapshotId) = some row) :
    Caches (steps ++ [step]) rows' := by
  have hlast : ∀ cacheKey, lastStored (steps ++ [step]) cacheKey = lastStored steps cacheKey := by
    intro cacheKey
    rw [lastStored_concat, hstep, Option.none_or]
  constructor
  · intro cacheKey
    rw [hlast, hpointers, h.pointer]
  · intro cacheKey entry hentry
    rw [hlast] at hentry
    exact hrows _ _ (h.row cacheKey entry hentry)

theorem Caches.store (h : Caches steps rows)
    (hsaves : Saves rows rows' entry.lookup.cacheKey entry.snapshot) :
    Caches (steps ++ [.stored entry]) rows' := by
  have hself : lastStored (steps ++ [.stored entry]) entry.lookup.cacheKey = some entry := by
    rw [lastStored_concat, CacheStep.storedUnder, if_pos rfl, Option.some_or]
  have hother : ∀ cacheKey, cacheKey ≠ entry.lookup.cacheKey →
      lastStored (steps ++ [.stored entry]) cacheKey = lastStored steps cacheKey := by
    intro cacheKey hne
    rw [lastStored_concat, CacheStep.storedUnder, if_neg (Ne.symm hne), Option.none_or]
  constructor
  · intro cacheKey
    by_cases hne : cacheKey = entry.lookup.cacheKey
    · rw [hne, hself, hsaves.pointer, Option.map_some]
    · rw [hother cacheKey hne, hsaves.pointers cacheKey hne, h.pointer]
  · intro cacheKey found hfound
    by_cases hne : cacheKey = entry.lookup.cacheKey
    · rw [hne, hself] at hfound
      rw [← Option.some.inj hfound, hne]
      exact hsaves.row
    · rw [hother cacheKey hne] at hfound
      have hrow := h.row cacheKey found hfound
      have hheld : Rows.get rows (IntakeKey.preflightCache entry.lookup.cacheKey) ≠
          some found.snapshot.snapshotId := by
        intro hpointer
        rw [h.pointer, Option.map_eq_some_iff] at hpointer
        rcases hpointer with ⟨earlier, hearlier, hid⟩
        exact hne (h.cacheKey_eq hfound hearlier hid.symm)
      have hnew : found.snapshot.snapshotId ≠ entry.snapshot.snapshotId := by
        intro hid
        rcases hsaves.vacant with hpointer | hvacant
        · exact hheld (by rw [hpointer, hid])
        · rw [← hid, hrow] at hvacant
          cases hvacant
      rw [hsaves.untouched _ hnew hheld]
      exact hrow

/-- The snapshot of a record is the one that was assessed. -/
theorem snapshot_of_ask {call : PreflightCall} {lookup : PreflightLookup}
    {answer : ℕ → LookupAnswer} {snapshot : CounterpartyPreflightSnapshot}
    {record : CounterpartyProviderRecord}
    (h : call.ask lookup answer = .ok (snapshot, some record)) :
    snapshot = (CachedLookup.mk call lookup record).snapshot := by
  simp only [PreflightCall.ask, PublicPreflight.ask, bind_eq_ok] at h
  rcases h with ⟨_, _, hanswer⟩
  cases hlookup : boundedLookup answer 1 2 with
  | ok found =>
      simp only [hlookup, pure_eq_ok, Prod.mk.injEq, Option.some.injEq] at hanswer
      rcases hanswer with ⟨rfl, rfl⟩
      rfl
  | error error =>
      simp only [hlookup, bind_eq_ok, pure_eq_ok, Prod.mk.injEq] at hanswer
      rcases hanswer with ⟨_, _, _, hnone⟩
      cases hnone

theorem CacheHistory.caches (h : CacheHistory steps rows) : Caches steps rows := by
  induction h with
  | start => exact ⟨fun _ => rfl, fun _ _ hentry => by cases hentry⟩
  | looked _ _ _ ih => exact ih.frame (fun _ => rfl) (fun _ => rfl) fun _ _ hrow => hrow
  | stored _ _ hask hsave ih =>
      apply ih.store
      rw [← snapshot_of_ask hask]
      exact saves_of_atomically hsave
  | kept _ hsave ih =>
      exact ih.frame (fun _ => rfl) (kept_of_atomically hsave).1 (kept_of_atomically hsave).2

end Histories

section Hits

variable {steps : List CacheStep} {rows : IntakeRows} {call : PreflightCall}
  {lookup : PreflightLookup} {snapshot : CounterpartyPreflightSnapshot} {entry : CachedLookup}

/-- A run that finds a snapshot in the cache returns it. -/
theorem PreflightCall.run_found (hstart : call.start = .ok (.inr lookup))
    (answer : ℕ → LookupAnswer) : call.run (some snapshot) answer = .ok snapshot := by
  rw [PreflightCall.start] at hstart
  simp only [PreflightCall.run, PublicPreflight.run, hstart]

/-- A run that finds nothing assesses the record it is answered. -/
theorem PreflightCall.run_fresh (hstart : call.start = .ok (.inr lookup))
    (record : CounterpartyProviderRecord) :
    call.run none (fun _ => .ok record) = .ok (CachedLookup.mk call lookup record).snapshot := by
  rw [PreflightCall.run, run_of_begin hstart rfl rfl]
  simp only [PublicPreflight.ask, query_of_begin hstart, boundedLookup]
  rfl

/-- What is found under a key is what was last stored there. -/
theorem CacheHistory.entry_of_hit
    (h : CacheHistory (steps ++ [.looked call lookup (some snapshot)]) rows) :
    call.start = .ok (.inr lookup) ∧
      ∃ entry, lastStored steps lookup.cacheKey = some entry ∧ snapshot = entry.snapshot := by
  generalize hsteps : steps ++ [CacheStep.looked call lookup (some snapshot)] = all at h
  cases h with
  | start => simp at hsteps
  | stored => simp at hsteps
  | kept => simp at hsteps
  | looked hpast hstart hget =>
      obtain ⟨rfl, hstep⟩ := List.append_singleton_inj.mp hsteps
      obtain ⟨rfl, rfl, rfl⟩ := CacheStep.looked.inj hstep
      constructor
      · exact hstart
      · have hcaches := hpast.caches
        have hfound := (getPreflightCache_eq_ok.mp hget).1
        rw [hcaches.pointer] at hfound
        cases hentry : lastStored steps lookup.cacheKey with
        | none =>
            rw [hentry] at hfound
            cases hfound
        | some entry =>
            rw [hentry, Option.map_some, Option.bind_some, hcaches.row _ entry hentry] at hfound
            have hsame := (Option.filter_eq_some_iff.mp hfound.symm).1
            exact ⟨entry, rfl, (Option.some.inj hsame).symm⟩

/-- The snapshot of an entry is that of a fresh lookup when the names stand alike and
the entry is not yet due. -/
theorem agreesWithFresh_iff (hstart : call.start = .ok (.inr lookup)) :
    AgreesWithFresh call entry entry.snapshot ↔
      StandAlike call.payload.companyName entry.call.payload.companyName
          entry.record.canonicalName ∧
        call.now + seconds entry.call.service.operatorReuseSeconds ≤
          entry.snapshot.expiresAt + seconds call.service.cacheTtlSeconds := by
  have hexpires : entry.snapshot.expiresAt =
      entry.call.now + seconds entry.call.service.operatorReuseSeconds := rfl
  have hdue : call.now + seconds entry.call.service.operatorReuseSeconds ≤
      entry.call.now + seconds entry.call.service.operatorReuseSeconds +
        seconds call.service.cacheTtlSeconds ↔
      call.now ≤ entry.call.now + seconds call.service.cacheTtlSeconds := by
    rw [add_right_comm, add_le_add_iff_right]
  rw [standAlike_iff, hexpires, hdue]
  constructor
  · intro h
    rcases h.same with ⟨fresh, hfresh, _, hmatch, _⟩
    rw [PreflightCall.run_fresh hstart] at hfresh
    obtain rfl := Except.ok.inj hfresh
    constructor
    · exact hmatch.symm
    · exact h.recent
  · intro ⟨hmatch, hrecent⟩
    constructor
    · use (CachedLookup.mk call lookup entry.record).snapshot
      constructor
      · exact PreflightCall.run_fresh hstart entry.record
      · simp only [CachedLookup.snapshot, PublicPreflight.assess, hmatch, and_self]
    · exact hrecent

/-- What a run returns from the cache is what a lookup with the same record would have
made of its own payload, and recent, exactly when the two names stand alike and the
snapshot was not stored before the time of the cache. -/
theorem CacheHistory.hit_agrees_iff
    (h : CacheHistory (steps ++ [.looked call lookup (some snapshot)]) rows) :
    (∀ answer, call.run (some snapshot) answer = .ok snapshot) ∧
      ∃ entry, lastStored steps lookup.cacheKey = some entry ∧
        (AgreesWithFresh call entry snapshot ↔
          StandAlike call.payload.companyName entry.call.payload.companyName
              entry.record.canonicalName ∧
            call.now + seconds entry.call.service.operatorReuseSeconds ≤
              snapshot.expiresAt + seconds call.service.cacheTtlSeconds) := by
  rcases h.entry_of_hit with ⟨hstart, entry, hentry, rfl⟩
  constructor
  · exact PreflightCall.run_found hstart
  · exact ⟨entry, hentry, agreesWithFresh_iff hstart⟩

end Hits

section Sample

theorem alphaCompany_named : PyText.blank "registry" = false ∧
    PyText.startsWith "https://registry.example/7707083893" "https://" = true ∧
    PyText.blank "Alpha" = false := by
  decide

theorem alphaCompany_identified :
    (some "7707083893").getD "" ≠ "" ∨ (none : Option String).getD "" ≠ "" := by
  decide

def alphaCompany : CounterpartyProviderRecord where
  providerId := "registry"
  sourceRef := "https://registry.example/7707083893"
  canonicalName := "Alpha"
  taxId := some "7707083893"
  registrationId := none
  legalStatus := some "active"
  named := alphaCompany_named
  identified := alphaCompany_identified

/-- A request about the same company under any name. -/
def namedCall (companyName requestId : String) (now : Instant) : PreflightCall where
  service := PublicPreflight.registryService
  payload :=
    { PublicPreflight.registryPayload "7707083893" with companyName := some companyName }
  requestId := requestId
  now := now

def alphaLookup : PreflightLookup where
  identifierType := .inn
  identifier := "7707083893"
  cacheKey := "preflight:v2:registry:registry:v1:INN:7707083893"

def alphaEntry : CachedLookup :=
  ⟨namedCall "Alpha" "request-1" 0, alphaLookup, alphaCompany⟩

/-- A run that finds nothing and stores its snapshot. -/
def alphaSteps : List CacheStep :=
  [.looked (namedCall "Alpha" "request-1" 0) alphaLookup none, .stored alphaEntry]

def alphaRows : IntakeRows :=
  [⟨IntakeKey.preflightCache alphaLookup.cacheKey, some alphaEntry.snapshot.snapshotId⟩,
    ⟨IntakeKey.preflightSnapshot alphaEntry.snapshot.snapshotId,
      some ⟨some alphaLookup.cacheKey, alphaEntry.snapshot⟩⟩]

theorem alpha_start : (namedCall "Alpha" "request-1" 0).start = .ok (.inr alphaLookup) := by
  decide +kernel

theorem beta_start :
    (namedCall "Beta" "request-2" (seconds 1)).start = .ok (.inr alphaLookup) := by
  decide +kernel

theorem late_start :
    (namedCall "Alpha" "request-3" (seconds 301)).start = .ok (.inr alphaLookup) := by
  decide +kernel

theorem alpha_history : CacheHistory alphaSteps alphaRows := by
  have hmissed : (getPreflightCache alphaLookup.cacheKey 0).atomically (fun _ => false) [] =
      .ok (none, []) := rfl
  have hask : (namedCall "Alpha" "request-1" 0).ask alphaLookup (fun _ => .ok alphaCompany) =
      .ok (alphaEntry.snapshot, some alphaCompany) := by
    have hquery := query_of_begin alpha_start
    simp only [PreflightCall.ask, PublicPreflight.ask, hquery, boundedLookup]
    rfl
  have hsave : (savePreflightCache alphaLookup.cacheKey alphaEntry.snapshot).atomically
      (fun _ => false) [] = .ok ((), alphaRows) := rfl
  exact (CacheHistory.start.looked alpha_start hmissed).stored (List.mem_singleton_self _) hask
    hsave

/-- Whoever asks before it expires finds the snapshot. -/
theorem alpha_found {call : PreflightCall} (hstart : call.start = .ok (.inr alphaLookup))
    (hnow : call.now < alphaEntry.snapshot.expiresAt) :
    CacheHistory (alphaSteps ++ [.looked call alphaLookup (some alphaEntry.snapshot)])
      alphaRows := by
  have hget : (getPreflightCache alphaLookup.cacheKey call.now).atomically (fun _ => false)
      alphaRows = .ok (some alphaEntry.snapshot, alphaRows) := by
    rw [getPreflightCache_eq_ok, alpha_history.caches.pointer]
    constructor
    · have hlast : lastStored alphaSteps alphaLookup.cacheKey = some alphaEntry := rfl
      rw [hlast, Option.map_some, Option.bind_some, alpha_history.caches.row _ _ hlast,
        Option.map_some]
      symm
      rw [Option.filter_eq_some_iff]
      exact ⟨rfl, decide_eq_true hnow⟩
    · rfl
  exact alpha_history.looked hstart hget

theorem beta_found : CacheHistory (alphaSteps ++ [.looked (namedCall "Beta" "request-2" (seconds 1))
    alphaLookup (some alphaEntry.snapshot)]) alphaRows := by
  apply alpha_found beta_start
  decide

theorem late_found : CacheHistory (alphaSteps ++ [.looked (namedCall "Alpha" "request-3"
    (seconds 301)) alphaLookup (some alphaEntry.snapshot)]) alphaRows := by
  apply alpha_found late_start
  decide

theorem CacheHistory.hit_agrees_iff_beta :
    ∃ entry, lastStored alphaSteps alphaLookup.cacheKey = some entry ∧
      (AgreesWithFresh (namedCall "Beta" "request-2" (seconds 1)) entry alphaEntry.snapshot ↔
        StandAlike (some "Beta") entry.call.payload.companyName entry.record.canonicalName ∧
          seconds 1 + seconds entry.call.service.operatorReuseSeconds ≤
            alphaEntry.snapshot.expiresAt + seconds 300) :=
  (CacheHistory.hit_agrees_iff beta_found).2

/-- A request under another name is answered as if it were under the first, and a
snapshot is found after the time of the cache. -/
theorem other_name_and_late_hit :
    lastStored alphaSteps alphaLookup.cacheKey = some alphaEntry ∧
    (CacheHistory (alphaSteps ++ [.looked (namedCall "Beta" "request-2" (seconds 1)) alphaLookup
        (some alphaEntry.snapshot)]) alphaRows ∧
      ¬ AgreesWithFresh (namedCall "Beta" "request-2" (seconds 1)) alphaEntry
        alphaEntry.snapshot) ∧
    CacheHistory (alphaSteps ++ [.looked (namedCall "Alpha" "request-3" (seconds 301)) alphaLookup
        (some alphaEntry.snapshot)]) alphaRows ∧
      ¬ AgreesWithFresh (namedCall "Alpha" "request-3" (seconds 301)) alphaEntry
        alphaEntry.snapshot := by
  constructor
  · rfl
  · constructor
    · constructor
      · exact beta_found
      · intro h
        have hmatch := standAlike_iff.mp ((agreesWithFresh_iff beta_start).mp h).1
        exact absurd hmatch (by decide +kernel)
    · constructor
      · exact late_found
      · intro h
        exact absurd h.recent (by decide)

end Sample

end ShemaPlatform
