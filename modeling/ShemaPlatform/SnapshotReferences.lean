/-
The snapshots that recorded requests refer to: the cache of the preflight keeps its own in
the same table, and takes the place of the earlier ones.
-/
import ShemaPlatform.AcceptedOnce
import ShemaPlatform.PreflightCache
import ShemaPlatform.RequestProjections
import ShemaPlatform.SerialRuns

namespace ShemaPlatform

open Calendar ReadCommitted ReadCommitted.Prog PublicIntakeRepository PublicIntakeService
  RequestProjection

/-- What a transaction does with a snapshot. -/
inductive SnapshotUse where
  | stored (cacheKey : String) (snapshot : CounterpartyPreflightSnapshot)
  | recorded (snapshot : CounterpartyPreflightSnapshot)
deriving DecidableEq

namespace SnapshotUse

def snapshotId : SnapshotUse → String
  | .stored _ snapshot => snapshot.snapshotId
  | .recorded snapshot => snapshot.snapshotId

def cached (cacheKey : String) : SnapshotUse → Option CounterpartyPreflightSnapshot
  | .stored other snapshot => if other = cacheKey then some snapshot else none
  | .recorded _ => none

/-- What was last stored under a key of the cache. -/
def lastCached (uses : List SnapshotUse) (cacheKey : String) :
    Option CounterpartyPreflightSnapshot :=
  (uses.filterMap (cached cacheKey)).getLast?

/-- Another snapshot takes the place of this one in the cache. -/
def Evicts (uses : List SnapshotUse) (use : SnapshotUse) (snapshotId : String) : Prop :=
  ∃ cacheKey earlier later, use = .stored cacheKey later ∧
    lastCached uses cacheKey = some earlier ∧ earlier.snapshotId = snapshotId ∧
    later.snapshotId ≠ snapshotId

/-- Since another one has taken its place, the snapshot has neither been stored again nor
been recorded with a request. -/
def Evicted (uses : List SnapshotUse) (snapshotId : String) : Prop :=
  ∃ before use later, uses = before ++ use :: later ∧ Evicts before use snapshotId ∧
    ∀ other ∈ later, other.snapshotId ≠ snapshotId

theorem lastCached_concat (uses : List SnapshotUse) (use : SnapshotUse) (cacheKey : String) :
    lastCached (uses ++ [use]) cacheKey = (use.cached cacheKey).or (lastCached uses cacheKey) := by
  rw [lastCached, List.filterMap_append, List.getLast?_append]
  cases hcached : use.cached cacheKey with
  | none => simp [hcached, lastCached]
  | some snapshot => simp [hcached]

theorem evicted_concat {uses : List SnapshotUse} {use : SnapshotUse} {snapshotId : String} :
    Evicted (uses ++ [use]) snapshotId ↔
      Evicts uses use snapshotId ∨ (Evicted uses snapshotId ∧ use.snapshotId ≠ snapshotId) := by
  constructor
  · rintro ⟨before, found, later, hsplit, hevicts, hlater⟩
    rcases List.eq_nil_or_concat later with rfl | ⟨later, last, rfl⟩
    · obtain ⟨rfl, hsame⟩ := List.append_inj' hsplit rfl
      obtain rfl := (List.cons.inj hsame).1
      exact Or.inl hevicts
    · rw [List.concat_eq_append, ← List.cons_append, ← List.append_assoc] at hsplit
      obtain ⟨rfl, hsame⟩ := List.append_inj' hsplit rfl
      obtain rfl := (List.cons.inj hsame).1
      right
      constructor
      · exact ⟨before, found, later, rfl, hevicts, fun other hother =>
          hlater other (by simp [hother])⟩
      · exact hlater use (by simp)
  · rintro (hevicts | ⟨⟨before, found, later, rfl, hevicts, hlater⟩, hother⟩)
    · exact ⟨uses, use, [], rfl, hevicts, by simp⟩
    · refine ⟨before, found, later ++ [use], by simp, hevicts, ?_⟩
      intro other hmem
      rcases List.mem_append.mp hmem with hmem | hmem
      · exact hlater other hmem
      · rwa [List.mem_singleton.mp hmem]

end SnapshotUse

open SnapshotUse

/-- The table of snapshots after these uses. -/
structure Shelved (uses : List SnapshotUse) (rows : IntakeRows) : Prop where
  pointer : ∀ cacheKey, rows.get (IntakeKey.preflightCache cacheKey) =
    (lastCached uses cacheKey).map CounterpartyPreflightSnapshot.snapshotId
  cached : ∀ cacheKey snapshot, lastCached uses cacheKey = some snapshot →
    rows.get (IntakeKey.preflightSnapshot snapshot.snapshotId) = some ⟨some cacheKey, snapshot⟩
  missing : ∀ snapshotId, rows.get (IntakeKey.preflightSnapshot snapshotId) = none ↔
    Evicted uses snapshotId ∨ ∀ use ∈ uses, use.snapshotId ≠ snapshotId

namespace Shelved

variable {uses : List SnapshotUse} {rows rows' : IntakeRows} {cacheKey : String}
  {snapshot : CounterpartyPreflightSnapshot}

theorem nil : Shelved [] [] := by
  constructor
  · exact fun _ => rfl
  · exact fun _ _ hcached => by cases hcached
  · intro snapshotId
    simp [Rows.get]

/-- The snapshots are as they were. -/
theorem same (h : Shelved uses rows)
    (hrows : ∀ key : IntakeKey, key.table = .snapshots → rows'.get key = rows.get key) :
    Shelved uses rows' := by
  constructor
  · intro cacheKey
    rw [hrows _ rfl, h.pointer]
  · intro cacheKey snapshot hcached
    rw [hrows _ rfl, h.cached cacheKey snapshot hcached]
  · intro snapshotId
    rw [hrows _ rfl, h.missing]

/-- The snapshots of different keys have different ids. -/
theorem cacheKey_eq (h : Shelved uses rows) {other : String}
    {snapshot' : CounterpartyPreflightSnapshot} (hcached : lastCached uses cacheKey = some snapshot)
    (hother : lastCached uses other = some snapshot')
    (hid : snapshot.snapshotId = snapshot'.snapshotId) : cacheKey = other := by
  have hrow := h.cached cacheKey snapshot hcached
  rw [hid, h.cached other snapshot' hother] at hrow
  exact (Option.some.inj (congrArg IntakeSnapshotRow.cacheKey (Option.some.inj hrow))).symm

/-- A request is recorded, and its snapshot is kept with it. -/
theorem record (h : Shelved uses rows)
    (hpointer : ∀ cacheKey, rows'.get (IntakeKey.preflightCache cacheKey) =
      rows.get (IntakeKey.preflightCache cacheKey))
    (hrow : ∀ snapshotId, rows'.get (IntakeKey.preflightSnapshot snapshotId) =
      (rows.get (IntakeKey.preflightSnapshot snapshotId)).or
        (if snapshotId = snapshot.snapshotId then some ⟨none, snapshot⟩ else none)) :
    Shelved (uses ++ [.recorded snapshot]) rows' := by
  have hlast : ∀ cacheKey, lastCached (uses ++ [.recorded snapshot]) cacheKey =
      lastCached uses cacheKey := fun cacheKey => lastCached_concat _ _ _
  constructor
  · intro cacheKey
    rw [hpointer, hlast, h.pointer]
  · intro cacheKey found hcached
    rw [hlast] at hcached
    rw [hrow, h.cached cacheKey found hcached, Option.some_or]
  · intro snapshotId
    have hevicts : ¬ Evicts uses (.recorded snapshot) snapshotId := by
      rintro ⟨_, _, _, hstored, _⟩
      cases hstored
    rw [hrow, Option.or_eq_none_iff, h.missing, evicted_concat]
    by_cases hid : snapshot.snapshotId = snapshotId
    · simp [hid, hevicts, SnapshotUse.snapshotId]
    · simp [hid, Ne.symm hid, hevicts, SnapshotUse.snapshotId, or_imp, forall_and]

/-- A snapshot is stored in the cache. -/
theorem store (h : Shelved uses rows)
    (hvacant : rows.get (IntakeKey.preflightSnapshot snapshot.snapshotId) = none ∨
      rows.get (IntakeKey.preflightCache cacheKey) = some snapshot.snapshotId)
    (hpointer : ∀ other, rows'.get (IntakeKey.preflightCache other) =
      if other = cacheKey then some snapshot.snapshotId
      else rows.get (IntakeKey.preflightCache other))
    (hrow : ∀ snapshotId, rows'.get (IntakeKey.preflightSnapshot snapshotId) =
      if snapshotId = snapshot.snapshotId then some ⟨some cacheKey, snapshot⟩
      else if rows.get (IntakeKey.preflightCache cacheKey) = some snapshotId then none
      else rows.get (IntakeKey.preflightSnapshot snapshotId)) :
    Shelved (uses ++ [.stored cacheKey snapshot]) rows' := by
  have hself : lastCached (uses ++ [.stored cacheKey snapshot]) cacheKey = some snapshot := by
    rw [lastCached_concat, SnapshotUse.cached, if_pos rfl, Option.some_or]
  have hlast : ∀ other, other ≠ cacheKey →
      lastCached (uses ++ [.stored cacheKey snapshot]) other = lastCached uses other := by
    intro other hother
    rw [lastCached_concat, SnapshotUse.cached, if_neg (Ne.symm hother), Option.none_or]
  constructor
  · intro other
    rw [hpointer]
    split_ifs with hother
    · rw [hother, hself, Option.map_some]
    · rw [hlast other hother, h.pointer]
  · intro other found hcached
    by_cases hother : other = cacheKey
    · subst hother
      obtain rfl := Option.some.inj (hself.symm.trans hcached)
      rw [hrow, if_pos rfl]
    · rw [hlast other hother] at hcached
      have hfound := h.cached other found hcached
      -- nothing else of the cache has the id of the row that is renamed
      have hrenamed : rows.get (IntakeKey.preflightCache cacheKey) ≠ some found.snapshotId := by
        intro hpointed
        rw [h.pointer] at hpointed
        obtain ⟨earlier, hearlier, hid⟩ := Option.map_eq_some_iff.mp hpointed
        exact hother (h.cacheKey_eq hcached hearlier hid.symm)
      have hnew : found.snapshotId ≠ snapshot.snapshotId := by
        intro hid
        rcases hvacant with hnone | hpointed
        · rw [← hid, hfound] at hnone
          cases hnone
        · exact hrenamed (hid ▸ hpointed)
      rw [hrow, if_neg hnew, if_neg hrenamed, hfound]
  · intro snapshotId
    rw [hrow, evicted_concat]
    by_cases hid : snapshot.snapshotId = snapshotId
    · have hevicts : ¬ Evicts uses (.stored cacheKey snapshot) snapshotId := by
        rintro ⟨_, _, later, hstored, _, _, hother⟩
        obtain ⟨-, rfl⟩ := SnapshotUse.stored.inj hstored
        exact hother hid
      simp [hid, hevicts, SnapshotUse.snapshotId]
    · have hevicts : Evicts uses (.stored cacheKey snapshot) snapshotId ↔
          rows.get (IntakeKey.preflightCache cacheKey) = some snapshotId := by
        rw [h.pointer, Option.map_eq_some_iff]
        constructor
        · rintro ⟨_, earlier, later, hstored, hearlier, hsame, _⟩
          obtain ⟨rfl, rfl⟩ := SnapshotUse.stored.inj hstored
          exact ⟨earlier, hearlier, hsame⟩
        · rintro ⟨earlier, hearlier, hsame⟩
          exact ⟨cacheKey, earlier, snapshot, rfl, hearlier, hsame, hid⟩
      rw [hevicts, if_neg (Ne.symm hid)]
      by_cases hpointed : rows.get (IntakeKey.preflightCache cacheKey) = some snapshotId
      · simp [hpointed]
      · simp [hpointed, hid, h.missing, SnapshotUse.snapshotId, or_imp, forall_and]

end Shelved

section Transactions

variable {uses : List SnapshotUse} {sha256 : String → String} {service : PublicIntakeService}
  {call : Submission} {preflight : CounterpartyPreflightSnapshot} {locked : IntakeKey → Bool}
  {rows own : IntakeRows} {world : World (IntakeKey → Bool) IntakeRow}

theorem shelved_savePreflightCache {cacheKey : String} (h : Shelved uses rows)
    (hsave : (savePreflightCache cacheKey preflight).execute locked rows [] = .ok ((), own)) :
    Shelved (uses ++ [.stored cacheKey preflight]) (own ++ rows) := by
  simp only [savePreflightCache, execute_bind_eq_ok, execute_select_eq_ok, execute_insert_eq_ok,
    List.nil_append] at hsave
  rcases hsave with ⟨_, _, ⟨rfl, rfl⟩, _, renamedRows, hrenamed, _, inserted, ⟨hvacant, rfl⟩,
    hstored⟩
  obtain rfl : own = ⟨IntakeKey.preflightCache cacheKey, some preflight.snapshotId⟩ ::
      ⟨IntakeKey.preflightSnapshot preflight.snapshotId, some ⟨some cacheKey, preflight⟩⟩ ::
        renamedRows := by
    simpa [Prog.store, execute, eq_comm] using hstored
  cases hpointer : Rows.get rows (IntakeKey.preflightCache cacheKey) with
  | none =>
      obtain rfl : renamedRows = [] := by
        simpa [renamed, hpointer, eq_comm] using hrenamed
      apply h.store (Or.inl hvacant)
      · intro other
        by_cases hother : other = cacheKey
        · subst hother
          simp
        · simp [hother, Ne.symm hother]
      · intro snapshotId
        by_cases hid : snapshotId = preflight.snapshotId
        · subst hid
          simp
        · simp [hid, Ne.symm hid, hpointer]
  | some earlier =>
      obtain rfl : renamedRows = [⟨IntakeKey.preflightSnapshot earlier, none⟩] := by
        simpa [renamed, hpointer, delete, execute, execute_bind, eq_comm] using hrenamed
      apply h.store
      · by_cases hsame : earlier = preflight.snapshotId
        · exact Or.inr (by rw [hpointer, hsame])
        · exact Or.inl (by simpa [hsame] using hvacant)
      · intro other
        by_cases hother : other = cacheKey
        · subst hother
          simp
        · simp [hother, Ne.symm hother]
      · intro snapshotId
        by_cases hid : snapshotId = preflight.snapshotId
        · subst hid
          simp
        · by_cases hearlier : earlier = snapshotId
          · subst hearlier
            simp [hid, Ne.symm hid, hpointer]
          · simp [hid, Ne.symm hid, hearlier, hpointer]

/-- A request is recorded with its snapshot, or the one on record is returned. -/
theorem atCommit_record_shelved (h : Shelved uses world.rows) :
    (PublicIntakeService.record sha256 service call preflight).atCommit (alone _ _)
      (fun after own world => (∃ result, after = .returned result ∧
          Shelved uses (own ++ world.rows)) ∨
        (after = .recorded (call.record sha256 preflight) ∧
          Shelved (uses ++ [.recorded preflight]) (own ++ world.rows))) [] world := by
  rw [PublicIntakeService.record, atCommit_bind]
  apply (writes_getByIdempotencyKey _).atCommit_reads
  rintro (_ | existing)
  · rw [atCommit_bind]
    apply (writes_ensureOutboxCapacity _).atCommit_written
    intro _ capacity hcapacity
    rw [atCommit_bind, savePreflightSnapshot, atCommit_bind]
    -- whatever else the transaction writes, it writes elsewhere
    have hrest : ∀ own : IntakeRows, Shelved (uses ++ [.recorded preflight]) (own ++ world.rows) →
        (do
          add (call.record sha256 preflight)
          appendOutbox (call.event preflight)
          completeIdempotency call.key call.requestId call.completedAt
          appendSecond call preflight
          Pure.pure (.recorded (call.record sha256 preflight)) : IntakeTx Stage).atCommit
          (alone _ _) (fun after own world => (∃ result, after = .returned result ∧
              Shelved uses (own ++ world.rows)) ∨
            (after = .recorded (call.record sha256 preflight) ∧
              Shelved (uses ++ [.recorded preflight]) (own ++ world.rows))) own world := by
      intro own hshelved
      rw [atCommit_bind]
      apply (writes_add _).atCommit_written
      intro _ added hadded
      rw [atCommit_bind]
      apply (writes_appendOutbox _).atCommit_written
      intro _ appended happended
      rw [atCommit_bind]
      apply (writes_completeIdempotency _ _ _).atCommit_written
      intro _ completed hcompleted
      rw [atCommit_bind]
      apply (writes_appendSecond _).atCommit_written
      intro _ second hsecond
      refine Or.inr ⟨rfl, hshelved.same fun key hkey => ?_⟩
      rw [List.append_assoc, hsecond.get_append (by simp [hkey]), List.append_assoc,
        hcompleted.get_append (by simp [hkey]), List.append_assoc,
        happended.get_append (by simp [hkey]), List.append_assoc,
        hadded.get_append (by simp [hkey])]
    have hkept : ∀ key : IntakeKey, key.table = .snapshots →
        Rows.get ((capacity ++ []) ++ world.rows) key = world.rows.get key := by
      intro key hkey
      rw [List.append_nil, hcapacity.get_append (by simp [hkey])]
    rw [atCommit_insertNew]
    constructor
    · intro earlier existing hearlier hexisting
      obtain rfl : world = earlier := hearlier.evolved
      apply hrest
      rw [hkept _ rfl] at hexisting
      apply h.record
      · exact fun cacheKey => hkept _ rfl
      · intro snapshotId
        rw [hkept _ rfl]
        by_cases hid : snapshotId = preflight.snapshotId
        · subst hid
          rw [hexisting, Option.some_or]
        · rw [if_neg hid, Option.or_none]
    · intro hnone
      apply hrest
      rw [hkept _ rfl] at hnone
      apply h.record
      · intro cacheKey
        rw [List.cons_append, Rows.get_cons_ne (by simp)]
        exact hkept _ rfl
      · intro snapshotId
        rw [List.cons_append]
        by_cases hid : snapshotId = preflight.snapshotId
        · subst hid
          rw [Rows.get_cons_self, hnone, if_pos rfl, Option.none_or]
        · rw [Rows.get_cons_ne (by simpa using Ne.symm hid), hkept _ rfl, if_neg hid,
            Option.or_none]
  · simp only [deduplicate, atCommit_bind, atCommit_lift, atCommit_pure]
    exact fun _ _ => Or.inl ⟨_, rfl, h⟩

end Transactions

/-- The request that a commit has recorded. -/
def recordedRequest {ι : Type} : IntakeEvent ι → Option PublicIntakeRecord
  | .committed _ (.submit _ (.assessed _)) (.submit _ (.recorded record)) _ => some record
  | _ => none

/-- What a commit does with a snapshot. -/
def snapshotUse {ι : Type} : IntakeEvent ι → Option SnapshotUse
  | .committed _ (.submit _ (.caching lookup preflight)) _ _ =>
      some (.stored lookup.cacheKey preflight)
  | event => (recordedRequest event).map fun record => .recorded record.preflight

/-- The error of a request whose snapshot is gone. -/
def missingSnapshot : Failure :=
  .integrityViolation "intake request references missing preflight snapshot"

section Runs

variable {ι : Type} {sha256 : String → String} {service : PublicIntakeService}
  {session state states : ι → Session} {rows own : IntakeRows} {locked : IntakeKey → Bool}
  {uses : List SnapshotUse} {client : ι} {before after : Session}

/-- The snapshots are in the tables of these two sessions only. -/
theorem snapshots_of_tables (h : IntakeTable.snapshots ∈ before.tables) :
    (∃ call lookup preflight, before = .submit call (.caching lookup preflight)) ∨
      ∃ call preflight, before = .submit call (.assessed preflight) := by
  unfold Session.tables at h
  split at h
  all_goals simp at h
  · exact Or.inl ⟨_, _, _, rfl⟩
  · exact Or.inr ⟨_, _, rfl⟩

theorem before_of_recordedRequest {record : PublicIntakeRecord}
    (h : recordedRequest (.committed client before after own : IntakeEvent ι) = some record) :
    ∃ call call' preflight, before = .submit call (.assessed preflight) ∧
      after = .submit call' (.recorded record) := by
  unfold recordedRequest at h
  split at h
  · rename_i hevent
    obtain ⟨-, rfl, rfl, -⟩ := Event.committed.inj hevent
    obtain rfl := Option.some.inj h
    exact ⟨_, _, _, rfl, rfl⟩
  · cases h

theorem snapshotUse_of_recordedRequest {event : IntakeEvent ι} {record : PublicIntakeRecord}
    (h : recordedRequest event = some record) :
    snapshotUse event = some (.recorded record.preflight) := by
  unfold snapshotUse
  split
  · cases h
  · rw [h, Option.map_some]

theorem shelved_commit {p : IntakeTx Session} (h : Shelved uses rows)
    (hcode : (flow sha256 service).code before = some p)
    (hresult : p.execute locked rows [] = .ok (after, own)) :
    Shelved (uses ++ (snapshotUse (.committed client before after own : IntakeEvent ι)).toList)
      (own ++ rows) := by
  by_cases htable : IntakeTable.snapshots ∈ before.tables
  · rcases snapshots_of_tables htable with ⟨call, lookup, preflight, rfl⟩ | ⟨call, preflight, rfl⟩
    · obtain rfl := Option.some.inj hcode
      simp only [cache, execute_bind_eq_ok, execute_pure_eq_ok] at hresult
      rcases hresult with ⟨_, _, ⟨_, _, hsave, rfl, rfl⟩, rfl, rfl⟩
      exact shelved_savePreflightCache h hsave
    · obtain rfl := Option.some.inj hcode
      simp only [execute_bind_eq_ok, execute_pure_eq_ok] at hresult
      rcases hresult with ⟨stage, _, hrecord, rfl, rfl⟩
      have hworld : Shelved uses (⟨locked, rows⟩ : World _ IntakeRow).rows := h
      rcases atCommit_execute (atCommit_record_shelved hworld) hrecord with
        ⟨result, rfl, hsame⟩ | ⟨rfl, hrecorded⟩
      · simpa [snapshotUse, recordedRequest] using hsame
      · exact hrecorded
  · have hwritten : own.Only fun key => key.table ∈ before.tables := by
      have honly : p.atCommit (alone (IntakeKey → Bool) IntakeRow)
          (fun _ own _ => own.Only fun key => key.table ∈ before.tables) [] ⟨locked, rows⟩ :=
        (writes_code hcode).only.atCommit Rows.only_nil
      exact atCommit_execute honly hresult
    have huse : snapshotUse (.committed client before after own : IntakeEvent ι) = none := by
      unfold snapshotUse
      split
      · rename_i hevent
        obtain ⟨-, rfl, -, -⟩ := Event.committed.inj hevent
        exact absurd (by simp [Session.tables]) htable
      · rw [Option.map_eq_none_iff, Option.eq_none_iff_forall_ne_some]
        intro record hrecord
        obtain ⟨_, _, _, rfl, _⟩ := before_of_recordedRequest hrecord
        exact absurd (by simp [Session.tables]) htable
    rw [huse, Option.toList_none, List.append_nil]
    apply h.same
    intro key hkey
    exact hwritten.get_append (by rw [hkey]; exact htable) rows

variable [DecidableEq ι] {events : List (IntakeEvent ι)}
  {world : World (IntakeKey → Bool) IntakeRow}

omit [DecidableEq ι] in
/-- An event that does nothing with a snapshot leaves the table as it is. -/
theorem Shelved.quiet {event : IntakeEvent ι} (hnone : snapshotUse event = none)
    (h : Shelved (events.filterMap snapshotUse) rows) :
    Shelved ((events ++ [event]).filterMap snapshotUse) rows := by
  have hlast : [event].filterMap snapshotUse = [] := by
    simp [hnone]
  rw [List.filterMap_append, hlast, List.append_nil]
  exact h

/-- The table of snapshots holds what the commits have done with them. -/
theorem shelved_of_run
    (hrun : SerialRun (flow sha256 service) ⟨locked, []⟩ session events world states) :
    Shelved (events.filterMap snapshotUse) world.rows := by
  induction hrun with
  | start => exact Shelved.nil
  | turn hrun hturn ih =>
      cases hturn with
      | commit client hcode hresult =>
          have hlast : ∀ event : IntakeEvent ι,
              [event].filterMap snapshotUse = (snapshotUse event).toList := by
            intro event
            cases huse : snapshotUse event with
            | none => simp [huse]
            | some use => simp [huse]
          rw [List.filterMap_append, hlast]
          exact shelved_commit ih hcode hresult
      | raised client hcode hresult => exact ih.quiet rfl
      | abort client error hcode haborts => exact ih.quiet rfl
      | act client houtside => exact ih.quiet rfl
      | drift hdrift =>
          rw [List.append_nil]
          exact ih

/-- A request is stored as it was recorded, projected since or not. -/
def Stored (record : PublicIntakeRecord) (rows : IntakeRows) : Prop :=
  rows.get (IntakeKey.requestKey record.idempotencyKey) = some record.requestId ∧
    ∃ projectedAt, rows.get (IntakeKey.request record.requestId) =
      some { requestRow record with projectedAt }

omit [DecidableEq ι] in
theorem Stored.keeps {record : PublicIntakeRecord} {rows' : IntakeRows}
    (h : Stored record rows) (hkeeps : IntakeKeeps rows rows') : Stored record rows' := by
  obtain ⟨hkey, projectedAt, hrow⟩ := h
  constructor
  · exact hkeeps.requestKey _ _ hkey
  · obtain ⟨later, hlater⟩ := hkeeps.request _ _ hrow
    exact ⟨later, hlater⟩

omit [DecidableEq ι] in
/-- A commit that records a request stores it. -/
theorem stored_of_commit {known : CounterpartyPreflightSnapshot → Prop} {rows' : IntakeRows}
    {record : PublicIntakeRecord} (hledger : PublicIntakeService.Ledger sha256 session state rows)
    (hknows : (state client).Knows sha256 service known rows)
    (hdoes : Proceeds sha256 service known (state client) after rows rows')
    (hrecord : recordedRequest (.committed client (state client) after own : IntakeEvent ι) =
      some record) : Stored record rows' ∧ known record.preflight := by
  obtain ⟨call, call', preflight, hbefore, rfl⟩ := before_of_recordedRequest hrecord
  have hclient : (session client).client = .inl call := by
    rw [← hledger.client, hbefore]
    rfl
  have hnone : (state client).answer = none := by
    rw [hbefore]
    rfl
  have hknown : known preflight := hknows.carried preflight (by rw [hbefore]; rfl)
  have hmade : record = call.record sha256 preflight := by
    rcases hdoes.leaves.makes with hsame | ⟨_, _, hassessed, hrecorded⟩
    · rw [hbefore] at hsame
      cases hsame
    · rw [hbefore] at hassessed
      cases hassessed
      cases hrecorded
      rfl
  subst hmade
  refine ⟨?_, hknown⟩
  have heffect := hdoes.effect
  rw [hbefore] at heffect
  cases heffect with
  | records _ _ reserved hrecords =>
      constructor
      · exact (hrecords.requestKeys _).trans (if_pos rfl)
      · exact ⟨none, (hrecords.requests _).trans (if_pos rfl)⟩
  | clashes _ _ reserved happends hreserved hmine hclash =>
      exact (hledger.not_clash hclient hnone hreserved hmine hclash).elim
  | other _ _ hsame hmoved hanswer =>
      -- it would have found its own request on record
      rcases hanswer with hkept | ⟨_, key, requestId, hfound, hkey⟩
      · cases hkept
      · obtain ⟨rfl, rfl⟩ := Prod.mk.inj (Option.some.inj hfound)
        obtain ⟨row, hrow, _⟩ := hledger.keyed _ _ hkey
        cases (hledger.unanswered client call hclient hnone).symm.trans hrow

omit [DecidableEq ι] in
/-- A request on record after an event that records none was on record before it. -/
theorem mem_of_recordedRequest {event other : IntakeEvent ι} {record : PublicIntakeRecord}
    (hnone : recordedRequest other = none) (hmem : event ∈ events ++ [other])
    (hrecord : recordedRequest event = some record) : event ∈ events := by
  rcases List.mem_append.mp hmem with hold | hnew
  · exact hold
  · obtain rfl := List.mem_singleton.mp hnew
    rw [hnone] at hrecord
    cases hrecord

/-- Requests that were recorded are stored, with the ids of snapshots that are known. -/
theorem stored_of_run {last : IntakeSys ι} (hfresh : ∀ client, (session client).fresh)
    (hunique : UniqueRequests session)
    (hrun : Run (flow sha256 service) (Sys.start ⟨locked, []⟩ session) events last) :
    (∀ _ : ι, IntakeSound (Produced service session events) last.world.rows) ∧
      ∀ event ∈ events, ∀ record, recordedRequest event = some record →
        Stored record last.world.rows ∧ Produced service session events record.preflight := by
  have honce := asksOnce_of_run hfresh hrun
  have hrestricted : Run ((flow sha256 service).restrict
      (PublicIntakeService.Answered (Produced service session events)))
      (Sys.start ⟨locked, []⟩ session) events last := by
    apply hrun.restrict
    rintro client before action after hmem answer rfl preflight hcarried
    have hasks : Asks events client preflight := ⟨before, answer, after, hmem, hcarried⟩
    obtain ⟨_, _, call, _, hclient, _⟩ := honce.asked client preflight hasks
    exact ⟨client, call, hclient, Or.inr hasks⟩
  have hgood : (provenance sha256 service (Produced service session events)).Good
      (Sys.start ⟨locked, []⟩ session : IntakeSys ι) :=
    Certificate.Good.start _ _ fun client =>
      ⟨sound_nil, knows_of_fresh (hfresh client) fun call hclient preflight hbegin =>
        ⟨client, call, hclient, Or.inl hbegin⟩⟩
  constructor
  · exact fun client => ((hgood.run hrestricted).sound client).knows.1
  · apply fun hkept : PublicIntakeService.Ledger sha256 session last.states
      last.world.rows ∧ _ => hkept.2
    apply (provenance sha256 service (Produced service session events)).run_induction
      (fun world state earlier => PublicIntakeService.Ledger sha256 session state world.rows ∧
        ∀ event ∈ earlier, ∀ record, recordedRequest event = some record →
          Stored record world.rows ∧ Produced service session events record.preflight)
      hgood _ _ _ _ _ hrestricted
    · exact ⟨ledger_of_fresh hfresh, fun _ hmem => by cases hmem⟩
    · rintro world state earlier client after own hknows hdoes ⟨hledger, hstored⟩
      constructor
      · exact hledger.commit hunique.distinct rfl hdoes.effect
      · intro event hmem record hrecord
        rcases List.mem_append.mp hmem with hold | hnew
        · obtain ⟨hrow, hknown⟩ := hstored event hold record hrecord
          exact ⟨hrow.keeps hdoes.keeps, hknown⟩
        · obtain rfl := List.mem_singleton.mp hnew
          exact stored_of_commit hledger (hknows client).2 hdoes hrecord
    · rintro world state earlier client error hknows ⟨hledger, hstored⟩
      have hrecover := @recover_moves sha256 service (state client) error
      constructor
      · exact hledger.moves hrecover.1 (Or.inl hrecover.2)
      · intro event hmem record hrecord
        exact hstored event (mem_of_recordedRequest rfl hmem hrecord) record hrecord
    · rintro world state earlier client action after env hknows houtside ⟨hledger, hstored⟩
      constructor
      · exact hledger.moves houtside.1.2.client (Or.inl houtside.1.2.answer)
      · intro event hmem record hrecord
        exact hstored event (mem_of_recordedRequest rfl hmem hrecord) record hrecord
    · exact fun _ hkept => hkept

omit [DecidableEq ι] in
theorem nonempty_of_recordedRequest {event : IntakeEvent ι} {record : PublicIntakeRecord}
    (h : recordedRequest event = some record) : Nonempty ι := by
  unfold recordedRequest at h
  split at h
  · exact ⟨‹ι›⟩
  · cases h

omit [DecidableEq ι] in
/-- Both ways to read a stored request come to the same. -/
theorem Stored.reads {record : PublicIntakeRecord} (h : Stored record rows)
    (locked : IntakeKey → Bool) :
    (getByIdempotencyKey record.idempotencyKey).execute locked rows [] =
        (load record.requestId).execute locked rows [] ∧
      (getByRequestId record.requestId).execute locked rows [] =
        (load record.requestId).execute locked rows [] := by
  obtain ⟨hkey, projectedAt, hrow⟩ := h
  have hread : (getByIdempotencyKey record.idempotencyKey).execute locked rows [] =
      (load record.requestId).execute locked rows [] := by
    rw [getByIdempotencyKey, execute_bind, execute_select, List.nil_append, hkey]
  refine ⟨hread, ?_⟩
  rw [getByRequestId, execute_bind, execute_select, List.nil_append, hrow]
  exact hread

omit [DecidableEq ι] in
theorem Stored.load_missing {record : PublicIntakeRecord} (h : Stored record rows)
    (hnone : rows.get (IntakeKey.preflightSnapshot record.preflight.snapshotId) = none)
    (locked : IntakeKey → Bool) :
    (load record.requestId).execute locked rows [] = .error missingSnapshot := by
  obtain ⟨_, projectedAt, hrow⟩ := h
  rw [load, execute_bind, execute_select, List.nil_append, hrow]
  simp [snapshotOf, execute_bind, requestRow, hnone, missingSnapshot]

omit [DecidableEq ι] in
theorem Stored.load_found {record : PublicIntakeRecord} (h : Stored record rows)
    {row : IntakeSnapshotRow} (hrow : rows.get
      (IntakeKey.preflightSnapshot record.preflight.snapshotId) = some row)
    (hsnapshot : row.snapshot = record.preflight) : ∃ projectedAt, ∀ locked,
      (load record.requestId).execute locked rows [] =
        .ok (some { record with projectedAt }, []) := by
  obtain ⟨_, projectedAt, hrequest⟩ := h
  refine ⟨projectedAt, fun locked => ?_⟩
  rw [load, execute_bind, execute_select, List.nil_append, hrequest]
  simp [snapshotOf, execute_bind, requestRow, hrow, hsnapshot, toRecord]

/-- A request is read as it was recorded, by its id and by its key, or it cannot be read
without its snapshot. -/
structure ReadBack (record : PublicIntakeRecord) (gone : Prop) (rows : IntakeRows) : Prop where
  found : ¬ gone → ∃ projectedAt, ∀ locked,
    (getByIdempotencyKey record.idempotencyKey).execute locked rows [] =
        .ok (some { record with projectedAt }, []) ∧
      (getByRequestId record.requestId).execute locked rows [] =
        .ok (some { record with projectedAt }, [])
  missing : gone → ∀ locked,
    (getByIdempotencyKey record.idempotencyKey).execute locked rows [] =
        .error missingSnapshot ∧
      (getByRequestId record.requestId).execute locked rows [] = .error missingSnapshot

/-- A request that was recorded is read back as it was recorded until a later snapshot takes
the place of its own in the cache; from then on it is not read, unless its snapshot is
stored once more. -/
theorem requests_read_back (hfresh : ∀ client, (session client).fresh)
    (hunique : UniqueRequests session)
    (hrun : SerialRun (flow sha256 service) ⟨locked, []⟩ session events world states)
    {record : PublicIntakeRecord} (hrecord : record ∈ events.filterMap recordedRequest) :
    ReadBack record (Evicted (events.filterMap snapshotUse) record.preflight.snapshotId)
      world.rows := by
  obtain ⟨event, hmem, hrecorded⟩ := List.mem_filterMap.mp hrecord
  have hshelved := shelved_of_run hrun
  have hrows := stored_of_run hfresh hunique hrun.run
  have hsound : IntakeSound (Produced service session events) world.rows :=
    (nonempty_of_recordedRequest hrecorded).elim hrows.1
  have hstored : Stored record world.rows := (hrows.2 event hmem record hrecorded).1
  have hknown := (hrows.2 event hmem record hrecorded).2
  have hmissing : world.rows.get
        (IntakeKey.preflightSnapshot record.preflight.snapshotId) = none ↔
      Evicted (events.filterMap snapshotUse) record.preflight.snapshotId := by
    rw [hshelved.missing]
    constructor
    · rintro (hevicted | hunused)
      · exact hevicted
      · apply absurd rfl (hunused (.recorded record.preflight) _)
        exact List.mem_filterMap.mpr ⟨event, hmem, snapshotUse_of_recordedRequest hrecorded⟩
    · exact Or.inl
  constructor
  · intro hkept
    rcases Option.ne_none_iff_exists'.mp (mt hmissing.mp hkept) with ⟨row, hrow⟩
    obtain ⟨hid, hproduced⟩ := hsound.snapshots _ row hrow
    have hsnapshot := produced_unique hunique (asksOnce_of_run hfresh hrun.run) hproduced hknown
      hid
    obtain ⟨projectedAt, hload⟩ := hstored.load_found hrow hsnapshot
    refine ⟨projectedAt, fun locked => ?_⟩
    rw [(hstored.reads locked).1, (hstored.reads locked).2]
    exact ⟨hload locked, hload locked⟩
  · intro hevicted locked
    rw [(hstored.reads locked).1, (hstored.reads locked).2]
    have hload := hstored.load_missing (hmissing.mpr hevicted) locked
    exact ⟨hload, hload⟩

end Runs

section Sample

variable {ι : Type} [DecidableEq ι] {sha256 : String → String} {service : PublicIntakeService}
  {session states : ι → Session} {events : List (IntakeEvent ι)}
  {answer : ℕ → LookupAnswer} {call : Submission} {stage : Stage} {rows : IntakeRows}

/-- What a submission does next that is alone, where the provider answers like this. -/
def nextAlone (sha256 : String → String) (service : PublicIntakeService)
    (answer : ℕ → LookupAnswer) (client : ι) (call : Submission) (rows : IntakeRows) :
    Stage → Option (IntakeEvent ι × Stage × IntakeRows)
  | .asking lookup =>
      match PublicPreflight.ask service.preflight call.payload.companyName call.requestId
          call.submittedAt lookup answer with
      | .ok (preflight, some _) => some (.acted client (.submit call (.asking lookup))
          (.submission (.asked answer)) (.submit call (.caching lookup preflight)),
          .caching lookup preflight, rows)
      | _ => none
  | stage =>
      (transaction sha256 service call stage).bind fun body =>
        (body.execute (fun _ => false) rows []).toOption.map fun result =>
          (.committed client (.submit call stage) (.submit call result.1) result.2, result.1,
            result.2 ++ rows)

/-- What a submission does that is alone, up to so many steps. -/
def playAlone (sha256 : String → String) (service : PublicIntakeService)
    (answer : ℕ → LookupAnswer) (client : ι) (call : Submission) :
    ℕ → Stage → IntakeRows → List (IntakeEvent ι) × Stage × IntakeRows
  | 0, stage, rows => ([], stage, rows)
  | n + 1, stage, rows =>
      match nextAlone sha256 service answer client call rows stage with
      | none => ([], stage, rows)
      | some (event, after, rows') =>
          let rest := playAlone sha256 service answer client call n after rows'
          (event :: rest.1, rest.2)

theorem turn_nextAlone {client : ι} {event : IntakeEvent ι} {after : Stage} {rows' : IntakeRows}
    (hstate : states client = .submit call stage)
    (hnext : nextAlone sha256 service answer client call rows stage =
      some (event, after, rows')) :
    Turn (flow sha256 service) ⟨fun _ => false, rows⟩ states [event] ⟨fun _ => false, rows'⟩
      (Function.update states client (.submit call after)) := by
  unfold nextAlone at hnext
  split at hnext
  · rename_i lookup
    split at hnext
    · rename_i preflight record hask
      cases hnext
      rw [← hstate]
      apply Turn.act
      rw [hstate]
      exact ⟨rfl, .submit (.found lookup answer preflight record hask)⟩
    · cases hnext
  · obtain ⟨body, htransaction, hbody⟩ := Option.bind_eq_some_iff.mp hnext
    obtain ⟨⟨result, own⟩, hresult, hevent⟩ := Option.map_eq_some_iff.mp hbody
    cases hevent
    have hbody : body.execute (fun _ => false) rows [] = .ok (result, own) := by
      cases hexecute : body.execute (fun _ => false) rows [] with
      | error error =>
          rw [hexecute] at hresult
          cases hresult
      | ok found =>
          rw [hexecute] at hresult
          rw [Option.some.inj hresult]
    have hcode : (flow sha256 service).code (states client) =
        some (body >>= fun after => Pure.pure (.submit call after)) := by
      rw [hstate]
      simp only [flow, htransaction, Option.map_some]
    rw [← hstate]
    apply Turn.commit _ _ _ hcode
    rw [execute_bind, hbody]
    rfl

theorem serialRun_playAlone {client : ι} {world : World (IntakeKey → Bool) IntakeRow}
    (n : ℕ) (hstate : states client = .submit call stage)
    (hrun : SerialRun (flow sha256 service) world session events ⟨fun _ => false, rows⟩ states) :
    SerialRun (flow sha256 service) world session
      (events ++ (playAlone sha256 service answer client call n stage rows).1)
      ⟨fun _ => false, (playAlone sha256 service answer client call n stage rows).2.2⟩
      (Function.update states client
        (.submit call (playAlone sha256 service answer client call n stage rows).2.1)) := by
  have hnothing : Function.update states client (.submit call stage) = states := by
    rw [← hstate, Function.update_eq_self]
  induction n generalizing stage rows states events with
  | zero =>
      simp only [playAlone, List.append_nil, hnothing]
      exact hrun
  | succ n ih =>
      unfold playAlone
      split
      · simp only [List.append_nil, hnothing]
        exact hrun
      · rename_i event after rows' hnext
        have hlast := ih (Function.update_self _ _ _) (hrun.turn (turn_nextAlone hstate hnext))
          (by rw [Function.update_idem])
        rw [Function.update_idem, List.append_assoc] at hlast
        exact hlast

def lookupService : PublicIntakeService :=
  { sampleService with preflight := PublicPreflight.registryService }

/-- A request about the same company. -/
def companyCall (key requestId eventId : String) (now : Instant) : Submission :=
  { sampleCall with
    payload := (namedCall "Alpha" requestId now).payload
    idempotencyKey := key
    requestId
    eventId
    reservedAt := now
    submittedAt := now
    completedAt := now
    projectedAt := now }

def earlyCall : Submission := companyCall "key-0001" "request-1" "event-1" 0

/-- It comes when the snapshot has expired. -/
def lateCall : Submission := companyCall "key-0002" "request-2" "event-2" (seconds 1000)

def companySessions (late : Bool) : Session :=
  .submit (if late then lateCall else earlyCall) .waiting

def earlyPlay : List (IntakeEvent Bool) × Stage × IntakeRows :=
  playAlone sampleDigest lookupService (fun _ => .ok alphaCompany) false earlyCall 7 .waiting []

def latePlay : List (IntakeEvent Bool) × Stage × IntakeRows :=
  playAlone sampleDigest lookupService (fun _ => .ok alphaCompany) true lateCall 7 .waiting
    earlyPlay.2.2

/-- The snapshot of the late request. -/
def lateSnapshot : CounterpartyPreflightSnapshot :=
  CachedLookup.snapshot ⟨namedCall "Alpha" "request-2" (seconds 1000), alphaLookup, alphaCompany⟩

theorem company_uses : (earlyPlay.1 ++ latePlay.1).filterMap snapshotUse =
    [.stored alphaLookup.cacheKey alphaEntry.snapshot, .recorded alphaEntry.snapshot,
      .stored alphaLookup.cacheKey lateSnapshot, .recorded lateSnapshot] := by
  decide +kernel

theorem company_recorded : earlyCall.record sampleDigest alphaEntry.snapshot ∈
    (earlyPlay.1 ++ latePlay.1).filterMap recordedRequest := by
  decide +kernel

/-- A request that was recorded cannot be read any more. -/
theorem requests_read_back_sample : ∃ (events : List (IntakeEvent Bool))
    (world : World (IntakeKey → Bool) IntakeRow) (states : Bool → Session)
    (record : PublicIntakeRecord),
    SerialRun (flow sampleDigest lookupService) ⟨fun _ => false, []⟩ companySessions events world
        states ∧ record ∈ events.filterMap recordedRequest ∧
      (getByRequestId record.requestId).execute (fun _ => false) world.rows [] =
        .error missingSnapshot := by
  have hearly := @serialRun_playAlone Bool _ sampleDigest lookupService companySessions
    companySessions [] (fun _ => .ok alphaCompany) earlyCall .waiting [] false
    ⟨fun _ => false, []⟩ 7 rfl .start
  have hrun := @serialRun_playAlone Bool _ sampleDigest lookupService companySessions _ _
    (fun _ => .ok alphaCompany) lateCall .waiting _ true _ 7 rfl hearly
  have hfresh : ∀ late, (companySessions late).fresh := fun _ => rfl
  have hunique : UniqueRequests companySessions := by
    constructor
    · intro late late' call call' hcall hcall' hsame
      obtain rfl := Sum.inl.inj hcall
      obtain rfl := Sum.inl.inj hcall'
      clear hcall hcall'
      revert late late'
      decide
    · intro late call hcall
      obtain rfl := Sum.inl.inj hcall
      clear hcall
      revert late
      decide
  have hevicted : Evicted ((earlyPlay.1 ++ latePlay.1).filterMap snapshotUse)
      alphaEntry.snapshot.snapshotId := by
    rw [company_uses]
    refine ⟨[.stored alphaLookup.cacheKey alphaEntry.snapshot, .recorded alphaEntry.snapshot],
      .stored alphaLookup.cacheKey lateSnapshot, [.recorded lateSnapshot], rfl, ?_, ?_⟩
    · exact ⟨_, _, _, rfl, rfl, rfl, by decide⟩
    · decide
  refine ⟨_, _, _, _, hrun, company_recorded, ?_⟩
  exact ((requests_read_back hfresh hunique hrun company_recorded).missing hevicted _).2

end Sample

end ShemaPlatform
