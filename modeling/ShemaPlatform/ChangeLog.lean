/-
The change events of a monitor as a log of its payload.  The base of each
event is the snapshot observed last, not the one recorded last, and the log
follows the monitor exactly while the two have the same payload.
-/
import ShemaPlatform.MonitoringRules
import ShemaPlatform.StateRun

namespace ShemaPlatform

open Calendar ReadCommitted ReadCommitted.Prog StateRun

/-- The rows after a call; a refused call leaves them. -/
def ObservationCall.after (sha256 uuid5 : String → String) (rows : MonitoringRows)
    (call : ObservationCall) : MonitoringRows :=
  match (call.record sha256 uuid5).atomically (fun _ => false) rows with
  | .ok (_, rows') => rows'
  | .error _ => rows

/-- The key of the call has been answered with a snapshot. -/
def ObservationCall.Repeated (rows : MonitoringRows) (call : ObservationCall) : Prop :=
  ∃ key record, call.key = some key ∧
    recordAt rows (call.reservationKey key) = some record ∧
    PyText.startsWith record.resultRef "pending:" = false

/-- `uuid4` hands out an id that no change event has. -/
structure ObservationCall.Fresh (rows : MonitoringRows) (call : ObservationCall) :
    Prop where
  change : changeAt rows call.changeId = none
  outbox : ∀ {eventId event}, outboxAt rows eventId = some event →
    ("change_id", Field.text call.changeId) ∉ event.payload

namespace CounterpartyChangeLog

section Logs

variable (rows : MonitoringRows) (monitorId : String)

def changeOf (monitorId : String) :
    (Σ key, Option (MonitoringRow key)) → Option (List ParameterChange)
  | ⟨.changeEvent _, some event⟩ =>
      if event.monitorId = monitorId then some event.changedParameters else none
  | _ => none

def snapshotOf (monitorId : String) :
    (Σ key, Option (MonitoringRow key)) → Option CounterpartySnapshot
  | ⟨.snapshot _, some snapshot⟩ =>
      if snapshot.monitorId = monitorId then some snapshot else none
  | _ => none

/-- The changes announced for a monitor, in the order of the events. -/
def changeLog : List (List ParameterChange) :=
  rows.reverse.filterMap (changeOf monitorId)

/-- The first snapshot that was recorded for a monitor. -/
def firstSnapshot : Option CounterpartySnapshot :=
  (rows.reverse.filterMap (snapshotOf monitorId)).head?

/-- The snapshot a monitor names in `last_snapshot_id`. -/
def lastSnapshot : Option CounterpartySnapshot := do
  let monitor ← monitorAt rows monitorId
  let snapshotId ← monitor.lastSnapshotId
  snapshotAt rows snapshotId

/-- From the first snapshot on, the announced changes lead to the last one,
and each says what it replaces. -/
def Faithful : Prop :=
  ∀ first ∈ firstSnapshot rows monitorId, ∃ last ∈ lastSnapshot rows monitorId,
    PatchLog.Replays first.payload (changeLog rows monitorId) last.payload

instance : Decidable (Faithful rows monitorId) :=
  inferInstanceAs (Decidable (∀ _ ∈ _, ∃ _ ∈ _, _))

/-- The condition on a call that is not a repetition: the snapshot observed
last has the payload of the snapshot recorded last. -/
def Current (call : ObservationCall) : Prop :=
  ¬ call.Repeated rows → ∀ latest ∈ MonitoringRepository.latestSnapshot rows
    call.monitorId, ∃ last ∈ lastSnapshot rows call.monitorId,
      last.payload = latest.payload

/-- An accepted observation of the monitor. -/
structure Observed (sha256 uuid5 : String → String) (monitorId : String)
    (rows : MonitoringRows) (call : ObservationCall) : Prop where
  monitor : call.monitorId = monitorId
  accepted : (call.record sha256 uuid5).accepts (fun _ => false) rows = true
  fresh : call.Fresh rows

/-- A monitor of which nothing has been observed yet. -/
structure NewMonitor (rows : MonitoringRows) (monitorId : String) : Prop where
  monitor : ∃ monitor, monitorAt rows monitorId = some monitor
  keyed : ∀ {monitor}, monitorAt rows monitorId = some monitor →
    monitor.monitorId = monitorId
  unseen : ∀ {snapshotId snapshot}, snapshotAt rows snapshotId = some snapshot →
    snapshot.monitorId ≠ monitorId
  unindexed : ∀ observedAt payloadHash,
    contentAt rows monitorId observedAt payloadHash = none
  unpaired : ∀ before after, pairAt rows monitorId before after = none
  first : firstSnapshot rows monitorId = none
  log : changeLog rows monitorId = []

end Logs

variable {sha256 uuid5 : String → String} {monitorId : String}
  {rows own : MonitoringRows} {call : ObservationCall}

theorem changeLog_append (own rows : MonitoringRows) (monitorId : String) :
    changeLog (own ++ rows) monitorId =
      changeLog rows monitorId ++ changeLog own monitorId := by
  simp [changeLog]

theorem changeLog_within {table : MonitoringTable} (hown : WithinTable table own)
    (htable : table ≠ .changes) : changeLog own monitorId = [] := by
  simp only [changeLog, List.filterMap_eq_nil_iff, List.mem_reverse]
  rintro ⟨key, row⟩ hmem
  have hkey : key.table = table := hown key (List.mem_map_of_mem hmem)
  cases key with
  | changeEvent _ => exact absurd hkey.symm htable
  | _ => rfl

theorem firstSnapshot_append (own rows : MonitoringRows) (monitorId : String) :
    firstSnapshot (own ++ rows) monitorId =
      (firstSnapshot rows monitorId).or (firstSnapshot own monitorId) := by
  simp [firstSnapshot, List.head?_append]

theorem firstSnapshot_within {table : MonitoringTable} (hown : WithinTable table own)
    (htable : table ≠ .snapshots) : firstSnapshot own monitorId = none := by
  rw [firstSnapshot, List.head?_eq_none_iff, List.filterMap_eq_nil_iff]
  rintro ⟨key, row⟩ hmem
  have hkey : key.table = table :=
    hown key (List.mem_map_of_mem (List.mem_reverse.mp hmem))
  cases key with
  | snapshot _ => exact absurd hkey.symm htable
  | _ => rfl

/-- Every pair of snapshots that has a change event has its outbox event. -/
structure Sent (uuid5 : String → String) (monitorId : String)
    (rows : MonitoringRows) : Prop where
  outbox : ∀ {before after changeId},
    pairAt rows monitorId before after = some changeId →
    ∃ event, outboxAt rows
      (uuid5 s!"counterparty-change:{monitorId}:{before}:{after}") = some event

/-- What holds of the rows of a monitor between calls. -/
structure Consistent (uuid5 : String → String) (monitorId : String)
    (rows : MonitoringRows) : Prop where
  monitor : ∃ monitor, monitorAt rows monitorId = some monitor ∧
    monitor.monitorId = monitorId
  content : ∀ {observedAt payloadHash snapshotId},
    contentAt rows monitorId observedAt payloadHash = some snapshotId →
    ∃ snapshot, snapshotAt rows snapshotId = some snapshot ∧
      snapshot.monitorId = monitorId ∧ snapshot.snapshotId = snapshotId
  begun : ∀ {snapshotId snapshot}, snapshotAt rows snapshotId = some snapshot →
    snapshot.monitorId = monitorId → (firstSnapshot rows monitorId).isSome
  first : ∀ {first}, firstSnapshot rows monitorId = some first →
    ∃ snapshotId snapshot, snapshotAt rows snapshotId = some snapshot ∧
      snapshot.monitorId = monitorId
  quiet : firstSnapshot rows monitorId = none → changeLog rows monitorId = []
  sent : Sent uuid5 monitorId rows

theorem NewMonitor.consistent (hnew : NewMonitor rows monitorId) :
    Consistent uuid5 monitorId rows := by
  constructor
  · obtain ⟨monitor, hmonitor⟩ := hnew.monitor
    exact ⟨monitor, hmonitor, hnew.keyed hmonitor⟩
  · intro observedAt payloadHash snapshotId hcontent
    simp [hnew.unindexed] at hcontent
  · intro snapshotId snapshot hsnapshot hmonitor
    exact absurd hmonitor (hnew.unseen hsnapshot)
  · intro first hfirst
    simp [hnew.first] at hfirst
  · exact fun _ => hnew.log
  · constructor
    intro before after changeId hpair
    simp [hnew.unpaired] at hpair

theorem NewMonitor.faithful (hnew : NewMonitor rows monitorId) :
    Faithful rows monitorId := by
  intro first hfirst
  simp [hnew.first] at hfirst

/-- The rows of an announcement. -/
def announcement (uuid5 : String → String) (call : ObservationCall)
    (event : CounterpartyChangeEvent) : MonitoringRows :=
  ⟨MonitoringKey.auditLog call.auditId, some (call.auditRecord event)⟩ ::
    ⟨MonitoringKey.outboxEvent (uuid5 event.notificationId),
      some (call.outboxEvent uuid5 event)⟩ :: ObservationCall.eventRows event

theorem changeLog_announcement (uuid5 : String → String) (call : ObservationCall)
    (event : CounterpartyChangeEvent) :
    changeLog (announcement uuid5 call event) event.monitorId =
      [event.changedParameters] := by
  have hevent : changeOf event.monitorId
      ⟨MonitoringKey.changeEvent event.changeId, some event⟩ =
        some event.changedParameters := if_pos rfl
  simp only [changeLog, announcement, ObservationCall.eventRows, List.reverse_cons,
    List.reverse_nil, List.nil_append, List.cons_append, List.filterMap_cons, hevent]
  rfl

/-- A change is announced with its event, or there is none to announce. -/
theorem announced_eq {monitor : CounterpartyMonitor}
    {stored : CounterpartySnapshot} {writes : ObservationCall.Writes}
    (hkeeps : call.Keeps sha256 uuid5 rows monitor stored writes)
    (hsent : Sent uuid5 call.monitorId rows) (hfresh : call.Fresh rows) :
    (writes.announced = [] ∧ ∀ before ∈ MonitoringRepository.latestSnapshot rows
        call.monitorId, before.payload = stored.payload) ∨
    ∃ before severity, MonitoringRepository.latestSnapshot rows call.monitorId =
        some before ∧ before.payload ≠ stored.payload ∧
      writes.announced = announcement uuid5 call (call.changeEvent before stored
        (PatchLog.diff PayloadField.sorted before.payload stored.payload)
          severity) := by
  rcases hkeeps.announces with hquiet | ⟨before, event, hlatest, hchanged, hannounces⟩
  · exact Or.inl hquiet
  · obtain ⟨severity, rfl⟩ := hannounces.event_eq
    refine Or.inr ⟨before, severity, hlatest, hchanged, ?_⟩
    obtain ⟨events, outbox, hwritten, hevents, houtbox⟩ := hannounces.written_eq
    -- an id the outbox has cannot carry the new change id
    rcases houtbox with ⟨_, hold⟩ | ⟨rfl, hunsent⟩
    · exact absurd (by simp [ObservationCall.outboxEvent, ObservationCall.changeEvent])
        (hfresh.outbox hold)
    · rcases hevents with ⟨_, changeId, hpair⟩ | ⟨rfl, _⟩
      · obtain ⟨sent, hold⟩ := hsent.outbox hpair
        exact absurd (hold.symm.trans hunsent) (by simp)
      · exact hwritten

section Keeping

variable {monitor : CounterpartyMonitor} {stored : CounterpartySnapshot}
  {writes : ObservationCall.Writes}

theorem changeLog_all (hkeeps : call.Keeps sha256 uuid5 rows monitor stored writes)
    (monitorId : String) : changeLog (writes.all call monitor stored ++ rows) monitorId =
      changeLog rows monitorId ++ changeLog writes.announced monitorId := by
  have hupdated : WithinTable .monitors [⟨MonitoringKey.monitor call.monitorId,
      some (call.checked stored monitor)⟩] := by simp
  have hsplit : writes.all call monitor stored = writes.completed ++
      (writes.announced ++ ([⟨MonitoringKey.monitor call.monitorId,
        some (call.checked stored monitor)⟩] ++ (writes.kept ++ writes.reserved))) := rfl
  rw [hsplit, changeLog_append]
  simp only [changeLog_append, changeLog_within hkeeps.within (by decide),
    changeLog_within hkeeps.stores.within (by decide),
    changeLog_within hkeeps.reserves.within (by decide),
    changeLog_within hupdated (by decide), List.nil_append, List.append_nil]

theorem firstSnapshot_all (hkeeps : call.Keeps sha256 uuid5 rows monitor stored writes)
    (monitorId : String) :
    firstSnapshot (writes.all call monitor stored ++ rows) monitorId =
      (firstSnapshot rows monitorId).or (firstSnapshot writes.kept monitorId) := by
  have hupdated : WithinTable .monitors [⟨MonitoringKey.monitor call.monitorId,
      some (call.checked stored monitor)⟩] := by simp
  have hsplit : writes.all call monitor stored = writes.completed ++
      (writes.announced ++ ([⟨MonitoringKey.monitor call.monitorId,
        some (call.checked stored monitor)⟩] ++ (writes.kept ++ writes.reserved))) := rfl
  rw [hsplit, firstSnapshot_append]
  simp only [firstSnapshot_append, firstSnapshot_within hkeeps.within (by decide),
    firstSnapshot_within hkeeps.within_announced (by decide),
    firstSnapshot_within hkeeps.reserves.within (by decide),
    firstSnapshot_within hupdated (by decide), Option.none_or, Option.or_none]

/-- A snapshot stays where it is, since an added one has a new id. -/
theorem snapshotAt_keep (hkeeps : call.Keeps sha256 uuid5 rows monitor stored writes)
    {snapshotId : String} {snapshot : CounterpartySnapshot}
    (hsnapshot : snapshotAt rows snapshotId = some snapshot) :
    snapshotAt (writes.all call monitor stored ++ rows) snapshotId =
      some snapshot := by
  refine (hkeeps.get_eq (.snapshot snapshotId)).trans ?_
  rcases hkeeps.stores.added_or_found with ⟨_, hnew, _, hkept⟩ | ⟨_, _, _, hkept⟩
  · have hother : (call.observation.toSnapshot sha256
        monitor.monitorId).snapshotId ≠ snapshotId := by
      rintro hids
      rw [hids, hsnapshot] at hnew
      cases hnew
    rw [hkept]
    simpa [hother, snapshotAt] using hsnapshot
  · rw [hkept]
    exact hsnapshot

theorem Sent.keep {monitorId : String} (hsent : Sent uuid5 monitorId rows)
    (hown : Sent uuid5 call.monitorId rows)
    (hkeeps : call.Keeps sha256 uuid5 rows monitor stored writes)
    (hfresh : call.Fresh rows) :
    Sent uuid5 monitorId (writes.all call monitor stored ++ rows) := by
  constructor
  intro before after changeId hpair
  replace hpair := (hkeeps.get_eq
    (.changePair monitorId before after)).symm.trans hpair
  have hread : outboxAt (writes.all call monitor stored ++ rows) (uuid5
      s!"counterparty-change:{monitorId}:{before}:{after}") =
      outboxAt (writes.announced ++ rows) (uuid5
        s!"counterparty-change:{monitorId}:{before}:{after}") :=
    hkeeps.get_eq (.outboxEvent _)
  rw [hread]
  rcases announced_eq hkeeps hown hfresh with ⟨hnone, _⟩ |
    ⟨previous, severity, _, _, hannounced⟩
  · rw [hnone] at hpair ⊢
    exact hsent.outbox hpair
  · rw [hannounced] at hpair ⊢
    obtain ⟨event, hevent⟩ : ∃ event, event = call.changeEvent previous stored
      (PatchLog.diff PayloadField.sorted previous.payload stored.payload) severity :=
      ⟨_, rfl⟩
    rw [← hevent] at hpair ⊢
    have hread : pairAt (announcement uuid5 call event ++ rows) monitorId before
        after = pairAt (ObservationCall.eventRows event ++ rows) monitorId before
          after := by simp [pairAt, announcement]
    replace hpair := hread.symm.trans hpair
    simp only [announcement, List.cons_append, outboxAt_audit, outboxAt_event,
      ObservationCall.outboxAt_eventRows]
    split_ifs with hsame
    · exact ⟨_, rfl⟩
    · rw [ObservationCall.pairAt_eventRows] at hpair
      split_ifs at hpair with hpairSame
      · obtain ⟨rfl, rfl, rfl⟩ := hpairSame
        subst hevent
        exact absurd rfl hsame
      · exact hsent.outbox hpair

/-- The stored snapshot is this monitor's and is found under its id. -/
theorem stored_at (hkeeps : call.Keeps sha256 uuid5 rows monitor stored writes)
    (hconsistent : Consistent uuid5 call.monitorId rows) :
    snapshotAt (writes.all call monitor stored ++ rows) stored.snapshotId =
        some stored ∧ stored.monitorId = call.monitorId ∧
      (firstSnapshot rows call.monitorId = none →
        firstSnapshot writes.kept call.monitorId = some stored) := by
  obtain ⟨found, hfound, hmonitorId⟩ := hconsistent.monitor
  obtain rfl := Option.some.inj (hkeeps.found.symm.trans hfound)
  have hread : snapshotAt (writes.all call monitor stored ++ rows) stored.snapshotId =
      snapshotAt (writes.kept ++ rows) stored.snapshotId := hkeeps.get_eq _
  rw [hread]
  rcases hkeeps.stores.added_or_found with ⟨_, _, rfl, hkept⟩ |
    ⟨snapshotId, hcontent, hstored, hkept⟩
  · have hfirst : snapshotOf call.monitorId ⟨MonitoringKey.snapshot
        (call.observation.toSnapshot sha256 monitor.monitorId).snapshotId,
        some (call.observation.toSnapshot sha256 monitor.monitorId)⟩ =
          some (call.observation.toSnapshot sha256 monitor.monitorId) :=
      if_pos hmonitorId
    refine ⟨?_, hmonitorId, ?_⟩
    · rw [hkept]
      exact Rows.get_cons_self _ _ _
    · intro _
      rw [hkept]
      simp only [firstSnapshot, List.reverse_cons, List.reverse_nil, List.nil_append,
        List.cons_append, List.filterMap_cons, hfirst]
      rfl
  · have hcontent' : contentAt rows call.monitorId call.observation.observedAt
        (snapshotPayloadHash sha256 call.observation.payload) = some snapshotId := by
      rw [← hmonitorId]
      exact hcontent
    obtain ⟨snapshot, hsnapshot, hsnapshotMonitor, rfl⟩ :=
      hconsistent.content hcontent'
    obtain rfl := Option.some.inj (hstored.symm.trans hsnapshot)
    refine ⟨?_, hsnapshotMonitor, ?_⟩
    · rw [hkept]
      exact hstored
    · intro hnone
      have hbegun := hconsistent.begun hstored hsnapshotMonitor
      simp [hnone] at hbegun

theorem Consistent.keep (hconsistent : Consistent uuid5 call.monitorId rows)
    (hkeeps : call.Keeps sha256 uuid5 rows monitor stored writes)
    (hfresh : call.Fresh rows) :
    Consistent uuid5 call.monitorId (writes.all call monitor stored ++ rows) := by
  obtain ⟨found, hfound, hmonitorId⟩ := hconsistent.monitor
  obtain rfl := Option.some.inj (hkeeps.found.symm.trans hfound)
  obtain ⟨hstored, hstoredMonitor, hstoredFirst⟩ := stored_at hkeeps hconsistent
  have hfirst : (firstSnapshot (writes.all call monitor stored ++ rows)
      call.monitorId).isSome := by
    rw [firstSnapshot_all hkeeps]
    cases hold : firstSnapshot rows call.monitorId with
    | none => simp [hstoredFirst hold]
    | some first => simp
  constructor
  · refine ⟨call.checked stored monitor, ?_, hmonitorId⟩
    exact (hkeeps.get_eq (.monitor call.monitorId)).trans (Rows.get_cons_self _ _ _)
  · intro observedAt payloadHash snapshotId hcontent
    replace hcontent := (hkeeps.get_eq
      (.snapshotContent call.monitorId observedAt payloadHash)).symm.trans hcontent
    have hold : contentAt rows call.monitorId observedAt payloadHash =
        some snapshotId → ∃ snapshot, snapshotAt (writes.all call monitor stored ++ rows)
          snapshotId = some snapshot ∧ snapshot.monitorId = call.monitorId ∧
            snapshot.snapshotId = snapshotId := by
      intro hold
      obtain ⟨snapshot, hsnapshot, hrest⟩ := hconsistent.content hold
      exact ⟨snapshot, snapshotAt_keep hkeeps hsnapshot, hrest⟩
    rcases hkeeps.stores.added_or_found with ⟨_, _, rfl, hkept⟩ | ⟨_, _, _, hkept⟩
    · rw [hkept] at hcontent
      replace hcontent := (contentAt_snapshot _ _ _ _ _ _).symm.trans hcontent
      replace hcontent := (contentAt_content _ _ _ _ _ _ _ _).symm.trans hcontent
      split_ifs at hcontent with hsame
      · obtain rfl := Option.some.inj hcontent
        exact ⟨_, hstored, hstoredMonitor, rfl⟩
      · exact hold hcontent
    · rw [hkept] at hcontent
      exact hold hcontent
  · exact fun _ _ => hfirst
  · intro first _
    exact ⟨_, stored, hstored, hstoredMonitor⟩
  · intro hnone
    simp [hnone] at hfirst
  · exact hconsistent.sent.keep hconsistent.sent hkeeps hfresh

/-- The new row of the log is a diff from the snapshot observed last. -/
theorem changeLog_keep (hkeeps : call.Keeps sha256 uuid5 rows monitor stored writes)
    (hconsistent : Consistent uuid5 call.monitorId rows) (hfresh : call.Fresh rows)
    {latest : CounterpartySnapshot}
    (hlatest : MonitoringRepository.latestSnapshot rows call.monitorId = some latest) :
    changeLog (writes.all call monitor stored ++ rows) call.monitorId =
      PatchLog.record (changeLog rows call.monitorId)
        (PatchLog.diff PayloadField.sorted latest.payload stored.payload) := by
  rw [changeLog_all hkeeps]
  rcases announced_eq hkeeps hconsistent.sent hfresh with ⟨hnone, hsame⟩ |
    ⟨before, severity, hbefore, hchanged, hannounced⟩
  · have hdiff := (PatchLog.diff_eq_nil_iff PayloadField.mem_sorted).mpr
      (hsame latest hlatest)
    simp [hnone, hdiff, PatchLog.record, changeLog]
  · obtain rfl := Option.some.inj (hlatest.symm.trans hbefore)
    have hdiff := mt (PatchLog.diff_eq_nil_iff PayloadField.mem_sorted).mp hchanged
    have hrecord : PatchLog.record (changeLog rows call.monitorId)
        (PatchLog.diff PayloadField.sorted latest.payload stored.payload) =
        changeLog rows call.monitorId ++
          [PatchLog.diff PayloadField.sorted latest.payload stored.payload] := by
      simp [PatchLog.record, hdiff]
    rw [hrecord, hannounced]
    exact congrArg (changeLog rows call.monitorId ++ ·) (changeLog_announcement uuid5
      call (call.changeEvent latest stored _ severity))

theorem lastSnapshot_all (hkeeps : call.Keeps sha256 uuid5 rows monitor stored writes)
    (hconsistent : Consistent uuid5 call.monitorId rows) :
    lastSnapshot (writes.all call monitor stored ++ rows) call.monitorId =
      some stored := by
  obtain ⟨hstored, _, _⟩ := stored_at hkeeps hconsistent
  have hmonitor : monitorAt (writes.all call monitor stored ++ rows) call.monitorId =
      some (call.checked stored monitor) :=
    (hkeeps.get_eq (.monitor call.monitorId)).trans (Rows.get_cons_self _ _ _)
  simp only [lastSnapshot, hmonitor]
  exact hstored

/-- Keeping an observation keeps the log faithful exactly when the snapshot
observed last and the one recorded last have the same payload. -/
theorem faithful_keep_iff (hkeeps : call.Keeps sha256 uuid5 rows monitor stored writes)
    (hconsistent : Consistent uuid5 call.monitorId rows) (hfresh : call.Fresh rows)
    (hfaithful : Faithful rows call.monitorId) :
    Faithful (writes.all call monitor stored ++ rows) call.monitorId ↔
      ∀ latest ∈ MonitoringRepository.latestSnapshot rows call.monitorId,
        ∃ last ∈ lastSnapshot rows call.monitorId, last.payload = latest.payload := by
  rw [Faithful, lastSnapshot_all hkeeps hconsistent, firstSnapshot_all hkeeps]
  cases hfirst : firstSnapshot rows call.monitorId with
  | none =>
      have hlatest : MonitoringRepository.latestSnapshot rows call.monitorId = none := by
        by_contra hsome
        obtain ⟨latest, hlatest⟩ := Option.ne_none_iff_exists'.mp hsome
        obtain ⟨_, hstored, hmonitor⟩ := MonitoringRepository.latestSnapshot_mem hlatest
        have hbegun := hconsistent.begun hstored hmonitor
        simp [hfirst] at hbegun
      have hannounced : writes.announced = [] := by
        rcases hkeeps.announces with ⟨hnone, _⟩ | ⟨_, _, hsome, _⟩
        · exact hnone
        · rw [hlatest] at hsome
          cases hsome
      obtain ⟨_, _, hstoredFirst⟩ := stored_at hkeeps hconsistent
      rw [hstoredFirst hfirst, changeLog_all hkeeps, hconsistent.quiet hfirst,
        hannounced, hlatest]
      constructor
      · intro _ latest hlatest
        cases hlatest
      · intro _ first hfirst
        obtain rfl := Option.some.inj hfirst
        exact ⟨_, rfl, rfl⟩
  | some first =>
      obtain ⟨last, hlast, hreplays⟩ := hfaithful first hfirst
      obtain ⟨_, seen, hseen, hseenMonitor⟩ := hconsistent.first hfirst
      obtain ⟨latest, hlatest⟩ :=
        MonitoringRepository.latestSnapshot_isSome hseen hseenMonitor
      have hiff := PatchLog.replays_record_iff PayloadField.mem_sorted hreplays
        latest.payload stored.payload
      rw [← changeLog_keep hkeeps hconsistent hfresh hlatest] at hiff
      rw [hlatest]
      constructor
      · intro hnew other hother
        obtain rfl := Option.some.inj hother
        obtain ⟨new, hnew, hnewReplays⟩ := hnew first rfl
        obtain rfl := Option.some.inj hnew
        exact ⟨last, hlast, (hiff.mp hnewReplays).symm⟩
      · intro hcurrent other hother
        obtain rfl := Option.some.inj hother
        obtain ⟨last', hlast', hsame⟩ := hcurrent latest rfl
        obtain rfl := Option.some.inj (hlast.symm.trans hlast')
        exact ⟨stored, rfl, hiff.mpr hsame.symm⟩

end Keeping

theorem repeated_of_replays {stored : CounterpartySnapshot}
    (h : call.Replays sha256 rows stored) : call.Repeated rows := by
  obtain ⟨key, record, hkey, hrecord, _, hanswered, _⟩ := h.answered
  exact ⟨key, record, hkey, hrecord, hanswered⟩

theorem not_repeated_of_keeps {monitor : CounterpartyMonitor}
    {stored : CounterpartySnapshot} {writes : ObservationCall.Writes}
    (hkeeps : call.Keeps sha256 uuid5 rows monitor stored writes) :
    ¬ call.Repeated rows := by
  rintro ⟨key, record, hkey, hrecord, hanswered⟩
  rcases hkeeps.reserves.fresh key hkey with hnone | ⟨found, hfound, hpending⟩
  · rw [hrecord] at hnone
    cases hnone
  · obtain rfl := Option.some.inj (hrecord.symm.trans hfound)
    rw [hpending, PyText.startsWith_append] at hanswered
    cases hanswered

/-- What an accepted observation does to the rows. -/
theorem Observed.after_eq (h : Observed sha256 uuid5 monitorId rows call) :
    (call.after sha256 uuid5 rows = rows ∧ call.Repeated rows) ∨
      ∃ monitor stored writes, call.after sha256 uuid5 rows =
          ObservationCall.Writes.all writes call monitor stored ++ rows ∧
        call.Keeps sha256 uuid5 rows monitor stored writes := by
  obtain ⟨stored, rows', haccepted⟩ := accepts_eq_true.mp h.accepted
  have hafter : call.after sha256 uuid5 rows = rows' := by
    simp only [ObservationCall.after, haccepted]
  rw [hafter]
  rcases ObservationCall.record_atomically haccepted with ⟨rfl, hreplays⟩ |
    ⟨monitor, writes, rfl, hkeeps⟩
  · exact Or.inl ⟨rfl, repeated_of_replays hreplays⟩
  · exact Or.inr ⟨monitor, stored, writes, rfl, hkeeps⟩

theorem Consistent.after (hconsistent : Consistent uuid5 monitorId rows)
    (hobserved : Observed sha256 uuid5 monitorId rows call) :
    Consistent uuid5 monitorId (call.after sha256 uuid5 rows) := by
  obtain rfl := hobserved.monitor
  rcases hobserved.after_eq with ⟨hsame, _⟩ | ⟨monitor, stored, writes, hkept, hkeeps⟩
  · rwa [hsame]
  · rw [hkept]
    exact hconsistent.keep hkeeps hobserved.fresh

theorem faithful_after_iff (hconsistent : Consistent uuid5 monitorId rows)
    (hfaithful : Faithful rows monitorId)
    (hobserved : Observed sha256 uuid5 monitorId rows call) :
    Faithful (call.after sha256 uuid5 rows) monitorId ↔ Current rows call := by
  obtain rfl := hobserved.monitor
  rcases hobserved.after_eq with ⟨hsame, hrepeated⟩ |
    ⟨monitor, stored, writes, hkept, hkeeps⟩
  · rw [hsame]
    constructor
    · intro _ hnot
      exact absurd hrepeated hnot
    · intro _
      exact hfaithful
  · rw [hkept, faithful_keep_iff hkeeps hconsistent hobserved.fresh hfaithful]
    constructor
    · intro h _
      exact h
    · intro h
      exact h (not_repeated_of_keeps hkeeps)

/-- The change log of a new monitor stays faithful in every state of a run
exactly when each observation finds the two last snapshots with one payload. -/
theorem faithful_iff_current (hnew : NewMonitor rows monitorId)
    (calls : List ObservationCall)
    (hobserved : Along (fun rows call => call.after sha256 uuid5 rows)
      (Observed sha256 uuid5 monitorId) rows calls) :
    Throughout (fun rows call => call.after sha256 uuid5 rows)
        (fun rows => Faithful rows monitorId) rows calls ↔
      Along (fun rows call => call.after sha256 uuid5 rows) Current rows calls := by
  have hstart : Consistent uuid5 monitorId rows := hnew.consistent
  apply throughout_iff_along (fun hinv hadmits => hinv.after hadmits) ?_ hstart
    hnew.faithful hobserved
  intro rows call hconsistent hfaithful hadmits
  exact faithful_after_iff hconsistent hfaithful hadmits

/-- The ids of the change events, as the outbox tells of them. -/
def mentions (changeId : String) : (Σ key, MonitoringRow key) → Bool
  | ⟨.outboxEvent _, event⟩ => event.payload.contains ("change_id", .text changeId)
  | ⟨.changeEvent other, _⟩ => other == changeId
  | _ => false

theorem fresh_of_unmentioned
    (hnone : (rows.live.any (mentions call.changeId)) = false) : call.Fresh rows := by
  rw [List.any_eq_false] at hnone
  constructor
  · by_contra hsome
    obtain ⟨event, hevent⟩ := Option.ne_none_iff_exists'.mp hsome
    exact hnone _ (Rows.mem_live.mpr hevent) (beq_self_eq_true _)
  · intro eventId event hevent hmem
    exact hnone _ (Rows.mem_live.mpr hevent) (List.contains_iff_mem.mpr hmem)

def sampleMonitor : CounterpartyMonitor where
  monitorId := "monitor-1"
  actorId := "operator-1"
  identifierType := .inn
  identifier := "7707083893"
  status := .active
  frequencySeconds := 86400
  nextCheckAt := 0
  lastCheckedAt := none
  lastSnapshotId := none
  lastErrorCode := none
  lastErrorAt := none
  valid := by decide

def monitoredRows : MonitoringRows := [⟨.monitor "monitor-1", some sampleMonitor⟩]

def sampleObservation (legalStatus : String) (observedAt : Instant) :
    CounterpartyObservation where
  identifierType := .inn
  identifier := "7707083893"
  canonicalName := "Acme"
  taxId := some "7707083893"
  registrationId := none
  legalStatus := some legalStatus
  sourceRef := "https://pb.nalog.ru"
  observedAt := observedAt
  observedOffset := 0
  expiresAt := observedAt
  valid := ⟨by decide, le_refl _⟩

def sampleCall (legalStatus : String) (observedAt : Instant) (changeId : String) :
    ObservationCall where
  monitorId := "monitor-1"
  actorId := "operator-1"
  permissions := [.counterpartyMonitorManage]
  observation := sampleObservation legalStatus observedAt
  correlationId := "correlation-1"
  now := seconds 60
  idempotencyKey := none
  changeId := changeId
  auditId := "audit:" ++ changeId

theorem new_sample : NewMonitor monitoredRows "monitor-1" := by
  constructor
  · exact ⟨sampleMonitor, rfl⟩
  · intro monitor hmonitor
    obtain rfl := Option.some.inj hmonitor
    rfl
  · intro snapshotId snapshot hsnapshot
    simp [snapshotAt, monitoredRows] at hsnapshot
  · exact fun _ _ => rfl
  · exact fun _ _ => rfl
  · rfl
  · rfl

/-- The second observation was made before the first one. -/
def lateCalls : List ObservationCall :=
  [sampleCall "active" 10 "1", sampleCall "liquidated" 5 "2",
    sampleCall "active" 20 "3"]

/-- The third call is compared with the first, and nothing is announced. -/
theorem late_observation_lost : NewMonitor monitoredRows "monitor-1" ∧
    Along (fun rows call => ObservationCall.after id id rows call)
      (fun rows call => (call.record id id).accepts (fun _ => false) rows = true)
      monitoredRows lateCalls ∧
    ¬ Faithful (lateCalls.foldl (fun rows call => call.after id id rows) monitoredRows)
      "monitor-1" :=
  ⟨new_sample, by decide +kernel⟩

/-- The second observation is accepted, and its id is new. -/
theorem second_sample :
    ((sampleCall "liquidated" 20 "2").record id id).accepts (fun _ => false)
        ((sampleCall "active" 10 "1").after id id monitoredRows) = true ∧
      ((sampleCall "active" 10 "1").after id id monitoredRows).live.any
        (mentions "2") = false := by
  decide +kernel

theorem faithful_iff_current_change :
    Throughout (fun rows call => ObservationCall.after id id rows call)
        (fun rows => Faithful rows "monitor-1") monitoredRows
        [sampleCall "active" 10 "1", sampleCall "liquidated" 20 "2"] ↔
      Along (fun rows call => ObservationCall.after id id rows call) Current
        monitoredRows [sampleCall "active" 10 "1", sampleCall "liquidated" 20 "2"] := by
  apply faithful_iff_current new_sample
  exact ⟨⟨rfl, by decide +kernel, fresh_of_unmentioned (by decide +kernel)⟩,
    ⟨rfl, second_sample.1, fresh_of_unmentioned second_sample.2⟩, trivial⟩

end CounterpartyChangeLog

end ShemaPlatform
