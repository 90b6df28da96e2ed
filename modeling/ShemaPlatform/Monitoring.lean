/-
Counterparty monitoring: monitors, what a provider observes, the snapshots
kept of it, and the changes from one snapshot to another.
-/
import Mathlib.Data.Fintype.Pi
import ShemaPlatform.Foundation
import ShemaPlatform.JsonText
import ShemaPlatform.PatchLog
import ShemaPlatform.PyValueText

namespace ShemaPlatform

open Calendar

inductive CounterpartyIdentifierType where
  | inn | ogrn | ogrnip
deriving DecidableEq, Repr

inductive MonitoringStatus where
  | active | paused
deriving DecidableEq, Repr

inductive ChangeSeverity where
  | info | attention | high | critical
deriving DecidableEq, Repr

def ChangeSeverity.value : ChangeSeverity → String
  | .info => "INFO"
  | .attention => "ATTENTION"
  | .high => "HIGH"
  | .critical => "CRITICAL"

/-- A row of `counterparty_monitor`. -/
structure CounterpartyMonitor where
  monitorId : String
  actorId : String
  identifierType : CounterpartyIdentifierType
  identifier : String
  status : MonitoringStatus
  frequencySeconds : ℤ
  nextCheckAt : Instant
  lastCheckedAt : Option Instant
  lastSnapshotId : Option String
  lastErrorCode : Option String
  lastErrorAt : Option Instant
  valid : PyText.blank monitorId = false ∧ PyText.blank actorId = false ∧
    0 < frequencySeconds
deriving DecidableEq

/-- What a provider says of a counterparty; `observedAt` is read on a clock
`observedOffset` minutes ahead of UTC. -/
structure CounterpartyObservation where
  identifierType : CounterpartyIdentifierType
  identifier : String
  canonicalName : String
  taxId : Option String
  registrationId : Option String
  legalStatus : Option String
  sourceRef : String
  observedAt : Instant
  observedOffset : ℤ
  expiresAt : Instant
  valid : PyText.blank sourceRef = false ∧ observedAt ≤ expiresAt

/-- The keys of a snapshot's payload, as `sorted` orders them. -/
inductive PayloadField where
  | canonicalName | legalStatus | registrationId | taxId
deriving DecidableEq, Repr

def PayloadField.key : PayloadField → String
  | .canonicalName => "canonical_name"
  | .legalStatus => "legal_status"
  | .registrationId => "registration_id"
  | .taxId => "tax_id"

def PayloadField.sorted : List PayloadField :=
  [.canonicalName, .legalStatus, .registrationId, .taxId]

theorem PayloadField.mem_sorted (field : PayloadField) : field ∈ sorted := by
  cases field <;> simp [sorted]

instance : Fintype PayloadField :=
  ⟨PayloadField.sorted.toFinset, fun field =>
    List.mem_toFinset.mpr (PayloadField.mem_sorted field)⟩

abbrev SnapshotPayload := PayloadField → String

abbrev ParameterChange := PatchLog.Change PayloadField String

def CounterpartyObservation.payload (observation : CounterpartyObservation) :
    SnapshotPayload
  | .canonicalName => observation.canonicalName
  | .legalStatus => observation.legalStatus.getD ""
  | .registrationId => observation.registrationId.getD ""
  | .taxId => observation.taxId.getD ""

structure CounterpartySnapshot where
  snapshotId : String
  monitorId : String
  observedAt : Instant
  sourceRef : String
  sourceVersion : String
  payload : SnapshotPayload
  payloadHash : String
deriving DecidableEq

/-- A row of `counterparty_change_event`. -/
structure CounterpartyChangeEvent where
  changeId : String
  monitorId : String
  beforeSnapshotId : String
  afterSnapshotId : String
  changedParameters : List ParameterChange
  severity : ChangeSeverity
  sourceRef : String
  freshness : String
  correlationId : String
  notificationId : String
  detectedAt : Instant
deriving DecidableEq

variable (sha256 : String → String)

def snapshotPayloadHash (payload : SnapshotPayload) : String :=
  let fields := PayloadField.sorted.map fun field => String.ofList
    (JsonText.quoteUnicode field.key ++ ':' :: JsonText.quoteUnicode (payload field))
  sha256 ("\x7b" ++ ",".intercalate fields ++ "\x7d")

/-- What `CounterpartySnapshot.__post_init__` accepts. -/
def CounterpartySnapshot.new (snapshot : CounterpartySnapshot) :
    Except Failure CounterpartySnapshot := do
  require (!PyText.blank snapshot.snapshotId && !PyText.blank snapshot.monitorId)
    (.valueError "snapshot identifiers are required")
  require (!PyText.blank snapshot.sourceRef && !PyText.blank snapshot.sourceVersion)
    (.valueError "snapshot provenance is required")
  require (snapshotPayloadHash sha256 snapshot.payload == snapshot.payloadHash)
    (.integrityViolation "counterparty snapshot payload hash mismatch")
  return snapshot

/-- The snapshot an observation would be kept as. -/
def CounterpartyObservation.toSnapshot (observation : CounterpartyObservation)
    (monitorId : String) : CounterpartySnapshot :=
  let payloadHash := snapshotPayloadHash sha256 observation.payload
  let observedAt :=
    PyText.isoformatAt observation.observedOffset observation.observedAt
  { snapshotId := "cps:" ++ sha256 s!"{monitorId}|{observedAt}|{payloadHash}"
    monitorId := monitorId
    observedAt := observation.observedAt
    sourceRef := observation.sourceRef
    sourceVersion := "authoritative-counterparty:v1"
    payload := observation.payload
    payloadHash := payloadHash }

def snapshotFromObservation (monitor : CounterpartyMonitor)
    (observation : CounterpartyObservation) :
    Except Failure CounterpartySnapshot := do
  require (observation.identifierType == monitor.identifierType)
    (.integrityViolation "monitor identifier type does not match observation")
  require (PyText.strip observation.identifier == monitor.identifier)
    (.integrityViolation "monitor identifier does not match observation")
  (observation.toSnapshot sha256 monitor.monitorId).new sha256

section Changes

def changeSeverity (changed : List ParameterChange) : ChangeSeverity :=
  if changed.isEmpty then .info
  else if changed.any fun change => change.field == .legalStatus &&
      ["liquidated", "terminated", "not_registered"].contains
        (String.ofList (change.after.toList.map Char.toLower)) then .critical
  else if changed.any fun change =>
      [PayloadField.taxId, .registrationId].contains change.field then .high
  else if changed.any fun change =>
      [PayloadField.legalStatus, .canonicalName].contains change.field then .attention
  else .info

def detectCounterpartyChanges (before after : CounterpartySnapshot) :
    Except Failure (List ParameterChange × ChangeSeverity) := do
  require (before.monitorId == after.monitorId)
    (.integrityViolation "snapshot monitor mismatch")
  let changed := PatchLog.diff PayloadField.sorted before.payload after.payload
  return (changed, changeSeverity changed)

/-- The JSON text of `changed_parameters`. -/
def changedText (changed : List ParameterChange) : String :=
  (JsonText.Json.dict (changed.map fun change => (change.field.key,
    JsonText.Json.dict [("before", .text change.before),
      ("after", .text change.after)]))).dumps

end Changes

variable {sha256}

theorem CounterpartySnapshot.new_eq_ok {snapshot result : CounterpartySnapshot}
    (h : snapshot.new sha256 = .ok result) : result = snapshot := by
  simp only [new, bind_eq_ok, pure_eq_ok] at h
  obtain ⟨_, _, _, _, _, _, rfl⟩ := h
  rfl

theorem snapshotFromObservation_eq_ok {monitor : CounterpartyMonitor}
    {observation : CounterpartyObservation} {snapshot : CounterpartySnapshot}
    (h : snapshotFromObservation sha256 monitor observation = .ok snapshot) :
    snapshot = observation.toSnapshot sha256 monitor.monitorId := by
  simp only [snapshotFromObservation, bind_eq_ok] at h
  obtain ⟨_, _, _, _, hnew⟩ := h
  exact CounterpartySnapshot.new_eq_ok hnew

theorem detectCounterpartyChanges_eq_ok {before after : CounterpartySnapshot}
    {changed : List ParameterChange} {severity : ChangeSeverity}
    (h : detectCounterpartyChanges before after = .ok (changed, severity)) :
    changed = PatchLog.diff PayloadField.sorted before.payload after.payload := by
  simp only [detectCounterpartyChanges, bind_eq_ok, pure_eq_ok] at h
  obtain ⟨_, _, heq⟩ := h
  exact (congrArg Prod.fst heq).symm

end ShemaPlatform
