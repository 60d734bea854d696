import RatchetingInquiry.Core.State

/-! Canonical fingerprints and fail-closed resolution for owned memory references. -/

namespace RatchetingInquiry

/-- The schema version of every owned record of this release. -/
def ownedSchemaVersion : Nat := 1

section
variable [Fingerprints]

/-- Hash an exact record under a namespace separated by owner, type and schema. -/
def ownedRecordContentFingerprint (owner : MemoryOwner) (recordType : OwnedRecordType) (schemaVersion : Nat)
    (record : OwnedRecord) : String :=
  Fingerprints.digest (.ownedRecord owner recordType schemaVersion record)

def makeOwnedMemoryRef (recordType : OwnedRecordType) (recordId : String) (schemaVersion : Nat)
    (record : OwnedRecord) : OwnedMemoryRef where
  owner := recordOwner recordType
  recordType := recordType
  recordId := recordId
  recordSchemaVersion := schemaVersion
  contentFingerprint := ownedRecordContentFingerprint (recordOwner recordType) recordType schemaVersion record
  owner_declared := rfl

/-- The identity that a record exposes: its id, or the fingerprint of a probe identity. -/
def OwnedRecord.exposedIdentity : OwnedRecord → String
  | .probeEvent record => record.id
  | .lemmaVersion record => record.id
  | .semanticDelta record => record.id
  | .probeIdentity record => record.fingerprint
  | .retentionPackage record => record.id
  | .reacquisitionScaffold record => record.id
  | .recoveryProtocol record => record.id
  | .evidence record => record.id
  | .checkerVerdict record => record.id
  | .warrantDecision record => record.id
  | .effectRequest record => record.id
  | .externalReturn record => record.id
  | .reconstruction record => record.id
  | .predictionSeal record => record.id

def OwnedRecord.recordType : OwnedRecord → OwnedRecordType
  | .probeEvent _ => .probeEvent
  | .lemmaVersion _ => .lemmaVersion
  | .semanticDelta _ => .semanticDelta
  | .probeIdentity _ => .probeIdentity
  | .retentionPackage _ => .retentionPackage
  | .reacquisitionScaffold _ => .reacquisitionScaffold
  | .recoveryProtocol _ => .recoveryProtocol
  | .evidence _ => .evidence
  | .checkerVerdict _ => .checkerVerdict
  | .warrantDecision _ => .warrantDecision
  | .effectRequest _ => .effectRequest
  | .externalReturn _ => .externalReturn
  | .reconstruction _ => .reconstruction
  | .predictionSeal _ => .predictionSeal

def OwnedRecord.key (record : OwnedRecord) : OwnedRecordKey :=
  (recordOwner record.recordType, record.recordType, record.exposedIdentity, ownedSchemaVersion)

/-- Validate exact identity and content without trusting a projection. -/
def validateOwnedMemoryRef (reference : OwnedMemoryRef) (record : OwnedRecord) : Bool × String :=
  if record.exposedIdentity ≠ reference.recordId then
    (false, "owned record identity does not match the reference")
  else if ownedRecordContentFingerprint reference.owner reference.recordType reference.recordSchemaVersion record ≠
      reference.contentFingerprint then
    (false, "owned record content fingerprint does not match the reference")
  else (true, "owned record identity, type, schema, owner, and content match exactly")

/-- Resolve by canonical typed key, then validate the exact content. -/
def resolveOwnedMemoryRef (reference : OwnedMemoryRef) (ownedRecords : List OwnedRecord) : Bool × String :=
  match indexBy OwnedRecord.key ownedRecords reference.key with
  | none => (false, "owned memory reference does not resolve")
  | some record => validateOwnedMemoryRef reference record

end

/-- The exact typed aggregate records addressable by memory packages. Identities are unique within each
owner, so no key has two contents. -/
def ownedMemoryRecords (effects : EffectRecords) (warrants : WarrantRecords) (probes : ProbeRecords)
    (retention : RetentionRecords) : List OwnedRecord :=
  probes.probeObservations.map .probeEvent ++
    warrants.lemmaVersions.map .lemmaVersion ++
    probes.semanticDeltas.map .semanticDelta ++
    probes.admittedProbes.map .probeIdentity ++
    retention.retentionPackages.map .retentionPackage ++
    retention.reacquisitionScaffolds.map .reacquisitionScaffold ++
    retention.recoveryProtocols.map .recoveryProtocol ++
    warrants.evidenceRecords.map .evidence ++
    warrants.checkerVerdicts.map .checkerVerdict ++
    warrants.warrantDecisions.map .warrantDecision ++
    effects.effectRequests.flatMap (fun request =>
      .effectRequest request.request :: request.capturedReturns.map .externalReturn) ++
    probes.reconstructions.map .reconstruction ++
    probes.predictions.map .predictionSeal

/-- Canonical fingerprints for the exact current structural index. -/
def ownedMemoryFingerprints [Fingerprints] (records : List OwnedRecord) : List (OwnedRecordKey × String) :=
  records.map (fun record => (record.key,
    ownedRecordContentFingerprint (recordOwner record.recordType) record.recordType ownedSchemaVersion record))

end RatchetingInquiry
