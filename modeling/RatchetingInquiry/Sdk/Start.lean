import RatchetingInquiry.Sdk.Questions
import RatchetingInquiry.Sdk.Store

/-! The opening of an inquiry: the catalog and the manifest are stored, and one batch starts the inquiry and opens its
first obligation. -/

namespace RatchetingInquiry

instance : JsonModel QuestionProfile :=
  .record (Fields.of QuestionProfile.mk |>.field "id" (·.id) |>.field "version" (·.version)
    |>.field "contract_keys" (·.contractKeys))

/-- The JSON of a catalog. -/
def QuestionCatalog.dump (catalog : QuestionCatalog) : JsonValue := objectOf [
  ("id", .text catalog.id),
  ("version", .text catalog.version),
  ("contracts", JsonModel.dump catalog.contracts),
  ("profiles", JsonModel.dump catalog.profiles)]

namespace RCI

section
variable [Fingerprints] [ByteFacts]

omit [ByteFacts] in
/-- `_scope_from_context`. -/
def scopeFromContext (context : InquiryContext) : Except Failure Scope := do
  require (context.scope.fingerprint = context.scopeFingerprint)
    (.validation "inquiry context scope fingerprint does not match its exact scope")
  return context.scope

/-- `_inquiry_manifest_artifact`. -/
def inquiryManifestArtifact (context : InquiryContext) : SdkProgram ArtifactRef := do
  let catalog ← Client.lift (found ([catalogV03, catalogV04].find? (fun catalog =>
      catalog.digest = context.catalogManifestDigest))
    (.valueError "inquiry context names an unsupported question catalog digest"))
  let catalogRef ← putBytes (canonicalBytes catalog.dump) "application/vnd.rci.question-catalog+json" "utf-8"
  putBytes (canonicalBytes (objectOf [
      ("schema_version", .int 1),
      ("context", JsonModel.dump context),
      ("question_catalog_digest", .text catalog.digest),
      ("question_catalog_artifact", JsonModel.dump catalogRef)]))
    "application/vnd.rci.inquiry-manifest+json" "utf-8"

/-- The obligation that an inquiry is opened with. -/
def initialObligation (inquiryId : String) (context : InquiryContext) : Obligation where
  id := stableId "obl" [inquiryId, "characterize", context.scope.fingerprint, context.consequenceProfileId]
  kind := .characterize
  carrierId := context.consequenceProfileId
  args := [⟨"carrier", .text context.consequenceProfileId⟩]
  scope := context.scope
  bindingRevision := context.scope.bindingRevision
  priorityVector := [100]
  names_unique := List.nodup_singleton "carrier"

/-- The batch that opens an inquiry. -/
def startCommands (inquiryId : String) (context : InquiryContext) (manifest : ArtifactRef) (occurredAt : Timestamp) :
    List DomainCommand := [
  ⟨⟨stableId "evt" [inquiryId, "start", manifest.digest], inquiryId, occurredAt⟩,
    .startInquiry manifest context.warrantPolicyVersion context⟩,
  ⟨⟨stableId "evt" [(initialObligation inquiryId context).id, "opened"], inquiryId, occurredAt⟩,
    .claim (.openObligation (initialObligation inquiryId context))⟩]

variable [Pydantic]

/-- `_start_with_manifest`. -/
def startWithManifest (rci : RCI) (inquiryId : String) (context : InquiryContext) (manifest : ArtifactRef) :
    SdkProgram InquiryState := do
  let _ ← Client.lift (fromCore (scopeFromContext context))
  let occurredAt ← rci.now
  applyBatch inquiryId (startCommands inquiryId context manifest occurredAt)

/-- `RCI.start`. -/
def start (rci : RCI) (inquiryId : String) (context : InquiryContext) : SdkProgram InquiryState := do
  let manifest ← inquiryManifestArtifact context
  rci.startWithManifest inquiryId context manifest

/-- `dispatch`, of one command, and `dispatch_batch`, of several for one inquiry. -/
def dispatch (command : DomainCommand) : SdkProgram InquiryState :=
  applyBatch command.head.inquiryId [command]

end

end RCI

end RatchetingInquiry
