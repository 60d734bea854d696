import RatchetingInquiry.Evaluation.Docker
import RatchetingInquiry.Orchestration.Content
import RatchetingInquiry.Persistence.CanonicalText

/-! Evidence runs as persisted effects: a request is captured into artifacts and published as an attempt plan, the
adapter puts it together again from the bytes of the plan, and what the run returned goes through exact bytes. -/

namespace RatchetingInquiry

section
variable [ByteFacts]

@[ext]
structure EvidenceArtifactInput where
  relativePath : String
  artifact : ArtifactRef
  path_safe : validateRelativePath relativePath = .ok ()

instance : JsonModel EvidenceArtifactInput :=
  .checked (Fields.of (fun (relativePath : String) (artifact : ArtifactRef) =>
      if safe : validateRelativePath relativePath = .ok () then
        some (EvidenceArtifactInput.mk relativePath artifact safe)
      else none)
    |>.field "relative_path" (·.relativePath) |>.field "artifact" (·.artifact))
    (by intro input; exact dif_pos input.path_safe)

/-- `validate_envelope`, behind the bounds of the fields. -/
def validateEnvelope (argv : List String) (inputs : List EvidenceArtifactInput) (maxOutputBytes : Nat) :
    Except Failure Unit := do
  require (inputs.length ≤ 256) (.validation "inputs")
  validateRequest argv [] 1 maxOutputBytes
  require (inputs.map EvidenceArtifactInput.relativePath).Nodup
    (.validation "evidence artifact input paths must be unique")

@[ext]
structure EvidenceEffectEnvelope where
  argv : List String
  inputs : List EvidenceArtifactInput
  maxOutputBytes : Nat
  validated : validateEnvelope argv inputs maxOutputBytes = .ok ()

instance : JsonModel EvidenceEffectEnvelope :=
  .checked (Fields.of (fun (argv : List String) (inputs : List EvidenceArtifactInput) (maxOutputBytes : Nat) =>
      if valid : validateEnvelope argv inputs maxOutputBytes = .ok () then
        some (EvidenceEffectEnvelope.mk argv inputs maxOutputBytes valid)
      else none)
    |>.field "argv" (·.argv) |>.fieldOr "inputs" (·.inputs) [] |>.fieldOr "max_output_bytes" (·.maxOutputBytes) 1048576)
    (by intro envelope; exact dif_pos envelope.validated)

def evidenceAdapterId : String := "docker-evidence"

def evidenceAdapterVersion : String := "1.0.0"

/-- The digest in the pinned image of a backend. -/
def imageDigest (image : String) : String := String.ofList (((pinOf image).map Prod.snd).getD [])

/-- The validation of the identifiers of a record. -/
def validateIdentifiers (identifiers : List String) : Except ExecutorFailure Unit :=
  require (∀ identifier ∈ identifiers, isIdentifier identifier) (.store (.domain (.validation patternMismatch)))

/-- `docker_evidence_route_definition`. -/
def dockerEvidenceRouteDefinition (backend : DockerEvidenceBackend) (command : String) :
    Except ExecutorFailure RouteDefinition := do
  require (command ∈ backend.allowedCommands)
    (.valueError "evidence command is not allowlisted by the Docker backend")
  fromStore (fromCore (validateExecutable command))
  let digest := imageDigest backend.image
  let definitionId := "docker-evidence/" ++ String.ofList (digest.toList.take 16) ++ "/" ++
    String.ofList ((ByteFacts.sha256 (.other command)).toList.take 16)
  validateIdentifiers [definitionId, "docker-image/" ++ digest]
  return {
      definitionId := definitionId
      definitionVersion := "1.0.0"
      backendId := "docker-image/" ++ digest
      adapterId := evidenceAdapterId
      adapterVersion := evidenceAdapterVersion
      endpointOrChannel := some "local-docker-daemon"
      transport := "docker-container"
      transforms_unique := List.nodup_nil }

/-- One captured input in the artifact store. -/
def captureInput (input : CapturedInput) : ArtifactProgram EvidenceArtifactInput := do
  let artifact ← putArtifact input.content "application/octet-stream" "binary"
  return ⟨input.relativePath, artifact, input.path_safe⟩

/-- The inputs one after another. -/
def captureInputs : List CapturedInput → ArtifactProgram (List EvidenceArtifactInput)
  | [] => return []
  | input :: rest => do
    let first ← captureInput input
    let others ← captureInputs rest
    return first :: others

/-- The envelope of captured inputs, which is validated. -/
def buildEnvelope (argv : List String) (inputs : List EvidenceArtifactInput) (maxOutputBytes : Nat) :
    Except ExecutorFailure EvidenceEffectEnvelope :=
  match valid : validateEnvelope argv inputs maxOutputBytes with
  | .ok () => .ok ⟨argv, inputs, maxOutputBytes, valid⟩
  | .error failure => .error (.store (.domain failure))

omit [ByteFacts] in
/-- The JSON of the environment that the backend confines a run to. -/
def environmentJson (backend : DockerEvidenceBackend) : JsonValue := objectOf [
  ("capabilities", objectOf [
    ("cap_drop", .text "ALL"), ("credentials", .bool false), ("docker_socket_in_container", .bool false),
    ("input_mount", .text "read-only-captured-workspace"), ("network", .text "none"), ("output_mount", .bool false),
    ("root_filesystem", .text "read-only"), ("source_mount", .bool false)]),
  ("image", .text backend.image),
  ("resource_bounds", objectOf [
    ("cpus", .text backend.cpuLimit), ("memory", .text backend.memoryLimit), ("pids", .int backend.pidsLimit)])]

/-- The effect request over an envelope that is stored. -/
def evidenceEffectRequest (stepPlan : StepPlan) (requestId : String) (timeoutSeconds : Nat) (inputRef : ArtifactRef) :
    Except ExecutorFailure EffectRequest := do
  validateIdentifiers [requestId, stepPlan.id]
  return {
    id := requestId
    stepPlanId := stepPlan.id
    effectKind := "evaluation.bounded_evidence"
    adapterId := evidenceAdapterId
    inputArtifact := inputRef
    timeoutSeconds := timeoutSeconds }

/-- The route of an attempt, which pins the digest of its request. -/
def evidenceRoute (definition : RouteDefinition) (routeId : String) (definitionRef environmentRef : ArtifactRef)
    (effectRequest : EffectRequest) : Except ExecutorFailure RouteSnapshot := do
  validateIdentifiers [routeId]
  return {
    id := routeId
    definitionId := definition.definitionId
    definitionVersion := definition.definitionVersion
    definitionArtifact := definitionRef
    backendId := definition.backendId
    adapterId := definition.adapterId
    adapterVersion := definition.adapterVersion
    endpointOrChannel := definition.endpointOrChannel
    transport := some definition.transport
    executionEnvironmentArtifact := environmentRef
    requestOrActionDigest := ByteFacts.sha256 (canonicalBytes (JsonModel.dump effectRequest)) }

/-- `prepare_evidence_attempt`. -/
def prepareEvidenceAttempt (request : EvidenceRunRequest) (stepPlan : StepPlan) (requestId attemptId routeId : String)
    (backend : DockerEvidenceBackend) (routes : RouteRegistry) :
    ArtifactProgram (EffectRequest × EffectAttemptPlan) := do
  Client.lift (require (stepPlan.status = .ready ∧ stepPlan.selectedAttemptKey ≠ none)
    (.valueError "an evidence effect requires a content-derived ready step plan"))
  let definition ← Client.lift (dockerEvidenceRouteDefinition backend (request.argv.headD ""))
  let capturedInputs ← captureInputs request.inputs
  let envelope ← Client.lift (buildEnvelope request.argv capturedInputs request.maxOutputBytes)
  let inputRef ← putArtifact (canonicalBytes (JsonModel.dump envelope)) "application/vnd.rci.evidence-request+json"
    "utf-8"
  let effectRequest ← Client.lift (evidenceEffectRequest stepPlan requestId request.timeoutSeconds inputRef)
  let definitionRef ← putArtifact (canonicalBytes definition.dump) "application/vnd.rci.route-definition+json" "utf-8"
  let environmentRef ← putArtifact (canonicalBytes (environmentJson backend))
    "application/vnd.rci.execution-environment+json" "utf-8"
  let route ← Client.lift (evidenceRoute definition routeId definitionRef environmentRef effectRequest)
  let _ ← Client.observe (fun store => routes.validate store effectRequest route)
  Client.lift (validateIdentifiers [attemptId])
  return (effectRequest, ⟨attemptId, requestId, route⟩)

/-- One input of an envelope, read from its artifact. -/
def loadInput (store : ArtifactStore) (input : EvidenceArtifactInput) : Except ExecutorFailure CapturedInput := do
  let content ← fromStore (store.getBytes input.artifact)
  if bounded : ByteFacts.length content ≤ 4194304 then return ⟨input.relativePath, content, input.path_safe, bounded⟩
  else throw (.store (.domain (.validation "content")))

/-- A request, which is validated. -/
def buildRequest (argv : List String) (inputs : List CapturedInput) (timeoutSeconds maxOutputBytes : Nat) :
    Except ExecutorFailure EvidenceRunRequest :=
  match valid : validateRequest argv inputs timeoutSeconds maxOutputBytes with
  | .ok () => .ok ⟨argv, inputs, timeoutSeconds, maxOutputBytes, valid⟩
  | .error failure => .error (.store (.domain failure))

/-- `EvidenceEffectAdapter._request`. -/
def requestOf (store : ArtifactStore) (input : StoredBytes) (timeoutSeconds : Nat) :
    Except ExecutorFailure EvidenceRunRequest := do
  let envelope : EvidenceEffectEnvelope ← found (input.loads.bind JsonModel.validate)
    (.store (.domain (.validation "evidence envelope is malformed")))
  require (∀ item ∈ envelope.inputs, item.artifact.size ≤ 4194304)
    (.valueError "an evidence artifact exceeds the per-input 4 MiB budget")
  require ((envelope.inputs.map (fun item => item.artifact.size)).sum ≤ 16777216)
    (.valueError "evidence artifacts exceed the aggregate 16 MiB budget")
  let inputs ← envelope.inputs.mapM (loadInput store)
  buildRequest envelope.argv inputs timeoutSeconds envelope.maxOutputBytes

/-- One call of `prepare_evidence_attempt`. -/
structure EvidencePreparation where
  request : EvidenceRunRequest
  stepPlan : StepPlan
  requestId : String
  attemptId : String
  routeId : String
  backend : DockerEvidenceBackend
  routes : RouteRegistry

def EvidencePreparation.program (call : EvidencePreparation) : ArtifactProgram (EffectRequest × EffectAttemptPlan) :=
  prepareEvidenceAttempt call.request call.stepPlan call.requestId call.attemptId call.routeId call.backend call.routes

/-! What is captured is what is loaded. -/

/-- An input by the artifact of its content. -/
def CapturedInput.artifactInput (input : CapturedInput) : EvidenceArtifactInput :=
  ⟨input.relativePath, artifactOf input.content "application/octet-stream" "binary", input.path_safe⟩

/-- The contents of the inputs are files of the store. -/
def HoldsInputs (store : ArtifactStore) (inputs : List CapturedInput) : Prop :=
  ∀ input ∈ inputs, store.Holds input.content

theorem HoldsInputs.stable (inputs : List CapturedInput) :
    Client.Stable ArtifactStore.Writes (fun store => HoldsInputs store inputs) :=
  ArtifactStore.stable_of_grows (fun _ _ grows held input member => grows.holds (held input member))

theorem validateRequest_eq_ok {argv : List String} {inputs : List CapturedInput} {timeoutSeconds maxOutputBytes : Nat} :
    validateRequest argv inputs timeoutSeconds maxOutputBytes = .ok () ↔
      (1 ≤ argv.length ∧ argv.length ≤ 128 ∧ ∀ item ∈ argv, 1 ≤ item.length ∧ item.length ≤ 4096) ∧
      inputs.length ≤ 256 ∧ (1 ≤ timeoutSeconds ∧ timeoutSeconds ≤ 300) ∧
      (1 ≤ maxOutputBytes ∧ maxOutputBytes ≤ 16777216) ∧ (∀ item ∈ argv, '\x00' ∉ item.toList) ∧
      (argv.map String.utf8ByteSize).sum ≤ 65536 ∧
      (inputs.map (fun item => ByteFacts.length item.content)).sum ≤ 16777216 ∧
      (inputs.map CapturedInput.relativePath).Nodup := by
  unfold validateRequest
  simp only [require_bind_eq_ok, require_eq_ok]

/-- The envelope of a request's captured inputs is valid. -/
theorem validateEnvelope_captured (request : EvidenceRunRequest) :
    validateEnvelope request.argv (request.inputs.map CapturedInput.artifactInput) request.maxOutputBytes = .ok () := by
  obtain ⟨argv, inputs, -, output, plain, size, -, distinct⟩ := validateRequest_eq_ok.mp request.validated
  have alone : validateRequest request.argv [] 1 request.maxOutputBytes = .ok () :=
    validateRequest_eq_ok.mpr ⟨argv, Nat.zero_le _, ⟨Nat.le_refl 1, by omega⟩, output, plain, size, Nat.zero_le _,
      List.nodup_nil⟩
  have paths : (request.inputs.map CapturedInput.artifactInput).map EvidenceArtifactInput.relativePath =
      request.inputs.map CapturedInput.relativePath := by
    rw [List.map_map]
    rfl
  unfold validateEnvelope
  rw [require_bind_eq_ok, unit_bind_eq_ok, require_eq_ok, List.length_map, paths]
  exact ⟨inputs, alone, distinct⟩

def EvidenceRunRequest.envelope (request : EvidenceRunRequest) : EvidenceEffectEnvelope :=
  ⟨request.argv, request.inputs.map CapturedInput.artifactInput, request.maxOutputBytes,
    validateEnvelope_captured request⟩

theorem buildEnvelope_captured (request : EvidenceRunRequest) :
    buildEnvelope request.argv (request.inputs.map CapturedInput.artifactInput) request.maxOutputBytes =
      .ok request.envelope := by
  unfold buildEnvelope
  split
  next => rfl
  next failed =>
    rw [validateEnvelope_captured] at failed
    cases failed

theorem buildRequest_validated (request : EvidenceRunRequest) :
    buildRequest request.argv request.inputs request.timeoutSeconds request.maxOutputBytes = .ok request := by
  unfold buildRequest
  split
  next => rfl
  next failed =>
    rw [request.validated] at failed
    cases failed

theorem loadInput_artifactInput {store : ArtifactStore} {input : CapturedInput} (held : store.Holds input.content) :
    loadInput store input.artifactInput = .ok input := by
  have read : store.getBytes input.artifactInput.artifact = .ok input.content :=
    ArtifactStore.getBytes_artifactOf held
  unfold loadInput
  rw [read]
  exact dif_pos input.content_bounded

theorem mapM_loadInput {store : ArtifactStore} {inputs : List CapturedInput} (held : HoldsInputs store inputs) :
    (inputs.map CapturedInput.artifactInput).mapM (loadInput store) = .ok inputs := by
  induction inputs with
  | nil => rfl
  | cons input rest ih =>
    rw [List.map_cons, List.mapM_cons, loadInput_artifactInput (held input List.mem_cons_self)]
    have later := ih (fun other member => held other (List.mem_cons_of_mem _ member))
    simp only [bind, Except.bind] at later ⊢
    rw [later]
    rfl

/-- The adapter puts the request together again from the bytes of its envelope. -/
theorem requestOf_envelope {store : ArtifactStore} (request : EvidenceRunRequest)
    (held : HoldsInputs store request.inputs) :
    requestOf store (canonicalBytes (JsonModel.dump request.envelope)) request.timeoutSeconds = .ok request := by
  obtain ⟨-, -, -, -, -, -, total, -⟩ := validateRequest_eq_ok.mp request.validated
  have each : ∀ item ∈ request.envelope.inputs, item.artifact.size ≤ 4194304 := by
    intro item member
    obtain ⟨input, -, rfl⟩ := List.mem_map.mp member
    exact input.content_bounded
  have sizes : request.envelope.inputs.map (fun item => item.artifact.size) =
      request.inputs.map (fun item => ByteFacts.length item.content) := by
    change (request.inputs.map CapturedInput.artifactInput).map _ = _
    rw [List.map_map]
    rfl
  have loaded : (canonicalBytes (JsonModel.dump request.envelope)).loads.bind JsonModel.validate =
      some request.envelope := JsonModel.validate_dump request.envelope
  unfold requestOf
  rw [found_bind_eq_ok]
  refine ⟨request.envelope, loaded, ?_⟩
  rw [require_bind_eq_ok, require_bind_eq_ok, sizes]
  refine ⟨each, total, ?_⟩
  rw [bind_eq_ok]
  exact ⟨request.inputs, mapM_loadInput held, buildRequest_validated request⟩

section
variable {pre : ArtifactStore → Prop} {sure : Prop}

theorem captureInput_keeps (apart : Function.Injective ByteFacts.sha256)
    (stays : Client.Stable ArtifactStore.Writes pre) (consistent : sure → ∀ store, pre store → store.Consistent)
    (input : CapturedInput) :
    (captureInput input).Keeps ArtifactStore.Writes (Client.Ends sure (fun captured store =>
      captured = input.artifactInput ∧ store.Holds input.content ∧ pre store)) pre := by
  apply Client.ends_bind_only _ (putArtifact_keeps apart stays consistent input.content _ _)
  exact Client.ends_pure (fun store given => ⟨rfl, given⟩)

theorem captureInputs_keeps (apart : Function.Injective ByteFacts.sha256)
    (stays : Client.Stable ArtifactStore.Writes pre) (consistent : sure → ∀ store, pre store → store.Consistent)
    (inputs : List CapturedInput) :
    (captureInputs inputs).Keeps ArtifactStore.Writes (Client.Ends sure (fun captured store =>
      captured = inputs.map CapturedInput.artifactInput ∧ HoldsInputs store inputs ∧ pre store)) pre := by
  induction inputs generalizing pre with
  | nil => exact Client.ends_pure (fun store given => ⟨rfl, List.forall_mem_nil _, given⟩)
  | cons input rest ih =>
    apply Client.ends_bind_only _ (captureInput_keeps apart stays consistent input)
    apply Client.ends_bind_only _ (ih ((ArtifactStore.stable_holds _).and stays)
      (fun settled store given => consistent settled store given.2))
    apply Client.ends_pure
    intro store given
    obtain ⟨heldRest, heldFirst, kept⟩ := given
    exact ⟨rfl, List.forall_mem_cons.mpr ⟨heldFirst, heldRest⟩, kept⟩

end

/-- A route that was accepted is accepted of every store that has grown from that. -/
theorem RouteRegistry.validate_grows {routes : RouteRegistry} {store next : ArtifactStore} {request : EffectRequest}
    {snapshot : RouteSnapshot} {definition : RouteDefinition} (grows : store.Grows next)
    (accepted : routes.validate store request snapshot = .ok definition) :
    routes.validate next request snapshot = .ok definition := by
  unfold RouteRegistry.validate at accepted ⊢
  rw [found_bind_eq_ok] at accepted ⊢
  obtain ⟨listed, known, accepted⟩ := accepted
  refine ⟨listed, known, ?_⟩
  rw [bind_eq_ok] at accepted ⊢
  obtain ⟨actual, read, accepted⟩ := accepted
  refine ⟨actual, fromStore_eq_ok.mpr (grows.getBytes (fromStore_eq_ok.mp read)), ?_⟩
  rw [require_bind_eq_ok] at accepted ⊢
  refine ⟨accepted.1, ?_⟩
  have checked := accepted.2
  split at checked
  next => cases checked
  next exact_ =>
    rw [require_bind_eq_ok, bind_eq_ok] at checked ⊢
    obtain ⟨pinned, environment, found, ordered⟩ := checked
    exact ⟨pinned, environment, fromStore_eq_ok.mpr (grows.getBytes (fromStore_eq_ok.mp found)), ordered⟩

/-- What a preparation that returned has published: the adapter gets the request of the call back from the bytes that
the effect request names, and the route is accepted. -/
structure EvidencePreparation.Replayable (call : EvidencePreparation) (store : ArtifactStore)
    (published : EffectRequest × EffectAttemptPlan) : Prop where
  ready : call.stepPlan.status = .ready ∧ call.stepPlan.selectedAttemptKey ≠ none
  planned : published.1.id = call.requestId ∧ published.1.stepPlanId = call.stepPlan.id ∧
    published.2.id = call.attemptId ∧ published.2.requestId = call.requestId ∧ published.2.route.id = call.routeId
  replayed : ∃ input, store.getBytes published.1.inputArtifact = .ok input ∧
    requestOf store input published.1.timeoutSeconds = .ok call.request
  routed : ∃ definition, call.routes.validate store published.1 published.2.route = .ok definition

/-- The call passes the checks that no artifact decides: its plan is ready, the names that it was given are identifiers,
as that of a plan is, and the definition of its route is registered. -/
structure EvidencePreparation.Admitted (call : EvidencePreparation) : Prop where
  ready : call.stepPlan.status = .ready ∧ call.stepPlan.selectedAttemptKey ≠ none
  identified : ∀ identifier ∈ [call.requestId, call.stepPlan.id, call.routeId, call.attemptId], isIdentifier identifier
  registered : ∃ definition ∈ call.routes.definitions,
    dockerEvidenceRouteDefinition call.backend (call.request.argv.headD "") = .ok definition

theorem dockerEvidenceRouteDefinition_plain {backend : DockerEvidenceBackend} {command : String}
    {definition : RouteDefinition} (made : dockerEvidenceRouteDefinition backend command = .ok definition) :
    definition.transforms = [] := by
  unfold dockerEvidenceRouteDefinition at made
  rw [require_bind_eq_ok, unit_bind_eq_ok] at made
  dsimp only at made
  rw [unit_bind_eq_ok] at made
  obtain ⟨-, -, -, made⟩ := made
  rw [← Except.ok.inj made]

/-- The route of a definition that the registry has is accepted where its artifacts are. -/
theorem validate_evidenceRoute {routes : RouteRegistry} {store : ArtifactStore} {definition : RouteDefinition}
    {routeId : String} {environment : StoredBytes} {effectRequest : EffectRequest} {route : RouteSnapshot}
    (registered : definition ∈ routes.definitions) (plain : definition.transforms = [])
    (defined : store.Holds (canonicalBytes definition.dump)) (surrounded : store.Holds environment)
    (pinned : evidenceRoute definition routeId
      (artifactOf (canonicalBytes definition.dump) "application/vnd.rci.route-definition+json" "utf-8")
      (artifactOf environment "application/vnd.rci.execution-environment+json" "utf-8") effectRequest = .ok route) :
    routes.validate store effectRequest route = .ok definition := by
  have listed := find_of_mem routes.keys_unique registered
  unfold evidenceRoute at pinned
  rw [unit_bind_eq_ok] at pinned
  obtain rfl := Except.ok.inj pinned.2
  unfold RouteRegistry.validate
  rw [found_bind_eq_ok]
  refine ⟨definition, listed, ?_⟩
  rw [bind_eq_ok]
  refine ⟨_, fromStore_eq_ok.mpr (ArtifactStore.getBytes_artifactOf defined), ?_⟩
  rw [require_bind_eq_ok]
  refine ⟨rfl, ?_⟩
  have agrees : ∀ snapshot : RouteSnapshot, snapshot.backendId = definition.backendId →
      snapshot.adapterId = definition.adapterId → snapshot.adapterVersion = definition.adapterVersion →
      snapshot.endpointOrChannel = definition.endpointOrChannel → snapshot.transport = some definition.transport →
      definition.mismatch snapshot = none := by
    intro snapshot backend adapter version channel transport
    simp [RouteDefinition.mismatch, backend, adapter, version, channel, transport]
  rw [agrees _ rfl rfl rfl rfl rfl]
  dsimp only
  rw [require_bind_eq_ok, bind_eq_ok]
  refine ⟨rfl, _, fromStore_eq_ok.mpr (ArtifactStore.getBytes_artifactOf surrounded), ?_⟩
  rw [require_bind_eq_ok, plain]
  exact ⟨rfl, rfl⟩

theorem EvidencePreparation.keeps (apart : Function.Injective ByteFacts.sha256) (call : EvidencePreparation)
    (origin : ArtifactStore) :
    call.program.Keeps ArtifactStore.Writes
      (Client.Ends (call.Admitted ∧ origin.Consistent) (fun published store => call.Replayable store published))
      (Relation.ReflTransGen ArtifactStore.Writes origin) := by
  let Ready : Prop := call.stepPlan.status = .ready ∧ call.stepPlan.selectedAttemptKey ≠ none
  let Base : ArtifactStore → Prop := fun store => Ready ∧ Relation.ReflTransGen ArtifactStore.Writes origin store
  have stays : Client.Stable ArtifactStore.Writes Base := fun _ _ writes given => ⟨given.1, given.2.tail writes⟩
  have sound : call.Admitted ∧ origin.Consistent → ∀ store, Base store → store.Consistent :=
    fun settled store given => ArtifactStore.stable_consistent.run given.2 settled.2
  have valid : call.Admitted ∧ origin.Consistent → ∀ identifiers,
      identifiers ⊆ [call.requestId, call.stepPlan.id, call.routeId, call.attemptId] →
      validateIdentifiers identifiers = .ok () :=
    fun settled identifiers listed => require_eq_ok.mpr fun one member => settled.1.identified one (listed member)
  unfold EvidencePreparation.program prepareEvidenceAttempt
  apply Client.ends_bind (fun _ => Base)
  · apply Client.ends_lift
    · exact fun _ required store given => ⟨require_eq_ok.mp required, given⟩
    · exact fun settled => ⟨(), require_eq_ok.mpr settled.1.ready⟩
  intro _
  apply Client.ends_bind (fun definition store =>
    dockerEvidenceRouteDefinition call.backend (call.request.argv.headD "") = .ok definition ∧ Base store)
  · apply Client.ends_lift
    · exact fun definition made store given => ⟨made, given⟩
    · intro settled
      obtain ⟨definition, -, made⟩ := settled.1.registered
      exact ⟨definition, made⟩
  intro definition
  let Made : ArtifactStore → Prop := fun store =>
    dockerEvidenceRouteDefinition call.backend (call.request.argv.headD "") = .ok definition ∧ Base store
  have made : Client.Stable ArtifactStore.Writes Made := fun _ _ writes given => ⟨given.1, stays _ _ writes given.2⟩
  apply Client.ends_bind_only _ (captureInputs_keeps apart made
    (fun settled store given => sound settled store given.2) call.request.inputs)
  have captured := (HoldsInputs.stable call.request.inputs).and made
  rw [buildEnvelope_captured]
  apply Client.ends_bind_only call.request.envelope
  · exact Client.ends_lift (fun envelope same store given => ⟨(Except.ok.inj same).symm, given⟩) (fun _ => ⟨_, rfl⟩)
  let envelopeBytes := canonicalBytes (JsonModel.dump call.request.envelope)
  let environmentBytes := canonicalBytes (environmentJson call.backend)
  apply Client.ends_bind_only _ (putArtifact_keeps apart captured
    (fun settled store given => sound settled store given.2.2) envelopeBytes _ _)
  generalize asked : evidenceEffectRequest call.stepPlan call.requestId call.request.timeoutSeconds _ = building
  apply Client.ends_bind (fun effectRequest store => building = .ok effectRequest ∧ store.Holds envelopeBytes ∧
    HoldsInputs store call.request.inputs ∧ Made store)
  · apply Client.ends_lift
    · exact fun effectRequest built store given => ⟨built, given⟩
    · intro settled
      rw [← asked]
      exact ⟨_, unit_bind_eq_ok.mpr ⟨valid settled _ (by simp), rfl⟩⟩
  intro effectRequest
  let Asked : ArtifactStore → Prop := fun store => building = .ok effectRequest ∧ store.Holds envelopeBytes ∧
    HoldsInputs store call.request.inputs ∧ Made store
  have enveloped : Client.Stable ArtifactStore.Writes Asked := fun _ _ writes given =>
    ⟨given.1, ((ArtifactStore.stable_holds envelopeBytes).and captured) _ _ writes given.2⟩
  have defined := (ArtifactStore.stable_holds (canonicalBytes definition.dump)).and enveloped
  have surrounded := (ArtifactStore.stable_holds environmentBytes).and defined
  apply Client.ends_bind_only _ (putArtifact_keeps apart enveloped
    (fun settled store given => sound settled store given.2.2.2.2) (canonicalBytes definition.dump) _ _)
  apply Client.ends_bind_only _ (putArtifact_keeps apart defined
    (fun settled store given => sound settled store given.2.2.2.2.2) environmentBytes _ _)
  generalize pinned : evidenceRoute definition call.routeId _ _ effectRequest = routing
  apply Client.ends_bind (fun route store => routing = .ok route ∧ store.Holds environmentBytes ∧
    store.Holds (canonicalBytes definition.dump) ∧ Asked store)
  · apply Client.ends_lift
    · exact fun route built store given => ⟨built, given⟩
    · intro settled
      rw [← pinned]
      exact ⟨_, unit_bind_eq_ok.mpr ⟨valid settled _ (by simp), rfl⟩⟩
  intro route
  apply Client.ends_bind (fun accepted store => (routing = .ok route ∧ store.Holds environmentBytes ∧
    store.Holds (canonicalBytes definition.dump) ∧ Asked store) ∧
    call.routes.validate store effectRequest route = .ok accepted)
  · apply Client.ends_observe
    · intro accepted
      apply Client.Stable.and
      · exact fun _ _ writes given => ⟨given.1, surrounded _ _ writes given.2⟩
      · exact ArtifactStore.stable_of_grows (fun _ _ grows found => RouteRegistry.validate_grows grows found)
    · exact fun store given accepted found => ⟨given, found⟩
    · intro settled store given
      obtain ⟨routed, environment, published, -, -, -, ours, -⟩ := given
      obtain ⟨registered, member, theirs⟩ := settled.1.registered
      obtain rfl := Except.ok.inj (theirs.symm.trans ours)
      exact ⟨registered, validate_evidenceRoute member (dockerEvidenceRouteDefinition_plain ours) published environment
        (pinned.trans routed)⟩
  intro accepted
  apply Client.ends_bind (fun _ store => (routing = .ok route ∧ store.Holds environmentBytes ∧
    store.Holds (canonicalBytes definition.dump) ∧ Asked store) ∧
    call.routes.validate store effectRequest route = .ok accepted)
  · exact Client.ends_lift (fun _ _ store given => given) (fun settled => ⟨(), valid settled _ (by simp)⟩)
  intro _
  apply Client.ends_pure
  intro store given
  obtain ⟨⟨routed, -, -, requested, held, inputs, -, ready, -⟩, validated⟩ := given
  obtain ⟨-, requestMade⟩ := unit_bind_eq_ok.mp (asked.trans requested)
  obtain ⟨-, routeMade⟩ := unit_bind_eq_ok.mp (pinned.trans routed)
  obtain rfl := Except.ok.inj requestMade
  obtain rfl := Except.ok.inj routeMade
  exact {
    ready := ready
    planned := ⟨rfl, rfl, rfl, rfl, rfl⟩
    replayed := ⟨envelopeBytes, ArtifactStore.getBytes_artifactOf held, requestOf_envelope call.request inputs⟩
    routed := ⟨accepted, validated⟩ }

/-- Preparations that share an artifact store, in any interleaving of their writes: nothing that the store held is lost,
what each that returned has published can be replayed from the store that all of them leave, and where files are named
by their digests every admitted preparation that has ended has returned. -/
theorem preparations_replayable (apart : Function.Injective ByteFacts.sha256) {calls : List EvidencePreparation}
    {store last : ArtifactStore} {rest : List (ArtifactProgram (EffectRequest × EffectAttemptPlan))}
    (run : Relation.ReflTransGen Client.Turn (store, calls.map EvidencePreparation.program) (last, rest)) :
    store.Grows last ∧
    (∀ (place : Nat) (call : EvidencePreparation) (published : EffectRequest × EffectAttemptPlan),
      calls[place]? = some call → rest[place]? = some (Client.done (.ok published)) → call.Replayable last published) ∧
    (store.Consistent → ∀ (place : Nat) (call : EvidencePreparation)
        (outcome : Except ExecutorFailure (EffectRequest × EffectAttemptPlan)),
      calls[place]? = some call → rest[place]? = some (Client.done outcome) → call.Admitted →
        ∃ published, outcome = .ok published) := by
  have specified : Client.Specified ArtifactStore.Writes store
      (calls.map (fun call =>
        Client.Ends (call.Admitted ∧ store.Consistent) (fun published store => call.Replayable store published)))
      (calls.map EvidencePreparation.program) := by
    unfold Client.Specified
    rw [List.forall₂_map_left_iff, List.forall₂_map_right_iff, List.forall₂_same]
    exact fun call member => call.keeps apart store
  obtain ⟨written, kept⟩ := specified.turns run
  have ends : ∀ (place : Nat) (call : EvidencePreparation)
      (outcome : Except ExecutorFailure (EffectRequest × EffectAttemptPlan)), calls[place]? = some call →
      rest[place]? = some (Client.done outcome) →
      Client.Ends (call.Admitted ∧ store.Consistent) (fun published store => call.Replayable store published) outcome
        last := by
    intro place call outcome started ended
    obtain ⟨post, listed, holds⟩ := kept.ended ended
    rw [List.getElem?_map, started] at listed
    obtain rfl := Option.some.inj listed
    exact holds
  refine ⟨?_, ?_, ?_⟩
  · have stays : Client.Stable ArtifactStore.Grows (fun later => store.Grows later) :=
      fun _ _ grows given digest data file => grows _ _ (given _ _ file)
    exact (ArtifactStore.stable_of_grows stays).run written (ArtifactStore.Grows.refl store)
  · exact fun place call published started ended => (ends place call _ started ended).1 published rfl
  · exact fun consistent place call outcome started ended admitted =>
      (ends place call outcome started ended).2 ⟨admitted, consistent⟩

end

namespace WorkedApart

theorem readyPlan_selects : (PlanStatus.ready = .ready) = ((some "obligation").isSome = true) := by simp

theorem readyPlan_selected :
    (some "obligation").isSome = (some (⟨"question", "contract", "1", "binding"⟩ : AttemptKey)).isSome := rfl

def readyPlan : StepPlan where
  id := "plan"
  inputFingerprint := "input"
  policyVersion := "scheduler"
  status := .ready
  selectedObligationId := some "obligation"
  selectedAttemptKey := some ⟨"question", "contract", "1", "binding"⟩
  reason := .deterministicPriority
  remainingBudget := 1
  ready_selects := readyPlan_selects
  selected_together := readyPlan_selected

def solverImage : String := "z3@sha256:9f86d081884c7d659a2feaa0c55ad015a3bf4f1b2b0b822cd15d6c15b0f00a08"

/-- What the calls ask of the solver. -/
def script (name : String) : String := if name = "a" then "(check-sat)" else "(exit)"

theorem solver_checked : validateRelativePath "problem.smt2" = .ok () ∧ validateImage solverImage = .ok () ∧
    (∀ command ∈ ["z3"], validateExecutable command = .ok ()) ∧
    (∀ content ∈ ["(check-sat)", "(exit)"], ByteFacts.length (.other content) ≤ 4194304) ∧
    ∀ name ∈ ["a", "b"], ∀ identifier ∈ ["request-" ++ name, "plan", "route-" ++ name, "attempt-" ++ name],
      isIdentifier identifier := by
  decide +kernel

theorem problem_bounded (name : String) : ByteFacts.length (.other (script name)) ≤ 4194304 := by
  unfold script
  split
  next => exact solver_checked.2.2.2.1 _ (by simp)
  next => exact solver_checked.2.2.2.1 _ (by simp)

def problem (name : String) : CapturedInput :=
  ⟨"problem.smt2", .other (script name), solver_checked.1, problem_bounded name⟩

theorem solverRun_valid (name : String) :
    validateRequest ["z3", "problem.smt2"] [problem name] 10 4096 = .ok () := by
  rw [validateRequest_eq_ok]
  refine ⟨by decide, Nat.le_of_ble_eq_true rfl, by decide, by decide, by decide, by decide, ?_, List.nodup_singleton _⟩
  have bounded := problem_bounded name
  simp only [List.map_cons, List.map_nil, List.sum_cons, List.sum_nil, problem]
  omega

def solverRun (name : String) : EvidenceRunRequest :=
  ⟨["z3", "problem.smt2"], [problem name], 10, 4096, solverRun_valid name⟩

theorem solver_named : ["z3"] ≠ [] ∧ "" ∉ ["z3"] := by decide

def solverBackend : DockerEvidenceBackend where
  image := solverImage
  allowedCommands := ["z3"]
  image_pinned := solver_checked.2.1
  commands_named := solver_named
  commands_validated := solver_checked.2.2.1
  pids_positive := Nat.le_of_ble_eq_true rfl

def solverDefinition : RouteDefinition where
  definitionId := "docker-evidence/9f86d081884c7d65/o3z"
  definitionVersion := "1.0.0"
  backendId := "docker-image/9f86d081884c7d659a2feaa0c55ad015a3bf4f1b2b0b822cd15d6c15b0f00a08"
  adapterId := "docker-evidence"
  adapterVersion := "1.0.0"
  endpointOrChannel := some "local-docker-daemon"
  transport := "docker-container"
  transforms_unique := List.nodup_nil

def solverRoutes : RouteRegistry := ⟨[solverDefinition], List.nodup_singleton _, List.cons_ne_nil _ _⟩

def solverCall (name : String) : EvidencePreparation :=
  ⟨solverRun name, readyPlan, "request-" ++ name, "attempt-" ++ name, "route-" ++ name, solverBackend, solverRoutes⟩

theorem solver_defined : dockerEvidenceRouteDefinition solverBackend "z3" = .ok solverDefinition := by decide +kernel

theorem solverCall_admitted {name : String} (named : name ∈ ["a", "b"]) : (solverCall name).Admitted where
  ready := ⟨rfl, Option.some_ne_none _⟩
  identified := solver_checked.2.2.2.2 name named
  registered := ⟨solverDefinition, List.mem_singleton_self _, solver_defined⟩

/-- Two preparations that share the empty store both return, and both can be replayed. -/
theorem solverCalls_replayable : ∃ last first second,
    (solverCall "a").Replayable last first ∧ (solverCall "b").Replayable last second := by
  have one := Client.finishes (solverCall "a").program ⟨fun _ => none⟩ [] [(solverCall "b").program]
  have two := Client.finishes (solverCall "b").program ((solverCall "a").program.run ⟨fun _ => none⟩).2
    [.done ((solverCall "a").program.run ⟨fun _ => none⟩).1] []
  have run : Relation.ReflTransGen Client.Turn
      (⟨fun _ => none⟩, [solverCall "a", solverCall "b"].map EvidencePreparation.program) _ := one.trans two
  obtain ⟨-, replayable, returns⟩ := preparations_replayable Worked.exactDigest_injective run
  have consistent : (⟨fun _ => none⟩ : ArtifactStore).Consistent := fun _ _ file => nomatch file
  obtain ⟨first, returned⟩ := returns consistent 0 _ _ rfl rfl (solverCall_admitted (List.mem_cons_self ..))
  obtain ⟨second, alsoReturned⟩ := returns consistent 1 _ _ rfl rfl
    (solverCall_admitted (List.mem_cons_of_mem _ (List.mem_cons_self ..)))
  exact ⟨_, first, second, replayable 0 _ first rfl (by rw [← returned]; rfl),
    replayable 1 _ second rfl (by rw [← alsoReturned]; rfl)⟩

end WorkedApart

end RatchetingInquiry
