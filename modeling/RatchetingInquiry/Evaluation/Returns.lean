import RatchetingInquiry.Evaluation.Effects
import RatchetingInquiry.Library.Base64
import RatchetingInquiry.Serialization.Spelling

/-! What an evidence run returned, as exact bytes: the adapter writes the result of a run with its output in base64, and
reads a bounded summary back from the bytes. The bytes lose nothing of the result. -/

namespace RatchetingInquiry

structure EvidenceRawResult where
  status : EvidenceRunStatus
  exitCode : Option Int
  stdoutBase64 : String
  stderrBase64 : String
  diagnostic : Option String
deriving DecidableEq

/-- A bounded interpretation of a run, with its output by digest and size. -/
structure EvidenceResultSummary where
  executionStatus : EvidenceRunStatus
  exitCode : Option Int
  stdoutDigest : String
  stdoutSize : Nat
  stderrDigest : String
  stderrSize : Nat
  diagnostic : Option String
deriving DecidableEq

instance : JsonModel EvidenceRunStatus :=
  .enum [(.completed, "completed"), (.nonzeroExit, "nonzero_exit"), (.timeout, "timeout"),
    (.outputLimit, "output_limit"), (.unsupported, "unsupported"), (.failed, "failed")]

instance : JsonModel EvidenceRawResult :=
  .record (Fields.of EvidenceRawResult.mk |>.field "status" (·.status) |>.optional "exit_code" (·.exitCode)
    |>.field "stdout_base64" (·.stdoutBase64) |>.field "stderr_base64" (·.stderrBase64)
    |>.optional "diagnostic" (·.diagnostic))

instance : JsonModel EvidenceResultSummary :=
  .record (Fields.of EvidenceResultSummary.mk |>.field "execution_status" (·.executionStatus)
    |>.optional "exit_code" (·.exitCode) |>.field "stdout_digest" (·.stdoutDigest)
    |>.field "stdout_size" (·.stdoutSize) |>.field "stderr_digest" (·.stderrDigest)
    |>.field "stderr_size" (·.stderrSize) |>.optional "diagnostic" (·.diagnostic))

namespace EvidenceEffectAdapter

/-- The record of `_raw_result`. -/
def rawRecord (result : EvidenceRunResult) : EvidenceRawResult where
  status := result.status
  exitCode := result.exitCode
  stdoutBase64 := String.ofList (Base64.encode result.stdout)
  stderrBase64 := String.ofList (Base64.encode result.stderr)
  diagnostic := result.diagnostic

/-- `_raw_result`. -/
def rawResult (result : EvidenceRunResult) : StoredBytes := canonicalBytes (JsonModel.dump (rawRecord result))

/-- `base64.b64decode` with validation, or the name of what it raises. -/
def decodeStream (text : String) : Except String (List UInt8) :=
  if text.toList.all (fun char => char.toNat < 128) then
    match Base64.decode text.toList with
    | some bytes => .ok bytes
    | none => .error "Error"
  else .error "ValueError"

/-- The diagnostic, unless it is missing or empty. -/
def diagnosticOr (diagnostic : Option String) (default : String) : String :=
  match diagnostic with
  | some text => if text = "" then default else text
  | none => default

/-- The summary of a run whose streams have been read. -/
def summaryOf (sha256 : List UInt8 → String) (status : EvidenceRunStatus) (exitCode : Option Int)
    (stdout stderr : List UInt8) (diagnostic : Option String) : EvidenceResultSummary where
  executionStatus := status
  exitCode := exitCode
  stdoutDigest := sha256 stdout
  stdoutSize := stdout.length
  stderrDigest := sha256 stderr
  stderrSize := stderr.length
  diagnostic := diagnostic

/-- A result that carries a diagnostic, which is validated. -/
def diagnosed (build : NonEmptyText → AdapterDecodeResult) (diagnostic : String) : Except Failure AdapterDecodeResult :=
  if bounded : 1 ≤ diagnostic.length ∧ diagnostic.length ≤ 4096 then .ok (build ⟨diagnostic, bounded⟩)
  else .error (.validation "diagnostic")

/-- What the adapter makes of a result whose streams have been read. -/
def interpret (sha256 : List UInt8 → String) (status : EvidenceRunStatus) (exitCode : Option Int)
    (stdout stderr : List UInt8) (diagnostic : Option String) : Except Failure AdapterDecodeResult :=
  if status = .unsupported then diagnosed .unsupported (diagnosticOr diagnostic "evidence runner is unsupported")
  else if status = .failed then diagnosed .failed (diagnosticOr diagnostic "evidence runner failed")
  else .ok (.decoded (canonicalBytes (JsonModel.dump (summaryOf sha256 status exitCode stdout stderr diagnostic)))
    "application/vnd.rci.evidence-summary+json" "utf-8" "evaluation.evidence_result")

/-- The record of raw bytes and its two streams, or the name of what reading them raises. -/
def readRaw (raw : StoredBytes) : Except String (EvidenceRawResult × List UInt8 × List UInt8) := do
  let record : EvidenceRawResult ← found (raw.loads.bind JsonModel.validate) "ValidationError"
  let stdout ← decodeStream record.stdoutBase64
  let stderr ← decodeStream record.stderrBase64
  return (record, stdout, stderr)

/-- `decode_exact`. -/
def decodeExact (sha256 : List UInt8 → String) (raw : StoredBytes) : Except Failure AdapterDecodeResult :=
  match readRaw raw with
  | .error name => diagnosed .malformed ("malformed evidence return: " ++ name)
  | .ok (record, stdout, stderr) => interpret sha256 record.status record.exitCode stdout stderr record.diagnostic

theorem decodeStream_encode (bytes : List UInt8) : decodeStream (String.ofList (Base64.encode bytes)) = .ok bytes := by
  have ascii : (Base64.encode bytes).all (fun char => char.toNat < 128) = true := by
    rw [List.all_eq_true]
    intro char member
    exact decide_eq_true (Base64.encode_ascii bytes char member)
  unfold decodeStream
  rw [String.toList_ofList, if_pos ascii, Base64.decode_encode]

theorem readRaw_rawResult (result : EvidenceRunResult) :
    readRaw (rawResult result) = .ok (rawRecord result, result.stdout, result.stderr) := by
  have read : (rawResult result).loads.bind JsonModel.validate = some (rawRecord result) :=
    JsonModel.validate_dump (rawRecord result)
  unfold readRaw
  rw [found_bind_eq_ok]
  refine ⟨rawRecord result, read, ?_⟩
  have out : decodeStream (rawRecord result).stdoutBase64 = .ok result.stdout := decodeStream_encode result.stdout
  have err : decodeStream (rawRecord result).stderrBase64 = .ok result.stderr := decodeStream_encode result.stderr
  rw [out, err]
  rfl

theorem rawResult_injective : Function.Injective rawResult := by
  intro result other same
  have back := readRaw_rawResult result
  rw [same, readRaw_rawResult other, Except.ok.injEq, Prod.mk.injEq, Prod.mk.injEq] at back
  obtain ⟨record, out, err⟩ := back
  exact EvidenceRunResult.ext (congrArg EvidenceRawResult.status record).symm
    (congrArg EvidenceRawResult.exitCode record).symm out.symm err.symm
    (congrArg EvidenceRawResult.diagnostic record).symm

theorem decodeExact_rawResult (sha256 : List UInt8 → String) (result : EvidenceRunResult) :
    decodeExact sha256 (rawResult result) =
      interpret sha256 result.status result.exitCode result.stdout result.stderr result.diagnostic := by
  unfold decodeExact
  rw [readRaw_rawResult]
  rfl

theorem diagnosed_ne_decoded {build : NonEmptyText → AdapterDecodeResult} {diagnostic : String}
    {decoded : AdapterDecodeResult} (apart : ∀ text, build text ≠ decoded) :
    diagnosed build diagnostic ≠ .ok decoded := by
  unfold diagnosed
  split
  next => exact fun same => apart _ (Except.ok.inj same)
  next => exact nofun

/-- The summary of a run tells its result, where digests tell streams apart. -/
theorem interpret_decoded {sha256 : List UInt8 → String} (apart : Function.Injective sha256)
    {result other : EvidenceRunResult} {semanticBytes : StoredBytes} {mediaType encoding operation : String}
    (decoded : interpret sha256 result.status result.exitCode result.stdout result.stderr result.diagnostic =
      .ok (.decoded semanticBytes mediaType encoding operation))
    (same : interpret sha256 other.status other.exitCode other.stdout other.stderr other.diagnostic =
      .ok (.decoded semanticBytes mediaType encoding operation)) : result = other := by
  unfold interpret at decoded same
  split at decoded
  next => exact absurd decoded (diagnosed_ne_decoded (fun _ => nofun))
  next =>
    split at decoded
    next => exact absurd decoded (diagnosed_ne_decoded (fun _ => nofun))
    next =>
      split at same
      next => exact absurd same (diagnosed_ne_decoded (fun _ => nofun))
      next =>
        split at same
        next => exact absurd same (diagnosed_ne_decoded (fun _ => nofun))
        next =>
          have bytes := (AdapterDecodeResult.decoded.inj (Except.ok.inj (decoded.trans same.symm))).1
          have summaries := (dump_inj _ _).mp (StoredBytes.text.inj bytes).2
          simp only [summaryOf, EvidenceResultSummary.mk.injEq] at summaries
          obtain ⟨status, exitCode, out, -, err, -, diagnostic⟩ := summaries
          exact EvidenceRunResult.ext status exitCode (apart out) (apart err) diagnostic

section
variable [ByteFacts]

/-- `EvidenceRunner.run` in the workspace of a path. -/
def runEvidence (backend : DockerEvidenceBackend) (host : DockerHost) (limits : FileLimits) (root : List FileName)
    (workspace : String) (request : EvidenceRunRequest) : DockerProgram EvidenceRunResult := do
  let _ ← Client.lift (materialize limits root request.inputs)
  backend.execute host request workspace

/-- `perform_exact`, apart from what reading the request raises. -/
def performExact (store : ArtifactStore) (backend : DockerEvidenceBackend) (host : DockerHost) (limits : FileLimits)
    (root : List FileName) (workspace : String) (input : StoredBytes) (timeoutSeconds : Nat) :
    Except ExecutorFailure (DockerProgram StoredBytes) := do
  let request ← requestOf store input timeoutSeconds
  return (do return rawResult (← runEvidence backend host limits root workspace request))

/-- The adapter runs the request that was captured; what the run returned is decoded from its bytes as what it was, and
neither the bytes nor, where digests tell streams apart, a decoded summary belong to any other result. -/
theorem returned_exactly (sha256 : List UInt8 → String) (store : ArtifactStore) (backend : DockerEvidenceBackend)
    (host : DockerHost) (limits : FileLimits) (root : List FileName) (workspace : String) (request : EvidenceRunRequest)
    (held : HoldsInputs store request.inputs) :
    performExact store backend host limits root workspace (canonicalBytes (JsonModel.dump request.envelope))
        request.timeoutSeconds = .ok (do return rawResult (← runEvidence backend host limits root workspace request)) ∧
    (∀ result, decodeExact sha256 (rawResult result) =
      interpret sha256 result.status result.exitCode result.stdout result.stderr result.diagnostic) ∧
    (∀ result other, rawResult result = rawResult other → result = other) ∧
    (Function.Injective sha256 → ∀ result other semanticBytes mediaType encoding operation,
      decodeExact sha256 (rawResult result) = .ok (.decoded semanticBytes mediaType encoding operation) →
      decodeExact sha256 (rawResult other) = .ok (.decoded semanticBytes mediaType encoding operation) →
        result = other) := by
  refine ⟨?_, decodeExact_rawResult sha256, fun _ _ same => rawResult_injective same, ?_⟩
  · unfold performExact
    rw [requestOf_envelope request held]
    rfl
  · intro apart result other semanticBytes mediaType encoding operation decoded same
    rw [decodeExact_rawResult] at decoded same
    exact interpret_decoded apart decoded same

end

end EvidenceEffectAdapter

namespace WorkedApart

open EvidenceEffectAdapter

/-- A store with the input of a solver run. -/
def problemStore : ArtifactStore := ⟨fun _ => some (.other "(check-sat)")⟩

theorem problemStore_holds : HoldsInputs problemStore (solverRun "a").inputs := by
  intro input member
  obtain rfl := List.mem_singleton.mp member
  rfl

theorem answered_exits : (some (0 : Int)).isSome = EvidenceRunStatus.completed.isProcess := rfl

def answered : EvidenceRunResult := ⟨.completed, some 0, [115, 97, 116, 10], [], none, answered_exits⟩

/-- A machine without Docker. -/
def bareHost : DockerHost := ⟨false, fun _ _ _ => .error "FileNotFoundError"⟩

/-- The limits of a common file system. -/
def extLimits : FileLimits := ⟨255, 4095⟩

def evidenceRoot : List FileName := ["tmp".toList, "rci-evidence-0".toList]

/-- The run of the stored request, and what is decoded of an answer. -/
theorem problem_returned :
    performExact problemStore solverBackend bareHost extLimits evidenceRoot "/tmp/rci-evidence-0"
        (canonicalBytes (JsonModel.dump (solverRun "a").envelope)) 10 =
      .ok (do return rawResult (← runEvidence solverBackend bareHost extLimits evidenceRoot "/tmp/rci-evidence-0"
        (solverRun "a"))) ∧
    decodeExact (fun _ => "digest") (rawResult answered) =
      interpret (fun _ => "digest") .completed (some 0) [115, 97, 116, 10] [] none := by
  have returned := returned_exactly (fun _ => "digest") problemStore solverBackend bareHost extLimits evidenceRoot
    "/tmp/rci-evidence-0" (solverRun "a") problemStore_holds
  exact ⟨returned.1, returned.2.1 answered⟩

end WorkedApart

end RatchetingInquiry
