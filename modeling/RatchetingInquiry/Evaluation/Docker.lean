import RatchetingInquiry.Evaluation.Drain
import RatchetingInquiry.Evaluation.Workspace
import RatchetingInquiry.Library.TextForms

/-! The Docker backend of evidence runs: the command that it lets through, the processes that it starts one after
another, and the result that it makes of how they went. -/

namespace RatchetingInquiry

inductive EvidenceRunStatus where
  | completed | nonzeroExit | timeout | outputLimit | unsupported | failed
deriving DecidableEq

/-- The statuses of a process that ran to its end. -/
def EvidenceRunStatus.isProcess : EvidenceRunStatus → Bool
  | .completed | .nonzeroExit => true
  | _ => false

@[ext]
structure EvidenceRunResult where
  status : EvidenceRunStatus
  exitCode : Option Int
  stdout : List UInt8
  stderr : List UInt8
  diagnostic : Option String
  exit_of_process : exitCode.isSome = status.isProcess

/-- A result without a process that ran to its end. -/
def EvidenceRunResult.withoutExit (status : EvidenceRunStatus) (plain : status.isProcess = false)
    (stdout stderr : List UInt8) (diagnostic : String) : EvidenceRunResult where
  status := status
  exitCode := none
  stdout := stdout
  stderr := stderr
  diagnostic := some diagnostic
  exit_of_process := plain.symm

def forbiddenExecutables : List String := [
  "ansible", "aws", "az", "bash", "busybox", "cmd", "curl", "docker", "fish", "flit", "gcloud", "gh", "git", "hatch",
  "helm", "kubectl", "make", "npm", "npx", "pip", "pip3", "pnpm", "poetry", "powershell", "pwsh", "python", "python3",
  "rsync", "scp", "sh", "ssh", "terraform", "twine", "uv", "wget", "yarn", "zsh"]

def forbiddenActions : List String := [
  "build", "checkout", "commit", "deploy", "install", "merge", "package", "publish", "push", "release", "uninstall",
  "upload"]

/-- `_normalized_executable`. -/
def normalizedExecutable (command : String) : List Char :=
  let normalized := lower (((PurePosixPath.parse (command.toList.map (fun char => if char = '\\' then '/' else char))
    ).parts).getLastD [])
  if ".exe".toList <:+ normalized then normalized.take (normalized.length - 4) else normalized

/-- `_validate_executable`. -/
def validateExecutable (command : String) : Except Failure Unit := do
  require (String.ofList (normalizedExecutable command) ∉ forbiddenExecutables)
    (.validation ("forbidden evidence executable: " ++ String.ofList (normalizedExecutable command)))
  require (∀ action ∈ forbiddenActions, ¬ action.toList <:+: normalizedExecutable command)
    (.validation "evidence executable names cannot expose mutation/release actions")

/-- The word of an argument that is compared with the forbidden actions. -/
def actionToken (argument : String) : String :=
  String.ofList (((lower argument.toList).dropWhile (· = '-')).takeWhile (· ≠ '='))

/-- `_validate_argv`. -/
def validateArgv (argv : List String) : Except Failure Unit := do
  validateExecutable (argv.headD "")
  argv.tail.forM (fun argument => require (actionToken argument ∉ forbiddenActions)
    (.validation ("forbidden evidence action argument: " ++ actionToken argument)))

/-- The name and the digest of an image, where its text has both. -/
def pinOf (image : String) : Option (List Char × List Char) := rpartition "@sha256:".toList image.toList

/-- The checks of an image when a backend is made. -/
def validateImage (image : String) : Except Failure Unit := do
  let pin ← found (pinOf image) (.validation "Docker evidence images must be pinned by sha256 digest")
  require (pin.1 ≠ [] ∧ pin.2.length = 64) (.validation "Docker evidence images must be pinned by sha256 digest")
  require (isHexInteger pin.2 = true) (.validation "Docker image digest must be lowercase hexadecimal")
  require (pin.2 = lower pin.2) (.validation "Docker image digest must be lowercase hexadecimal")

structure DockerEvidenceBackend where
  image : String
  allowedCommands : List String
  dockerExecutable : String := "docker"
  memoryLimit : String := "512m"
  cpuLimit : String := "1.0"
  pidsLimit : Nat := 128
  image_pinned : validateImage image = .ok ()
  commands_named : allowedCommands ≠ [] ∧ "" ∉ allowedCommands
  commands_validated : ∀ command ∈ allowedCommands, validateExecutable command = .ok ()
  pids_positive : 1 ≤ pidsLimit

/-- The machine that processes are started on: whether it has Docker, and how each process goes that is started on it
after a number of others, or the error by which it does not start. -/
structure DockerHost where
  installed : Bool
  start : Nat → List String → Nat → Except String ProcessRun

/-- A program that starts processes, of which it keeps the list. -/
abbrev DockerProgram : Type → Type := Client (List (List String)) RunnerFailure

def DockerHost.runProcess (host : DockerHost) (argv : List String) (timeoutSeconds maxOutputBytes : Nat) :
    DockerProgram (Except String BoundedProcessResult) :=
  Client.update (fun started =>
    (.ok ((host.start started.length argv timeoutSeconds).map (runBoundedProcess maxOutputBytes)), started ++ [argv]))

/-- The classification of a process that ran. -/
def resultOf (process : BoundedProcessResult) : EvidenceRunResult :=
  if process.timedOut then .withoutExit .timeout rfl process.stdout process.stderr
    "evidence command exceeded its wall-time budget"
  else if process.outputExceeded then .withoutExit .outputLimit rfl process.stdout process.stderr
    "evidence command exceeded its combined output budget"
  else
    match process.exitCode with
    | none => .withoutExit .failed rfl [] [] "bounded process ended without an exit status"
    | some 0 => ⟨.completed, some 0, process.stdout, process.stderr, none, rfl⟩
    | some code => ⟨.nonzeroExit, some code, process.stdout, process.stderr, none, rfl⟩

def unsupportedResult (diagnostic : String) : EvidenceRunResult := .withoutExit .unsupported rfl [] [] diagnostic

section
variable {process : BoundedProcessResult}

theorem resultOf_bounded {maxOutputBytes : Nat}
    (bounded : process.stdout.length + process.stderr.length ≤ maxOutputBytes) :
    (resultOf process).stdout.length + (resultOf process).stderr.length ≤ maxOutputBytes := by
  unfold resultOf EvidenceRunResult.withoutExit
  split
  next => exact bounded
  next =>
    split
    next => exact bounded
    next =>
      split
      next => exact Nat.zero_le _
      next => exact bounded
      next => exact bounded

/-- A result with an exit code shows the process as it ended. -/
theorem resultOf_exit {code : Int} (exited : (resultOf process).exitCode = some code) :
    process.timedOut = false ∧ process.outputExceeded = false ∧ process.exitCode = some code ∧
      (resultOf process).stdout = process.stdout ∧ (resultOf process).stderr = process.stderr := by
  unfold resultOf EvidenceRunResult.withoutExit at exited ⊢
  split at exited
  next => cases exited
  next waited =>
    split at exited
    next => cases exited
    next within =>
      split at exited
      next => cases exited
      next zero => simp [waited, within, zero, ← exited]
      next other _ nonzero => simp [waited, within, nonzero, ← exited]

/-- What is reported as stopped was stopped. -/
theorem resultOf_stopped (stopped : (resultOf process).status = .timeout ∨ (resultOf process).status = .outputLimit) :
    (process.timedOut || process.outputExceeded) = true := by
  unfold resultOf EvidenceRunResult.withoutExit at stopped
  split at stopped
  next late => simp [late]
  next =>
    split at stopped
    next exceeded => simp [exceeded]
    next => split at stopped <;> simp at stopped

/-- A bounded process with an exit code ended by itself, and it is complete once its threads have ended. -/
theorem runBoundedProcess_exit {maxOutputBytes : Nat} {run : ProcessRun} {code : Int}
    (exited : (runBoundedProcess maxOutputBytes run).exitCode = some code) :
    run.timedOut = false ∧ run.returnCode = code ∧
      ((∀ thread ∈ (run.turns.foldl Client.turnOf ({}, drains maxOutputBytes run.reads)).2,
          ∃ outcome, thread = .done outcome) →
        (runBoundedProcess maxOutputBytes run).stdout = delivered (run.reads .stdout) ∧
        (runBoundedProcess maxOutputBytes run).stderr = delivered (run.reads .stderr)) := by
  obtain ⟨threads, same, now⟩ := drainsAt_run (Client.turnsOf_turns ({}, drains maxOutputBytes run.reads) run.turns)
  unfold runBoundedProcess at exited ⊢
  dsimp only at exited ⊢
  split at exited
  next => cases exited
  next ended =>
    simp only [Bool.or_eq_true, not_or, Bool.not_eq_true] at ended
    refine ⟨ended.1, Option.some.inj exited, ?_⟩
    intro drained
    rw [same] at drained
    exact ⟨now.complete drained ended.2 .stdout, now.complete drained ended.2 .stderr⟩

end

namespace DockerEvidenceBackend

def versionArgv (backend : DockerEvidenceBackend) : List String :=
  [backend.dockerExecutable, "version", "--format", "\x7b\x7b.Server.Version\x7d\x7d"]

section
variable [ByteFacts]

/-- `_container_name`. -/
def containerName (workspace : String) : String :=
  "rci-evidence-" ++ String.ofList ((ByteFacts.sha256 (.other workspace)).toList.take 24)

def removeArgv (backend : DockerEvidenceBackend) (workspace : String) : List String :=
  [backend.dockerExecutable, "rm", "--force", containerName workspace]

/-- The arguments in front of the command. -/
def confinement (backend : DockerEvidenceBackend) (workspace : String) : List String := [
  backend.dockerExecutable, "run", "--rm", "--pull", "never", "--name", containerName workspace, "--network", "none",
  "--read-only", "--cap-drop", "ALL", "--security-opt", "no-new-privileges=true", "--user", "65532:65532",
  "--memory", backend.memoryLimit, "--cpus", backend.cpuLimit, "--pids-limit", toString backend.pidsLimit,
  "--tmpfs", "/tmp:rw,noexec,nosuid,nodev,size=64m",
  "--mount", "type=bind,src=" ++ workspace ++ ",dst=/evidence,readonly", "--workdir", "/tmp", backend.image]

/-- `docker_argv`. -/
def dockerArgv (backend : DockerEvidenceBackend) (request : EvidenceRunRequest) (workspace : String) :
    Except Failure (List String) := do
  require (request.argv.headD "" ∈ backend.allowedCommands)
    (.validation ("command is not allowlisted: " ++ request.argv.headD ""))
  validateArgv request.argv
  return backend.confinement workspace ++ request.argv

/-- What follows once the confined command has run. -/
def conclude (backend : DockerEvidenceBackend) (host : DockerHost) (workspace : String)
    (process : BoundedProcessResult) : DockerProgram EvidenceRunResult :=
  if process.timedOut || process.outputExceeded then do
    match ← host.runProcess (backend.removeArgv workspace) 10 4096 with
    | .ok _ => return resultOf process
    | .error name => Client.lift (.error (.os name))
  else return resultOf process

/-- What follows once the daemon has answered. -/
def runConfined (backend : DockerEvidenceBackend) (host : DockerHost) (request : EvidenceRunRequest)
    (workspace : String) : DockerProgram EvidenceRunResult := do
  let argv ← Client.lift ((backend.dockerArgv request workspace).mapError RunnerFailure.invalid)
  match ← host.runProcess argv request.timeoutSeconds request.maxOutputBytes with
  | .ok process => backend.conclude host workspace process
  | .error name => return unsupportedResult ("Docker execution unavailable: " ++ name)

/-- `execute`. -/
def execute (backend : DockerEvidenceBackend) (host : DockerHost) (request : EvidenceRunRequest)
    (workspace : String) : DockerProgram EvidenceRunResult :=
  if host.installed = false then return unsupportedResult "Docker CLI is unavailable"
  else do
    match ← host.runProcess backend.versionArgv (min request.timeoutSeconds 5) 4096 with
    | .error name => return unsupportedResult ("Docker execution unavailable: " ++ name)
    | .ok probe =>
      if probe.timedOut || probe.outputExceeded || probe.exitCode ≠ some 0 then
        return unsupportedResult "Docker daemon is unavailable"
      else backend.runConfined host request workspace

/-- A command line that lets an allowed command run in a confined container of an image that a digest pins. -/
structure Confined (backend : DockerEvidenceBackend) (request : EvidenceRunRequest) (workspace : String)
    (argv : List String) : Prop where
  shape : argv = backend.confinement workspace ++ request.argv
  pinned : ∃ name digest, backend.image.toList = name ++ "@sha256:".toList ++ digest ∧ name ≠ [] ∧ digest.length = 64
  allowed : request.argv.headD "" ∈ backend.allowedCommands
  executable : String.ofList (normalizedExecutable (request.argv.headD "")) ∉ forbiddenExecutables
  actions : ∀ argument ∈ request.argv.tail, actionToken argument ∉ forbiddenActions

/-- What a run of the backend has done in the end: the processes that it started and the result that it returned. -/
structure RanSoundly (backend : DockerEvidenceBackend) (host : DockerHost) (request : EvidenceRunRequest)
    (workspace : String) (ran : Except RunnerFailure EvidenceRunResult × List (List String)) : Prop where
  processes : ran.2 <+: [backend.versionArgv] ∨ ∃ argv, backend.Confined request workspace argv ∧
    ran.2 <+: [backend.versionArgv, argv, backend.removeArgv workspace]
  bounded : ∀ result, ran.1 = .ok result → result.stdout.length + result.stderr.length ≤ request.maxOutputBytes
  exits : ∀ result code, ran.1 = .ok result → result.exitCode = some code → ∃ argv run,
    ran.2 = [backend.versionArgv, argv] ∧ host.start 1 argv request.timeoutSeconds = .ok run ∧
      run.timedOut = false ∧ run.returnCode = code ∧
      ((∀ thread ∈ (run.turns.foldl Client.turnOf ({}, drains request.maxOutputBytes run.reads)).2,
          ∃ outcome, thread = .done outcome) →
        result.stdout = delivered (run.reads .stdout) ∧ result.stderr = delivered (run.reads .stderr))
  removal_started : ∀ result, ran.1 = .ok result → result.status = .timeout ∨ result.status = .outputLimit →
    ∃ argv, ran.2 = [backend.versionArgv, argv, backend.removeArgv workspace]

variable {backend : DockerEvidenceBackend} {host : DockerHost} {request : EvidenceRunRequest} {workspace : String}

omit [ByteFacts] in
theorem run_runProcess_bind {α : Type} {argv : List String} {timeoutSeconds maxOutputBytes : Nat}
    {next : Except String BoundedProcessResult → DockerProgram α} {started : List (List String)} :
    (host.runProcess argv timeoutSeconds maxOutputBytes >>= next).run started =
      (next ((host.start started.length argv timeoutSeconds).map (runBoundedProcess maxOutputBytes))).run
        (started ++ [argv]) :=
  rfl

omit [ByteFacts] in
theorem pinned (backend : DockerEvidenceBackend) :
    ∃ name digest, backend.image.toList = name ++ "@sha256:".toList ++ digest ∧ name ≠ [] ∧ digest.length = 64 := by
  have valid := backend.image_pinned
  unfold validateImage at valid
  rw [found_bind_eq_ok] at valid
  obtain ⟨pin, parted, checked⟩ := valid
  rw [require_bind_eq_ok] at checked
  exact ⟨pin.1, pin.2, rpartition_eq_some parted, checked.1⟩

theorem dockerArgv_confined {argv : List String} (built : backend.dockerArgv request workspace = .ok argv) :
    backend.Confined request workspace argv := by
  unfold dockerArgv validateArgv validateExecutable at built
  simp only [require_bind_eq_ok, bind_assoc, forM_bind_eq_ok, require_eq_ok, pure, Except.pure,
    Except.ok.injEq] at built
  obtain ⟨allowed, executable, -, actions, rfl⟩ := built
  exact ⟨rfl, backend.pinned, allowed, executable, actions⟩

/-- A run that ends before the confined command has nothing to show. -/
theorem ranSoundly_unsupported {diagnostic : String} {started : List (List String)}
    (processes : started <+: [backend.versionArgv] ∨ ∃ argv, backend.Confined request workspace argv ∧
      started <+: [backend.versionArgv, argv, backend.removeArgv workspace]) :
    RanSoundly backend host request workspace (.ok (unsupportedResult diagnostic), started) where
  processes := processes
  bounded := by
    intro result returned
    rw [← Except.ok.inj returned]
    exact Nat.zero_le _
  exits := by
    intro result code returned exited
    rw [← Except.ok.inj returned] at exited
    cases exited
  removal_started := by
    intro result returned stopped
    rw [← Except.ok.inj returned] at stopped
    rcases stopped with stopped | stopped <;> cases stopped

theorem ranSoundly_failed {failure : RunnerFailure} {started : List (List String)}
    (processes : started <+: [backend.versionArgv] ∨ ∃ argv, backend.Confined request workspace argv ∧
      started <+: [backend.versionArgv, argv, backend.removeArgv workspace]) :
    RanSoundly backend host request workspace (.error failure, started) where
  processes := processes
  bounded := by
    intro result returned
    cases returned
  exits := by
    intro result code returned
    cases returned
  removal_started := by
    intro result returned
    cases returned

/-- What follows the confined command ends the run as it should. -/
theorem conclude_soundly {argv : List String} {run : ProcessRun} (confined : backend.Confined request workspace argv)
    (ran : host.start 1 argv request.timeoutSeconds = .ok run) :
    RanSoundly backend host request workspace ((backend.conclude host workspace
      (runBoundedProcess request.maxOutputBytes run)).run [backend.versionArgv, argv]) := by
  have bounded := runBoundedProcess_bounded request.maxOutputBytes run
  unfold conclude
  split
  next stopped =>
    have all : backend.Confined request workspace argv ∧
        [backend.versionArgv, argv] ++ [backend.removeArgv workspace] <+:
          [backend.versionArgv, argv, backend.removeArgv workspace] := ⟨confined, List.prefix_rfl⟩
    rw [run_runProcess_bind]
    split
    next =>
      constructor
      · exact .inr ⟨argv, all⟩
      · intro result returned
        rw [← Except.ok.inj returned]
        exact resultOf_bounded bounded
      · intro result code returned exited
        rw [← Except.ok.inj returned] at exited
        obtain ⟨waited, within, -⟩ := resultOf_exit exited
        rw [waited, within] at stopped
        cases stopped
      · exact fun _ _ _ => ⟨argv, rfl⟩
    next => exact ranSoundly_failed (.inr ⟨argv, all⟩)
  next ended =>
    constructor
    · exact .inr ⟨argv, confined, [backend.removeArgv workspace], rfl⟩
    · intro result returned
      rw [← Except.ok.inj returned]
      exact resultOf_bounded bounded
    · intro result code returned exited
      rw [← Except.ok.inj returned] at exited ⊢
      obtain ⟨-, -, last, stdout, stderr⟩ := resultOf_exit exited
      obtain ⟨waited, same, complete⟩ := runBoundedProcess_exit last
      refine ⟨argv, run, rfl, ran, waited, same, ?_⟩
      intro drained
      rw [stdout, stderr]
      exact complete drained
    · intro result returned stopped
      rw [← Except.ok.inj returned] at stopped
      exact absurd (resultOf_stopped stopped) ended

/-- The backend starts nothing but its probe, the confined command and the removal of its container, in this order. Its
result stays within the budget of the request. An exit code is that of the command, which was not stopped, and unless a
thread was still draining its output is complete; after what is stopped the removal is started, whatever comes of it. -/
theorem execute_soundly (backend : DockerEvidenceBackend) (host : DockerHost) (request : EvidenceRunRequest)
    (workspace : String) :
    RanSoundly backend host request workspace ((backend.execute host request workspace).run []) := by
  unfold execute
  split
  next => exact ranSoundly_unsupported (.inl List.nil_prefix)
  next =>
    have first : [] ++ [backend.versionArgv] <+: [backend.versionArgv] := List.prefix_rfl
    rw [run_runProcess_bind]
    split
    next => exact ranSoundly_unsupported (.inl first)
    next probe _ =>
      split
      next => exact ranSoundly_unsupported (.inl first)
      next =>
        unfold runConfined
        cases built : backend.dockerArgv request workspace with
        | error failure => exact ranSoundly_failed (.inl first)
        | ok argv =>
          have confined := dockerArgv_confined built
          have second : [backend.versionArgv, argv] <+: [backend.versionArgv, argv, backend.removeArgv workspace] :=
            ⟨[backend.removeArgv workspace], rfl⟩
          change RanSoundly backend host request workspace
            ((host.runProcess argv request.timeoutSeconds request.maxOutputBytes >>= _).run [backend.versionArgv])
          rw [run_runProcess_bind]
          cases ran : host.start 1 argv request.timeoutSeconds with
          | error name => exact ranSoundly_unsupported (.inr ⟨argv, confined, second⟩)
          | ok run => exact conclude_soundly confined ran

end

end DockerEvidenceBackend

end RatchetingInquiry
