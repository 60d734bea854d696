import RatchetingInquiry.Library.FileTree
import RatchetingInquiry.Library.Paths
import RatchetingInquiry.Persistence.Artifacts

/-! Evidence runs: captured inputs, the request that carries them, and the fresh workspace that they are written to.
Inputs are named by relative paths that cannot leave the workspace. Two names may be spellings of one path, one may lie
below another, and one may be longer than the file system takes; what the workspace then holds is settled here. -/

namespace RatchetingInquiry

/-- The field `CapturedInput.relative_path`: the bounds of its text, and its validator. -/
def validateRelativePath (value : String) : Except Failure Unit := do
  require (1 ≤ value.length ∧ value.length ≤ 4096) (.validation "relative_path")
  let candidate := PurePosixPath.parse value.toList
  require (candidate.isAbsolute = false ∧ candidate.parts ≠ []) (.validation "captured input paths must be relative")
  require (∀ part ∈ candidate.parts, part ≠ [] ∧ part ≠ ['.'] ∧ part ≠ ['.', '.'])
    (.validation "captured input paths cannot traverse the workspace")
  require ('\\' ∉ value.toList ∧ ':' ∉ value.toList ∧ '\x00' ∉ value.toList)
    (.validation "captured input paths must use safe POSIX components")

/-- The components of a captured path. -/
def capturedParts (relativePath : String) : List FileName := (PurePosixPath.parse relativePath.toList).parts

section
variable [ByteFacts]

@[ext]
structure CapturedInput where
  relativePath : String
  content : StoredBytes
  path_safe : validateRelativePath relativePath = .ok ()
  content_bounded : ByteFacts.length content ≤ 4194304

def CapturedInput.parts (input : CapturedInput) : List FileName := capturedParts input.relativePath

/-- `validate_request`, behind the bounds of the fields. -/
def validateRequest (argv : List String) (inputs : List CapturedInput) (timeoutSeconds maxOutputBytes : Nat) :
    Except Failure Unit := do
  require (1 ≤ argv.length ∧ argv.length ≤ 128 ∧ ∀ item ∈ argv, 1 ≤ item.length ∧ item.length ≤ 4096)
    (.validation "argv")
  require (inputs.length ≤ 256) (.validation "inputs")
  require (1 ≤ timeoutSeconds ∧ timeoutSeconds ≤ 300) (.validation "timeout_seconds")
  require (1 ≤ maxOutputBytes ∧ maxOutputBytes ≤ 16777216) (.validation "max_output_bytes")
  require (∀ item ∈ argv, '\x00' ∉ item.toList) (.validation "arguments cannot contain NUL")
  require ((argv.map String.utf8ByteSize).sum ≤ 65536) (.validation "the combined argument vector is too large")
  require ((inputs.map (fun item => ByteFacts.length item.content)).sum ≤ 16777216)
    (.validation "captured inputs exceed the aggregate 16 MiB budget")
  require (inputs.map CapturedInput.relativePath).Nodup (.validation "captured input paths must be unique")

@[ext]
structure EvidenceRunRequest where
  argv : List String
  inputs : List CapturedInput
  timeoutSeconds : Nat
  maxOutputBytes : Nat
  validated : validateRequest argv inputs timeoutSeconds maxOutputBytes = .ok ()

end

/-! The workspace. -/

/-- What lies at the paths below the root of a workspace. -/
abbrev Workspace := FileTree StoredBytes

/-- What stops a run: a check of the code, or the operating system. -/
inductive RunnerFailure where
  | invalid (failure : Failure)
  | os (kind : String)
deriving DecidableEq

/-- The exception that an error of the operating system is raised as. -/
def FileError.kind : FileError → String
  | .nameTooLong => "OSError"
  | .noEntry => "FileNotFoundError"
  | .notDirectory => "NotADirectoryError"
  | .present => "FileExistsError"
  | .isDirectory => "IsADirectoryError"

def fromFiles {α : Type} : Except FileError α → Except RunnerFailure α
  | .ok value => .ok value
  | .error failure => .error (.os failure.kind)

@[simp] theorem fromFiles_eq_ok {α : Type} {outcome : Except FileError α} {value : α} :
    fromFiles outcome = .ok value ↔ outcome = .ok value := by
  cases outcome <;> simp [fromFiles]

/-- `resolve`, where no component is a symbolic link. -/
def resolveParts (base parts : List FileName) : List FileName :=
  parts.foldl (fun resolved part => if part = ['.', '.'] then resolved.dropLast else resolved ++ [part]) base

section
variable [ByteFacts]

/-- One input, written below the root of the workspace. -/
def materializeInput (limits : FileLimits) (root : List FileName) (workspace : Workspace) (input : CapturedInput) :
    Except RunnerFailure Workspace := do
  let destination := resolveParts root input.parts
  require (root <+: destination ∧ root ≠ destination)
    (.invalid (.validation "captured input escaped the temporary workspace"))
  let within := destination.drop root.length
  let workspace ← fromFiles (workspace.makeDirectories limits root within.dropLast.reverse)
  fromFiles (workspace.writeBytes limits root within input.content)

/-- The workspace of `EvidenceRunner.run`, on a file system that takes names and paths up to its limits. -/
def materialize (limits : FileLimits) (root : List FileName) (inputs : List CapturedInput) :
    Except RunnerFailure Workspace :=
  inputs.foldlM (materializeInput limits root) FileTree.empty

end

/-! What a workspace holds in the end. -/

/-- A path lies above another one. -/
def LiesAbove (path other : List FileName) : Prop := path <+: other ∧ path ≠ other

instance (path other : List FileName) : Decidable (LiesAbove path other) :=
  inferInstanceAs (Decidable (_ ∧ _))

theorem prefix_dropLast_iff {path other : List FileName} (named : other ≠ []) :
    path <+: other.dropLast ↔ LiesAbove path other := by
  obtain ⟨front, last, rfl⟩ := (List.eq_nil_or_concat other).resolve_left named
  rw [LiesAbove, List.concat_eq_append, List.dropLast_concat, List.prefix_concat_iff]
  constructor
  · intro inside
    refine ⟨.inr inside, ?_⟩
    intro same
    rw [same] at inside
    have long := inside.length_le
    simp at long
  · intro above
    exact above.1.resolve_left above.2

section
variable [ByteFacts]

/-- The input that a path was written for last. -/
def lastAt (inputs : List CapturedInput) (path : List FileName) : Option CapturedInput :=
  inputs.reverse.find? (fun input => input.parts = path)

/-- What a workspace with the inputs holds at a path: the last content that was written to it, a directory above the
paths of inputs, and nothing elsewhere. -/
def entryAt (inputs : List CapturedInput) : Workspace := fun path =>
  match lastAt inputs path with
  | some input => some (.file input.content)
  | none => if path = [] ∨ ∃ input ∈ inputs, LiesAbove path input.parts then some .directory else none

/-- No path of an input lies above that of another one. -/
def NoneAbove (inputs : List CapturedInput) : Prop :=
  ∀ upper ∈ inputs, ∀ lower ∈ inputs, ¬ LiesAbove upper.parts lower.parts

variable {inputs : List CapturedInput} {input : CapturedInput} {path : List FileName} {workspace : Workspace}
  {limits : FileLimits} {root : List FileName}

theorem CapturedInput.parts_safe (input : CapturedInput) : input.parts ≠ [] ∧ ['.', '.'] ∉ input.parts := by
  have safe := input.path_safe
  unfold validateRelativePath at safe
  simp only [require_bind_eq_ok] at safe
  obtain ⟨-, named, contained, -⟩ := safe
  refine ⟨named.2, ?_⟩
  intro climbs
  exact (contained ['.', '.'] climbs).2.2 rfl

omit [ByteFacts] in
theorem resolveParts_safe {parts : List FileName} (safe : ['.', '.'] ∉ parts) :
    resolveParts root parts = root ++ parts := by
  unfold resolveParts
  induction parts generalizing root with
  | nil => simp
  | cons part rest ih =>
    rw [List.mem_cons, not_or] at safe
    rw [List.foldl_cons, if_neg (Ne.symm safe.1), ih safe.2]
    simp

theorem lastAt_concat :
    lastAt (inputs ++ [input]) path = if input.parts = path then some input else lastAt inputs path := by
  unfold lastAt
  rw [List.reverse_concat, List.find?_cons]
  by_cases same : input.parts = path <;> simp [same]

theorem lastAt_eq_none : lastAt inputs path = none ↔ ∀ input ∈ inputs, input.parts ≠ path := by
  simp [lastAt]

theorem lastAt_parts (last : lastAt inputs path = some input) : input ∈ inputs ∧ input.parts = path :=
  ⟨List.mem_reverse.mp (List.mem_of_find?_eq_some last), by simpa using List.find?_some last⟩

theorem entryAt_file_iff :
    (∃ content, entryAt inputs path = some (.file content)) ↔ ∃ input ∈ inputs, input.parts = path := by
  unfold entryAt
  split
  next input last =>
    obtain ⟨member, same⟩ := lastAt_parts last
    exact ⟨fun _ => ⟨input, member, same⟩, fun _ => ⟨input.content, rfl⟩⟩
  next none_ =>
    constructor
    · intro there
      obtain ⟨content, impossible⟩ := there
      split at impossible <;> cases impossible
    · intro listed
      obtain ⟨input, member, same⟩ := listed
      exact absurd same (lastAt_eq_none.mp none_ input member)

theorem entryAt_directory_iff (apart : NoneAbove inputs) :
    entryAt inputs path = some .directory ↔ path = [] ∨ ∃ input ∈ inputs, LiesAbove path input.parts := by
  unfold entryAt
  split
  next input last =>
    obtain ⟨member, same⟩ := lastAt_parts last
    constructor
    · intro impossible
      cases impossible
    · intro above
      rcases above with top | ⟨lower, listed, lies⟩
      · rw [top] at same
        exact absurd same input.parts_safe.1
      · rw [← same] at lies
        exact absurd lies (apart input member lower listed)
  next =>
    rw [ite_eq_left_iff]
    simp only [reduceCtorEq, imp_false, not_not]

/-- Every entry lies in a directory. -/
theorem entryAt_wellFormed (apart : NoneAbove inputs) : (entryAt inputs).WellFormed where
  top := (entryAt_directory_iff apart).mpr (.inl rfl)
  parents := by
    intro front name there
    have shorter : ∀ {whole : List FileName}, front ++ [name] <+: whole → LiesAbove front whole := by
      intro whole lead
      refine ⟨(List.prefix_append _ _).trans lead, ?_⟩
      intro same
      have long := (same ▸ lead).length_le
      simp at long
    rw [entryAt_directory_iff apart]
    right
    unfold entryAt at there
    split at there
    next input last =>
      obtain ⟨member, same⟩ := lastAt_parts last
      exact ⟨input, member, shorter (same ▸ List.prefix_rfl)⟩
    next =>
      split at there
      next above =>
        obtain ⟨lower, listed, lies⟩ := above.resolve_left (by simp)
        exact ⟨lower, listed, shorter lies.1⟩
      next => exact absurd rfl there

theorem noneAbove_concat : NoneAbove (inputs ++ [input]) ↔ NoneAbove inputs ∧
    (∀ upper ∈ inputs, ¬ LiesAbove upper.parts input.parts) ∧
    ∀ lower ∈ inputs, ¬ LiesAbove input.parts lower.parts := by
  unfold NoneAbove
  simp only [List.mem_append, List.mem_singleton]
  constructor
  · intro apart
    exact ⟨fun upper first lower second => apart upper (.inl first) lower (.inl second),
      fun upper first => apart upper (.inl first) input (.inr rfl),
      fun lower second => apart input (.inr rfl) lower (.inl second)⟩
  · intro apart upper first lower second
    obtain ⟨earlier, above, below⟩ := apart
    rcases first with first | rfl
    · rcases second with second | rfl
      · exact earlier upper first lower second
      · exact above upper first
    · rcases second with second | rfl
      · exact below lower second
      · exact fun lies => lies.2 rfl

/-- What one input more does to the entries. -/
theorem entryAt_concat (above : ∀ upper ∈ inputs, ¬ LiesAbove upper.parts input.parts) :
    entryAt (inputs ++ [input]) =
      ((entryAt inputs).withDirectories input.parts.dropLast).put input.parts (.file input.content) := by
  obtain ⟨named, -⟩ := input.parts_safe
  funext path
  unfold FileTree.put FileTree.withDirectories
  unfold entryAt
  rw [lastAt_concat]
  by_cases same : path = input.parts
  · rw [if_pos same.symm, if_pos same]
  · rw [if_neg (Ne.symm same), if_neg same]
    by_cases lies : LiesAbove path input.parts
    · have unwritten : lastAt inputs path = none := by
        rw [lastAt_eq_none]
        intro upper member at_
        exact above upper member (at_ ▸ lies)
      rw [if_pos ((prefix_dropLast_iff named).mpr lies), unwritten]
      simp [lies]
    · rw [if_neg (fun lead => lies ((prefix_dropLast_iff named).mp lead))]
      simp [lies]

/-- One input goes into a workspace if and only if the file system takes its path, which lies neither above nor below
that of an earlier one. -/
theorem materializeInput_eq_ok (apart : NoneAbove inputs) :
    materializeInput limits root (entryAt inputs) input = .ok workspace ↔
      limits.Takes root input.parts ∧ NoneAbove (inputs ++ [input]) ∧ workspace = entryAt (inputs ++ [input]) := by
  obtain ⟨named, safe⟩ := input.parts_safe
  have inside : root <+: root ++ input.parts ∧ root ≠ root ++ input.parts := by simp [named]
  have wellFormed := entryAt_wellFormed apart
  have clear : (∀ front, front <+: input.parts.dropLast → ∀ content, entryAt inputs front ≠ some (.file content)) ↔
      ∀ upper ∈ inputs, ¬ LiesAbove upper.parts input.parts := by
    constructor
    · intro unwritten upper member lies
      obtain ⟨content, there⟩ := entryAt_file_iff.mpr ⟨upper, member, rfl⟩
      exact unwritten upper.parts ((prefix_dropLast_iff named).mpr lies) content there
    · intro above front lead content there
      obtain ⟨upper, member, same⟩ := entryAt_file_iff.mp ⟨content, there⟩
      exact above upper member (same ▸ (prefix_dropLast_iff named).mp lead)
  have parent : (entryAt inputs).withDirectories input.parts.dropLast input.parts.dropLast = some .directory :=
    if_pos List.prefix_rfl
  have vacant : (entryAt inputs).withDirectories input.parts.dropLast input.parts ≠ some .directory ↔
      ∀ lower ∈ inputs, ¬ LiesAbove input.parts lower.parts := by
    have itself : ¬ input.parts <+: input.parts.dropLast :=
      fun lead => ((prefix_dropLast_iff named).mp lead).2 rfl
    unfold FileTree.withDirectories
    rw [if_neg itself, ne_eq, entryAt_directory_iff apart]
    simp [named]
  unfold materializeInput
  simp only [resolveParts_safe safe, require_bind_eq_ok, List.drop_left]
  simp only [bind_eq_ok, fromFiles_eq_ok, FileTree.makeDirectories_eq_ok wellFormed, clear, noneAbove_concat]
  constructor
  · intro written
    obtain ⟨-, _, ⟨-, above, rfl⟩, last⟩ := written
    obtain ⟨takes, -, free, rfl⟩ := (FileTree.writeBytes_eq_ok wellFormed.withDirectories).mp last
    exact ⟨takes, ⟨apart, above, vacant.mp free⟩, (entryAt_concat above).symm⟩
  · intro fits
    obtain ⟨takes, ⟨-, above, below⟩, rfl⟩ := fits
    refine ⟨inside, _, ⟨takes.front (List.dropLast_prefix _), above, rfl⟩, ?_⟩
    rw [FileTree.writeBytes_eq_ok wellFormed.withDirectories, entryAt_concat above]
    exact ⟨takes, parent, vacant.mpr below, rfl⟩

/-- What the operating system refuses. -/
def RunnerFailure.IsOs (failure : RunnerFailure) : Prop := ∃ kind, failure = .os kind

omit [ByteFacts] in
theorem fromFiles_fails {α : Type} {outcome : Except FileError α} :
    FailsWith RunnerFailure.IsOs (fromFiles outcome) := by
  cases outcome with
  | ok value => exact failsWith_ok value
  | error failure => exact failsWith_error.mpr ⟨failure.kind, rfl⟩

/-- No input is stopped by the check that it lies in the workspace. -/
theorem materializeInput_fails : FailsWith RunnerFailure.IsOs (materializeInput limits root workspace input) := by
  obtain ⟨named, safe⟩ := input.parts_safe
  have inside : root <+: root ++ input.parts ∧ root ≠ root ++ input.parts := by simp [named]
  unfold materializeInput
  simp only [resolveParts_safe safe, List.drop_left, failsWith_bind, failsWith_require]
  exact ⟨fun outside => absurd inside outside, fun _ _ => ⟨fromFiles_fails, fun _ _ => fromFiles_fails⟩⟩

/-- The captured inputs can be written if and only if no path of theirs lies above another one and the file system
takes each of them, and only the operating system refuses them. The workspace then holds the last content that was
written to each path, where two inputs may be spelled apart and be one, and the directories above them; nothing is ever
written outside of it. -/
theorem materialize_exact (limits : FileLimits) (root : List FileName) (inputs : List CapturedInput) :
    (∀ workspace, materialize limits root inputs = .ok workspace ↔
      NoneAbove inputs ∧ (∀ input ∈ inputs, limits.Takes root input.parts) ∧ workspace = entryAt inputs) ∧
    FailsWith RunnerFailure.IsOs (materialize limits root inputs) := by
  refine ⟨?_, failsWith_foldlM (fun tree input _ => materializeInput_fails)⟩
  unfold materialize
  induction inputs using List.reverseRecOn with
  | nil =>
    intro workspace
    have empty : entryAt [] = FileTree.empty := by
      funext path
      simp [entryAt, lastAt, FileTree.empty]
    simp [NoneAbove, empty, pure, Except.pure, eq_comm]
  | append_singleton inputs input ih =>
    intro workspace
    rw [List.foldlM_append, bind_eq_ok]
    simp only [List.foldlM_cons, List.foldlM_nil, ih, bind_pure, List.forall_mem_append, List.forall_mem_singleton]
    constructor
    · intro written
      obtain ⟨_, ⟨apart, taken, rfl⟩, last⟩ := written
      obtain ⟨takes, fits, same⟩ := (materializeInput_eq_ok apart).mp last
      exact ⟨fits, ⟨taken, takes⟩, same⟩
    · intro fits
      obtain ⟨all, ⟨taken, takes⟩, same⟩ := fits
      have apart := (noneAbove_concat.mp all).1
      exact ⟨_, ⟨apart, taken, rfl⟩, (materializeInput_eq_ok apart).mpr ⟨takes, all, same⟩⟩

end

end RatchetingInquiry
