import RatchetingInquiry.Library.Failing
import Mathlib.Data.List.Infix

/-! Directories and files as a POSIX system shows them: a path is looked up name by name, names and whole paths have a
greatest length, and a directory can be made together with the ones above it. Trees in which every entry lies in a
directory stay so, and on them each operation is described by what it needs and what it leaves. -/

namespace RatchetingInquiry

abbrev FileName := List Char

inductive FileEntry (α : Type) where
  | directory
  | file (content : α)
deriving DecidableEq

/-- What lies at the paths below a directory, which is itself at the empty path. -/
abbrev FileTree (α : Type) := List FileName → Option (FileEntry α)

inductive FileError where
  | nameTooLong | noEntry | notDirectory | present | isDirectory
deriving DecidableEq

/-- The greatest lengths of names and of absolute paths that a file system takes, in bytes of UTF-8. -/
structure FileLimits where
  nameMax : Nat
  pathMax : Nat

def nameBytes : FileName → Nat
  | [] => 0
  | character :: rest => character.utf8Size + nameBytes rest

/-- The bytes of an absolute path, with a slash in front of each of its names. -/
def pathBytes : List FileName → Nat
  | [] => 0
  | name :: rest => 1 + nameBytes name + pathBytes rest

theorem pathBytes_append (front back : List FileName) : pathBytes (front ++ back) = pathBytes front + pathBytes back := by
  induction front with
  | nil => simp [pathBytes]
  | cons name rest ih =>
    rw [List.cons_append, pathBytes, pathBytes, ih]
    omega

/-- A file system takes a path below a directory: the names of the path, and the whole path. -/
structure FileLimits.Takes (limits : FileLimits) (root path : List FileName) : Prop where
  names : ∀ name ∈ path, nameBytes name ≤ limits.nameMax
  whole : pathBytes (root ++ path) ≤ limits.pathMax

/-- The bytes of the path of a directory above another path are fewer. -/
theorem FileLimits.Takes.front {limits : FileLimits} {root front path : List FileName} (takes : limits.Takes root path)
    (lead : front <+: path) : limits.Takes root front where
  names name member := takes.names name (lead.subset member)
  whole := by
    obtain ⟨back, rfl⟩ := lead
    have whole := takes.whole
    rw [← List.append_assoc, pathBytes_append] at whole
    omega

namespace FileTree

section
variable {α : Type}

def put (tree : FileTree α) (path : List FileName) (entry : FileEntry α) : FileTree α :=
  fun other => if other = path then some entry else tree other

/-- A directory without entries. -/
def empty : FileTree α := fun path => if path = [] then some .directory else none

/-- The names of a path are looked up from a directory on: every one but the last has to be a directory. -/
def walk (limits : FileLimits) (tree : FileTree α) : List FileName → List FileName → Except FileError Unit
  | _, [] => .ok ()
  | base, name :: rest =>
    if limits.nameMax < nameBytes name then .error .nameTooLong
    else if rest = [] then .ok ()
    else
      match tree (base ++ [name]) with
      | none => .error .noEntry
      | some (.file _) => .error .notDirectory
      | some .directory => walk limits tree (base ++ [name]) rest

/-- A path is handed to the system as a whole, below the absolute path of the tree. -/
def locate (limits : FileLimits) (root : List FileName) (tree : FileTree α) (path : List FileName) :
    Except FileError Unit := do
  require (pathBytes (root ++ path) ≤ limits.pathMax) .nameTooLong
  walk limits tree [] path

/-- The system call that makes one directory. -/
def mkdir (limits : FileLimits) (root : List FileName) (tree : FileTree α) (path : List FileName) :
    Except FileError (FileTree α) := do
  locate limits root tree path
  match tree path with
  | some _ => .error .present
  | none => .ok (tree.put path .directory)

def isDirectory (limits : FileLimits) (root : List FileName) (tree : FileTree α) (path : List FileName) : Bool :=
  match locate limits root tree path, tree path with
  | .ok (), some .directory => true
  | _, _ => false

/-- `Path.mkdir(exist_ok=True)`. -/
def makeDirectory (limits : FileLimits) (root : List FileName) (tree : FileTree α) (path : List FileName) :
    Except FileError (FileTree α) :=
  match mkdir limits root tree path with
  | .ok made => .ok made
  | .error .noEntry => .error .noEntry
  | .error failure => if isDirectory limits root tree path then .ok tree else .error failure

/-- `Path.mkdir(parents=True, exist_ok=True)`, on the reversed path. -/
def makeDirectories (limits : FileLimits) (root : List FileName) (tree : FileTree α) :
    List FileName → Except FileError (FileTree α)
  | [] => makeDirectory limits root tree []
  | name :: above =>
    match mkdir limits root tree (name :: above).reverse with
    | .ok made => .ok made
    | .error .noEntry => do
      let made ← makeDirectories limits root tree above
      makeDirectory limits root made (name :: above).reverse
    | .error failure =>
      if isDirectory limits root tree (name :: above).reverse then .ok tree else .error failure

/-- `Path.write_bytes`. -/
def writeBytes (limits : FileLimits) (root : List FileName) (tree : FileTree α) (path : List FileName) (content : α) :
    Except FileError (FileTree α) := do
  locate limits root tree path
  match tree path with
  | some .directory => .error .isDirectory
  | _ => .ok (tree.put path (.file content))

/-- The tree is a directory, and every entry lies in one. -/
structure WellFormed (tree : FileTree α) : Prop where
  top : tree [] = some .directory
  parents : ∀ path name, tree (path ++ [name]) ≠ none → tree path = some .directory

variable {limits : FileLimits} {root path : List FileName} {tree result : FileTree α}

/-- Above every entry there are directories. -/
theorem WellFormed.above (wellFormed : tree.WellFormed) {front back : List FileName} (more : back ≠ [])
    (there : tree (front ++ back) ≠ none) : tree front = some .directory := by
  induction back using List.reverseRecOn with
  | nil => exact absurd rfl more
  | append_singleton middle last ih =>
    rw [← List.append_assoc] at there
    have directory := wellFormed.parents _ _ there
    by_cases empty_ : middle = []
    · rw [empty_, List.append_nil] at directory
      exact directory
    · exact ih empty_ (by rw [directory]; exact Option.some_ne_none _)

/-- What lies at and above a directory is a directory. -/
theorem WellFormed.directory_of_prefix (wellFormed : tree.WellFormed) {front : List FileName} (lead : front <+: path)
    (directory : tree path = some .directory) : tree front = some .directory := by
  obtain ⟨back, rfl⟩ := lead
  by_cases empty_ : back = []
  · rw [empty_, List.append_nil] at directory
    exact directory
  · exact wellFormed.above empty_ (by rw [directory]; exact Option.some_ne_none _)

/-- Why a path is not found. -/
theorem walk_eq_error (wellFormed : tree.WellFormed) {base : List FileName} {failure : FileError}
    (failed : walk limits tree base path = .error failure) :
    (failure = .noEntry ∧ tree (base ++ path.dropLast) = none) ∨
    (failure = .nameTooLong ∧ ¬ ∀ name ∈ path, nameBytes name ≤ limits.nameMax) ∨
    (failure = .notDirectory ∧
      ∃ front content, front <+: path.dropLast ∧ tree (base ++ front) = some (.file content)) := by
  induction path generalizing base with
  | nil => cases failed
  | cons name rest ih =>
    unfold walk at failed
    split at failed
    next long =>
      refine .inr (.inl ⟨(Except.error.inj failed).symm, ?_⟩)
      intro short
      have fits := short name List.mem_cons_self
      omega
    next =>
      split at failed
      next => cases failed
      next more =>
        rw [List.dropLast_cons_of_ne_nil more]
        split at failed
        next missing =>
          refine .inl ⟨(Except.error.inj failed).symm, ?_⟩
          by_contra there
          have split_ : base ++ name :: rest.dropLast = (base ++ [name]) ++ rest.dropLast := by simp
          rw [split_] at there
          by_cases last : rest.dropLast = []
          · rw [last, List.append_nil] at there
            exact there missing
          · rw [wellFormed.above last there] at missing
            cases missing
        next content found_ =>
          refine .inr (.inr ⟨(Except.error.inj failed).symm, [name], content, ?_, found_⟩)
          exact List.cons_prefix_cons.mpr ⟨rfl, List.nil_prefix⟩
        next =>
          rcases ih failed with ⟨same, missing⟩ | ⟨same, long⟩ | ⟨same, front, content, lead, found_⟩
          · refine .inl ⟨same, ?_⟩
            rw [List.append_assoc] at missing
            exact missing
          · exact .inr (.inl ⟨same, fun short => long fun other member => short other (List.mem_cons_of_mem _ member)⟩)
          · refine .inr (.inr ⟨same, name :: front, content, List.cons_prefix_cons.mpr ⟨rfl, lead⟩, ?_⟩)
            rw [List.append_assoc] at found_
            exact found_

/-- What a path that is found shows. -/
theorem of_walk {base : List FileName} (start : tree base = some .directory)
    (walked : walk limits tree base path = .ok ()) :
    (∀ name ∈ path, nameBytes name ≤ limits.nameMax) ∧ tree (base ++ path.dropLast) = some .directory := by
  induction path generalizing base with
  | nil => simpa using start
  | cons name rest ih =>
    unfold walk at walked
    split at walked
    next => cases walked
    next short =>
      split at walked
      next last =>
        subst last
        simpa using ⟨Nat.le_of_not_lt short, start⟩
      next more =>
        rw [List.dropLast_cons_of_ne_nil more]
        split at walked
        next => cases walked
        next => cases walked
        next directory =>
          obtain ⟨names, parent⟩ := ih directory walked
          refine ⟨?_, by rw [List.append_assoc] at parent; exact parent⟩
          intro other member
          rcases List.mem_cons.mp member with rfl | later
          · exact Nat.le_of_not_lt short
          · exact names other later

/-- A path is found if and only if the system takes it and its last name is looked up in a directory. -/
theorem locate_eq_ok (wellFormed : tree.WellFormed) :
    locate limits root tree path = .ok () ↔ limits.Takes root path ∧ tree path.dropLast = some .directory := by
  unfold locate
  rw [require_bind_eq_ok]
  constructor
  · intro located
    obtain ⟨whole, walked⟩ := located
    obtain ⟨names, parent⟩ := of_walk wellFormed.top walked
    exact ⟨⟨names, whole⟩, parent⟩
  · intro takes
    obtain ⟨⟨names, whole⟩, parent⟩ := takes
    refine ⟨whole, ?_⟩
    cases walked : walk limits tree [] path with
    | ok => rfl
    | error failure =>
      rcases walk_eq_error wellFormed walked with ⟨-, missing⟩ | ⟨-, long⟩ | ⟨-, front, content, lead, found_⟩
      · rw [List.nil_append, parent] at missing
        cases missing
      · exact absurd names long
      · rw [List.nil_append, wellFormed.directory_of_prefix lead parent] at found_
        cases found_

theorem locate_eq_error (wellFormed : tree.WellFormed) {failure : FileError}
    (failed : locate limits root tree path = .error failure) :
    (failure = .noEntry ∧ tree path.dropLast = none) ∨ (failure = .nameTooLong ∧ ¬ limits.Takes root path) ∨
    (failure = .notDirectory ∧ ∃ front content, front <+: path.dropLast ∧ tree front = some (.file content)) := by
  unfold locate at failed
  by_cases whole : pathBytes (root ++ path) ≤ limits.pathMax
  · have checked : require (pathBytes (root ++ path) ≤ limits.pathMax) FileError.nameTooLong = .ok () :=
      require_eq_ok.mpr whole
    rw [checked] at failed
    rcases walk_eq_error wellFormed failed with missing | ⟨same, long⟩ | file
    · exact .inl missing
    · exact .inr (.inl ⟨same, fun takes => long takes.names⟩)
    · exact .inr (.inr file)
  · refine .inr (.inl ⟨?_, fun takes => whole takes.whole⟩)
    rw [require, if_neg whole] at failed
    exact (Except.error.inj failed).symm

/-! The operations, on a tree whose entries lie in directories. -/

/-- The directories at and above a path are made. -/
def withDirectories (tree : FileTree α) (path : List FileName) : FileTree α :=
  fun other => if other <+: path then some .directory else tree other

theorem put_of_there {entry : FileEntry α} (there : tree path = some entry) : tree.put path entry = tree := by
  funext other
  by_cases same : other = path
  · rw [put, if_pos same, same, there]
  · rw [put, if_neg same]

theorem withDirectories_concat {name : FileName} :
    tree.withDirectories (path ++ [name]) = (tree.withDirectories path).put (path ++ [name]) .directory := by
  funext other
  unfold withDirectories put
  by_cases same : other = path ++ [name]
  · rw [if_pos (List.prefix_concat_iff.mpr (.inl same)), if_pos same]
  · rw [if_neg same]
    by_cases lead : other <+: path
    · rw [if_pos (List.prefix_concat_iff.mpr (.inr lead))]
      exact (if_pos lead).symm
    · rw [if_neg (fun either => (List.prefix_concat_iff.mp either).elim same lead)]
      exact (if_neg lead).symm

theorem withDirectories_of_directory (wellFormed : tree.WellFormed) (directory : tree path = some .directory) :
    tree.withDirectories path = tree := by
  funext other
  unfold withDirectories
  split
  next lead => exact (wellFormed.directory_of_prefix lead directory).symm
  next => rfl

theorem WellFormed.withDirectories (wellFormed : tree.WellFormed) : (tree.withDirectories path).WellFormed where
  top := if_pos List.nil_prefix
  parents := by
    intro front name there
    unfold FileTree.withDirectories at there ⊢
    split at there
    next lead => exact if_pos ((List.prefix_append _ _).trans lead)
    next =>
      rw [wellFormed.parents front name there]
      split <;> rfl

theorem mkdir_of_error {failure : FileError} (failed : locate limits root tree path = .error failure) :
    mkdir limits root tree path = .error failure ∧ isDirectory limits root tree path = false := by
  unfold mkdir isDirectory
  rw [failed]
  exact ⟨rfl, rfl⟩

theorem makeDirectory_eq_ok (wellFormed : tree.WellFormed) : makeDirectory limits root tree path = .ok result ↔
    limits.Takes root path ∧ tree path.dropLast = some .directory ∧ (∀ content, tree path ≠ some (.file content)) ∧
      result = tree.put path .directory := by
  cases located : locate limits root tree path with
  | error failure =>
    obtain ⟨refused, absent⟩ := mkdir_of_error located
    have lost : ¬ (limits.Takes root path ∧ tree path.dropLast = some .directory) := by
      intro found_
      rw [(locate_eq_ok wellFormed).mpr found_] at located
      cases located
    constructor
    · intro made
      unfold makeDirectory at made
      rw [refused, absent] at made
      cases failure <;> cases made
    · intro made
      exact absurd ⟨made.1, made.2.1⟩ lost
  | ok =>
    obtain ⟨takes, parent⟩ := (locate_eq_ok wellFormed).mp located
    unfold makeDirectory mkdir isDirectory
    rw [located]
    cases there : tree path with
    | none => simp [takes, parent, bind, Except.bind, eq_comm]
    | some entry =>
      cases entry with
      | directory => simp [takes, parent, put_of_there there, bind, Except.bind, eq_comm]
      | file content => simp [bind, Except.bind]

/-- A directory is made with the ones above it if and only if the system takes its path and none of them is a file. -/
theorem makeDirectories_eq_ok (wellFormed : tree.WellFormed) :
    makeDirectories limits root tree path.reverse = .ok result ↔
      limits.Takes root path ∧ (∀ front, front <+: path → ∀ content, tree front ≠ some (.file content)) ∧
        result = tree.withDirectories path := by
  induction path using List.reverseRecOn generalizing result with
  | nil =>
    have same : tree.put [] .directory = tree.withDirectories [] := by
      rw [put_of_there wellFormed.top, withDirectories_of_directory wellFormed wellFormed.top]
    rw [List.reverse_nil, makeDirectories, makeDirectory_eq_ok wellFormed, List.dropLast_nil, same]
    simp [wellFormed.top]
  | append_singleton above name ih =>
    rw [List.reverse_concat, makeDirectories]
    have back : (name :: above.reverse).reverse = above ++ [name] := by simp
    rw [back]
    cases located : locate limits root tree (above ++ [name]) with
    | ok =>
      obtain ⟨takes, parent⟩ := (locate_eq_ok wellFormed).mp located
      rw [List.dropLast_concat] at parent
      have clear : ∀ front, front <+: above → ∀ content, tree front ≠ some (.file content) := by
        intro front lead content there
        rw [wellFormed.directory_of_prefix lead parent] at there
        cases there
      unfold mkdir isDirectory
      rw [located, withDirectories_concat, withDirectories_of_directory wellFormed parent]
      have whole : (∀ front, front <+: above ++ [name] → ∀ content, tree front ≠ some (.file content)) ↔
          ∀ content, tree (above ++ [name]) ≠ some (.file content) := by
        simp only [List.prefix_concat_iff, forall_eq_or_imp]
        exact and_iff_left clear
      rw [whole]
      cases there : tree (above ++ [name]) with
      | none => simp [takes, bind, Except.bind, eq_comm]
      | some entry =>
        cases entry with
        | directory => simp [takes, put_of_there there, bind, Except.bind, eq_comm]
        | file content => simp [bind, Except.bind]
    | error failure =>
      obtain ⟨refused, absent⟩ := mkdir_of_error located
      rcases locate_eq_error wellFormed located with ⟨rfl, missing⟩ | ⟨rfl, long⟩ | ⟨rfl, front, content, lead, file⟩
      · rw [List.dropLast_concat] at missing
        have vacant : tree (above ++ [name]) = none := by
          by_contra there
          rw [wellFormed.parents above name there] at missing
          cases missing
        have made : (tree.withDirectories above) above = some .directory := if_pos List.prefix_rfl
        have still : (tree.withDirectories above) (above ++ [name]) = none := by
          unfold FileTree.withDirectories
          rw [if_neg, vacant]
          intro lead
          have long := lead.length_le
          simp at long
        rw [refused]
        simp only [bind_eq_ok, ih, withDirectories_concat, List.prefix_concat_iff, forall_eq_or_imp, vacant]
        constructor
        · intro steps
          obtain ⟨middle, ⟨-, clear, rfl⟩, last⟩ := steps
          obtain ⟨takes, -, -, rfl⟩ := (makeDirectory_eq_ok wellFormed.withDirectories).mp last
          exact ⟨takes, ⟨fun _ => nofun, clear⟩, rfl⟩
        · intro fits
          obtain ⟨takes, ⟨-, clear⟩, rfl⟩ := fits
          refine ⟨_, ⟨takes.front (List.prefix_append _ _), clear, rfl⟩, ?_⟩
          rw [makeDirectory_eq_ok wellFormed.withDirectories, List.dropLast_concat, still]
          exact ⟨takes, made, fun _ => nofun, rfl⟩
      · rw [refused, absent]
        constructor
        · exact nofun
        · exact fun fits => absurd fits.1 long
      · rw [refused, absent]
        constructor
        · exact nofun
        · intro fits
          rw [List.dropLast_concat] at lead
          exact absurd file (fits.2.1 front (lead.trans (List.prefix_append _ _)) content)

theorem writeBytes_eq_ok (wellFormed : tree.WellFormed) {content : α} :
    writeBytes limits root tree path content = .ok result ↔ limits.Takes root path ∧
      tree path.dropLast = some .directory ∧ tree path ≠ some .directory ∧ result = tree.put path (.file content) := by
  unfold writeBytes
  rw [unit_bind_eq_ok, locate_eq_ok wellFormed, and_assoc]
  refine and_congr_right fun _ => and_congr_right fun _ => ?_
  split
  next there => simp [there]
  next clear =>
    rw [Except.ok.injEq, eq_comm]
    exact ⟨fun same => ⟨clear, same⟩, fun written => written.2⟩

end

end FileTree

end RatchetingInquiry
