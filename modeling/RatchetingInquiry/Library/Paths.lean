import Mathlib.Data.List.Infix

/-! Pure POSIX paths as lists of components. Text that is its own normal form is the join of its components,
so a leading text that ends at a slash is a leading list of components. -/

namespace RatchetingInquiry

/-- A path without access to a file system: the slashes that make it absolute, and its components. -/
structure PurePosixPath where
  root : List Char
  parts : List (List Char)
deriving DecidableEq

/-- One or three and more leading slashes are one root; exactly two are a root of their own. -/
def splitRoot : List Char → List Char × List Char
  | '/' :: '/' :: '/' :: rest => (['/'], '/' :: '/' :: rest)
  | '/' :: '/' :: rest => (['/', '/'], rest)
  | '/' :: rest => (['/'], rest)
  | rest => ([], rest)

/-- Empty components and single dots are dropped. -/
def pathParts (relative : List Char) : List (List Char) :=
  (relative.splitOn '/').filter (fun part => part ≠ [] ∧ part ≠ ['.'])

def PurePosixPath.parse (text : List Char) : PurePosixPath where
  root := (splitRoot text).1
  parts := pathParts (splitRoot text).2

def PurePosixPath.isAbsolute (path : PurePosixPath) : Bool := path.root ≠ []

def PurePosixPath.asPosix (path : PurePosixPath) : List Char :=
  if path.root = [] ∧ path.parts = [] then ['.'] else path.root ++ ['/'].intercalate path.parts

section
variable {α : Type} {separator : α}

theorem intercalate_append {front back : List (List α)} (first : front ≠ []) (second : back ≠ []) :
    [separator].intercalate (front ++ back) =
      [separator].intercalate front ++ separator :: [separator].intercalate back := by
  induction front with
  | nil => exact absurd rfl first
  | cons head rest ih =>
    cases rest with
    | nil => simp [List.intercalate_cons_of_ne_nil second]
    | cons next rest =>
      have later : (next :: rest) ++ back ≠ [] := by simp
      rw [List.cons_append, List.intercalate_cons_of_ne_nil later, ih (by simp),
        List.intercalate_cons_of_ne_nil (List.cons_ne_nil _ _)]
      simp

variable [BEq α] [LawfulBEq α]

theorem not_mem_of_mem_splitOn {items part : List α} (owned : part ∈ items.splitOn separator) :
    separator ∉ part := by
  induction items generalizing part with
  | nil =>
    rw [List.splitOn_nil, List.mem_singleton] at owned
    rw [owned]
    exact List.not_mem_nil
  | cons head rest ih =>
    rw [List.splitOn_cons_eq_if_modifyHead] at owned
    split at owned
    next =>
      rcases List.mem_cons.mp owned with same | later
      · rw [same]
        exact List.not_mem_nil
      · exact ih later
    next differs =>
      cases split : rest.splitOn separator with
      | nil => exact absurd split (List.splitOn_ne_nil _ _)
      | cons front others =>
        rw [split, List.modifyHead_cons] at owned
        rcases List.mem_cons.mp owned with same | later
        · rw [same]
          intro inside
          rcases List.mem_cons.mp inside with here | deeper
          · exact differs (by rw [here]; exact BEq.refl _)
          · exact ih (split ▸ List.mem_cons_self) deeper
        · exact ih (split ▸ List.mem_cons_of_mem _ later)

/-- A text that ends at a separator leads another just when its components lead, and are not all there is. -/
theorem separated_prefix_iff {lead text : List α} :
    lead ++ [separator] <+: text ↔
      lead.splitOn separator <+: text.splitOn separator ∧ lead.splitOn separator ≠ text.splitOn separator := by
  constructor
  · intro ⟨rest, same⟩
    have whole : text.splitOn separator = lead.splitOn separator ++ rest.splitOn separator := by
      rw [← same, List.append_assoc]
      exact List.splitOn_append_cons_self lead rest
    refine ⟨⟨_, whole.symm⟩, ?_⟩
    intro equal
    rw [whole] at equal
    exact List.splitOn_ne_nil _ _ (List.self_eq_append_right.mp equal)
  · intro ⟨⟨rest, same⟩, differs⟩
    have more : rest ≠ [] := by
      intro none
      rw [none, List.append_nil] at same
      exact differs same
    have joined : text = lead ++ separator :: [separator].intercalate rest := by
      have whole : [separator].intercalate (text.splitOn separator) = text := List.intercalate_splitOn separator
      rw [← whole, ← same, intercalate_append (List.splitOn_ne_nil _ _) more, List.intercalate_splitOn]
    exact ⟨[separator].intercalate rest, by rw [joined]; simp⟩

end

/-- A relative text in normal form: its components are all it has between slashes. -/
theorem parts_eq_splitOn {text : List Char} (relative : (PurePosixPath.parse text).isAbsolute = false)
    (normal : text = (PurePosixPath.parse text).asPosix) (notDot : text ≠ ['.']) :
    (PurePosixPath.parse text).parts = text.splitOn '/' := by
  have rootless : (PurePosixPath.parse text).root = [] := by
    simpa [PurePosixPath.isAbsolute] using relative
  have some : (PurePosixPath.parse text).parts ≠ [] := by
    intro none
    rw [PurePosixPath.asPosix, if_pos ⟨rootless, none⟩] at normal
    exact notDot normal
  have joined : text = ['/'].intercalate (PurePosixPath.parse text).parts := by
    rw [PurePosixPath.asPosix, if_neg (fun both => some both.2), rootless] at normal
    exact normal
  have slashless : ∀ part ∈ (PurePosixPath.parse text).parts, '/' ∉ part :=
    fun part owned => not_mem_of_mem_splitOn (List.mem_of_mem_filter owned)
  have split := List.splitOn_intercalate '/' slashless some
  rw [← joined] at split
  exact split.symm

end RatchetingInquiry
