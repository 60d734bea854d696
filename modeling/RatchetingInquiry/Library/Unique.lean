import Mathlib.Data.List.Basic

/-! Values whose key no other value shares. When more values are produced from the same sources, a source can drop out
because another got its key, and a newcomer stays out when its key is taken. -/

namespace RatchetingInquiry

section
variable {α β κ : Type} [DecidableEq κ]

/-- The items whose key no other item has. -/
def uniqueBy (key : β → κ) (items : List β) : List β :=
  items.filter (fun item => items.countP (fun other => key other = key item) = 1)

/-- Two ways to produce items from the same sources: `fewer` from the sources in `base`, `more` also from those in
`extra`. The label of a source is the key of its item. -/
structure ProducesMore (sources : List α) (fewer more : α → Option β) (key : β → κ) (label : α → κ)
    (base extra : α → Bool) : Prop where
  kept : ∀ source ∈ sources, base source = true → fewer source = more source
  absent : ∀ source ∈ sources, base source = false → fewer source = none
  produced : ∀ source ∈ sources, (more source).isSome = (base source || extra source)
  apart : ∀ source ∈ sources, base source = true → extra source = false
  labelled : ∀ source ∈ sources, ∀ item, more source = some item → key item = label source

/-- The sources of a kind with the given label. -/
def labelCount (sources : List α) (kind : α → Bool) (label : α → κ) (k : κ) : Nat :=
  sources.countP (fun source => kind source && label source = k)

section
variable {sources : List α} {fewer more : α → Option β} {key : β → κ} {label : α → κ} {base extra : α → Bool}

/-- The items with a key are as many as the sources with that label that produce one. -/
theorem countP_produced {make : α → Option β} {kind : α → Bool}
    (produced : ∀ source ∈ sources, (make source).isSome = kind source)
    (labelled : ∀ source ∈ sources, ∀ item, make source = some item → key item = label source) (k : κ) :
    (sources.filterMap make).countP (fun item => key item = k) = labelCount sources kind label k := by
  rw [List.countP_filterMap, labelCount]
  apply List.countP_congr
  intro source member
  rw [← produced source member]
  cases made : make source with
  | none => simp
  | some item => simp [labelled source member item made]

theorem labelCount_or (apart : ∀ source ∈ sources, base source = true → extra source = false) (k : κ) :
    labelCount sources (fun source => base source || extra source) label k =
      labelCount sources base label k + labelCount sources extra label k := by
  unfold labelCount
  induction sources with
  | nil => rfl
  | cons source rest ih =>
    have first := apart source List.mem_cons_self
    have others := ih fun later member => apart later (List.mem_cons_of_mem _ member)
    simp only [List.countP_cons, others]
    by_cases named : label source = k
    · cases inBase : base source with
      | true => simp [named, first inBase]; omega
      | false => cases extra source <;> simp [named]; omega
    · simp [named]

theorem labelCount_pos {kind : α → Bool} {source : α} (member : source ∈ sources) (listed : kind source = true) :
    0 < labelCount sources kind label (label source) := by
  rw [labelCount, List.countP_pos_iff]
  exact ⟨source, member, by simp [listed]⟩

theorem labelCount_exists {kind : α → Bool} {k : κ} (counted : 0 < labelCount sources kind label k) :
    ∃ source ∈ sources, kind source = true ∧ label source = k := by
  rw [labelCount, List.countP_pos_iff] at counted
  obtain ⟨source, member, listed⟩ := counted
  simp only [Bool.and_eq_true, decide_eq_true_eq] at listed
  exact ⟨source, member, listed⟩

variable (produces : ProducesMore sources fewer more key label base extra)
include produces

theorem ProducesMore.fewer_count (k : κ) :
    (sources.filterMap fewer).countP (fun item => key item = k) = labelCount sources base label k := by
  refine countP_produced ?_ ?_ k
  · intro source member
    cases inBase : base source with
    | false => simp [produces.absent source member inBase]
    | true => rw [produces.kept source member inBase, produces.produced source member, inBase, Bool.true_or]
  · intro source member item made
    cases inBase : base source with
    | false => simp [produces.absent source member inBase] at made
    | true => exact produces.labelled source member item (produces.kept source member inBase ▸ made)

theorem ProducesMore.more_count (k : κ) : (sources.filterMap more).countP (fun item => key item = k) =
    labelCount sources base label k + labelCount sources extra label k := by
  rw [← labelCount_or produces.apart]
  exact countP_produced produces.produced produces.labelled k

theorem ProducesMore.mem_unique_more {item : β} : item ∈ uniqueBy key (sources.filterMap more) ↔
    item ∈ sources.filterMap more ∧
      labelCount sources base label (key item) + labelCount sources extra label (key item) = 1 := by
  simp only [uniqueBy, List.mem_filter, produces.more_count, decide_eq_true_eq]

theorem ProducesMore.mem_unique_fewer {item : β} : item ∈ uniqueBy key (sources.filterMap fewer) ↔
    item ∈ sources.filterMap fewer ∧ labelCount sources base label (key item) = 1 := by
  simp only [uniqueBy, List.mem_filter, produces.fewer_count, decide_eq_true_eq]

/-- The unique items stay the same exactly when every newcomer finds its key taken by two others, or comes with
another newcomer under a key that nobody had. -/
theorem ProducesMore.uniqueBy_eq_iff :
    uniqueBy key (sources.filterMap more) = uniqueBy key (sources.filterMap fewer) ↔
      ∀ source ∈ sources, extra source = true → 2 ≤ labelCount sources base label (label source) ∨
        (labelCount sources base label (label source) = 0 ∧ 2 ≤ labelCount sources extra label (label source)) := by
  constructor
  · intro same source member newcomer
    have come : 0 < labelCount sources extra label (label source) := labelCount_pos member newcomer
    by_contra alone
    by_cases taken : labelCount sources base label (label source) = 1
    · -- the one item that had the key drops out
      have held : 0 < (sources.filterMap fewer).countP (fun item => key item = label source) := by
        rw [produces.fewer_count, taken]
        exact Nat.one_pos
      obtain ⟨item, listed, named⟩ := List.countP_pos_iff.mp held
      simp only [decide_eq_true_eq] at named
      have unique := produces.mem_unique_fewer.mpr ⟨listed, named ▸ taken⟩
      rw [← same, produces.mem_unique_more, named] at unique
      omega
    · -- the newcomer is the only one with its key
      have made : (more source).isSome := by rw [produces.produced source member, newcomer, Bool.or_true]
      obtain ⟨item, made⟩ := Option.isSome_iff_exists.mp made
      have named := produces.labelled source member item made
      have unique : item ∈ uniqueBy key (sources.filterMap more) := by
        rw [produces.mem_unique_more, named]
        exact ⟨List.mem_filterMap.mpr ⟨source, member, made⟩, by omega⟩
      rw [same, produces.mem_unique_fewer, named] at unique
      omega
  · intro crowded
    unfold uniqueBy
    rw [List.filter_filterMap, List.filter_filterMap]
    apply List.filterMap_congr
    intro source member
    simp only [produces.more_count, produces.fewer_count]
    cases inBase : base source with
    | true =>
      rw [produces.kept source member inBase]
      cases made : more source with
      | none => rfl
      | some item =>
        have held : 0 < labelCount sources base label (label source) := labelCount_pos member inBase
        have agree : labelCount sources base label (label source) + labelCount sources extra label (label source) = 1 ↔
            labelCount sources base label (label source) = 1 := by
          by_cases come : 0 < labelCount sources extra label (label source)
          · obtain ⟨other, listed, newcomer, named⟩ := labelCount_exists come
            have shared := crowded other listed newcomer
            rw [named] at shared
            omega
          · omega
        rw [Option.filter_some, Option.filter_some, produces.labelled source member item made]
        simp only [agree]
    | false =>
      rw [produces.absent source member inBase]
      cases made : more source with
      | none => rfl
      | some item =>
        have newcomer : extra source = true := by
          have produced := produces.produced source member
          simpa [made, inBase] using produced.symm
        have shared := crowded source member newcomer
        have come : 0 < labelCount sources extra label (label source) := labelCount_pos member newcomer
        rw [Option.filter_some, produces.labelled source member item made, if_neg (by simp; omega)]
        rfl

end

end

end RatchetingInquiry
