import RatchetingInquiry.Library.Index
import RatchetingInquiry.Library.Sorting

/-! Canonical lists: one record for each key, in key order. Records that their keys tell apart have one such list,
whatever their order and repetitions. -/

namespace RatchetingInquiry

theorem canonical_nil {α : Type} [LT α] : ([] : List α).Pairwise (· < ·) := List.Pairwise.nil

theorem canonical_singleton {α : Type} [LT α] (value : α) : [value].Pairwise (· < ·) := List.pairwise_singleton _ value

theorem given_singleton {α : Type} [LT α] (value : α) : [value] ≠ [] ∧ [value].Pairwise (· < ·) :=
  ⟨List.cons_ne_nil value [], canonical_singleton value⟩

section
variable {α κ ε : Type} [DecidableEq α] [DecidableEq κ] {key : α → κ} {conflict : α → ε}

/-- Put the record behind the earlier ones, unless it is among them; another record with its key is a conflict. -/
def collect (key : α → κ) (conflict : α → ε) (seen : List α) (record : α) : Except ε (List α) :=
  match seen.find? (fun prior => key prior = key record) with
  | some prior => if prior ≠ record then throw (conflict record) else return seen
  | none => return seen ++ [record]

theorem collect_eq_ok {seen result : List α} {record : α} (distinct : (seen.map key).Nodup) :
    collect key conflict seen record = .ok result ↔
      (record ∈ seen ∧ result = seen) ∨ (key record ∉ seen.map key ∧ result = seen ++ [record]) := by
  unfold collect
  split
  next prior hit =>
    have owned := List.mem_of_find?_eq_some hit
    have sameKey : key prior = key record := by simpa using List.find?_some hit
    have taken : key record ∈ seen.map key := sameKey ▸ List.mem_map_of_mem owned
    by_cases same : prior = record
    · subst same
      simp [owned, taken, pure, Except.pure, eq_comm]
    · have absent : record ∉ seen := fun member => same (List.inj_on_of_nodup_map distinct owned member sameKey)
      simp [same, absent, taken, throw, throwThe, MonadExceptOf.throw]
  next miss =>
    have untaken : key record ∉ seen.map key := find_eq_none_iff.mp miss
    have absent : record ∉ seen := fun member => untaken (List.mem_map_of_mem member)
    simp [untaken, absent, pure, Except.pure, eq_comm]

omit [DecidableEq α] in
/-- Nothing is dropped from records with new and different keys. -/
theorem freshBy_eq_self {known : List κ} {records : List α} (distinct : (records.map key).Nodup)
    (fresh : ∀ record ∈ records, key record ∉ known) : freshBy key known records = records := by
  induction records generalizing known with
  | nil => rfl
  | cons first rest ih =>
    rw [List.map_cons, List.nodup_cons] at distinct
    unfold freshBy
    rw [if_neg (fresh first List.mem_cons_self), ih distinct.2]
    intro record later
    rw [List.mem_cons, not_or]
    exact ⟨fun same => distinct.1 (same ▸ List.mem_map_of_mem later), fresh record (List.mem_cons_of_mem _ later)⟩

omit [DecidableEq α] in
/-- A lookup among records with different keys depends on the members alone. -/
theorem indexBy_congr {records others : List α} (distinct : (records.map key).Nodup)
    (otherDistinct : (others.map key).Nodup) (sameMembers : ∀ record, record ∈ others ↔ record ∈ records) (k : κ) :
    indexBy key others k = indexBy key records k := by
  apply Option.ext
  intro record
  constructor
  · intro hit
    obtain ⟨member, rfl⟩ := indexBy_some hit
    exact indexBy_of_mem distinct ((sameMembers record).mp member)
  · intro hit
    obtain ⟨member, rfl⟩ := indexBy_some hit
    exact indexBy_of_mem otherDistinct ((sameMembers record).mpr member)

/-- What is collected has different keys, and nothing is lost or made up. -/
theorem foldlM_collect_ok {seen records result : List α} (distinct : (seen.map key).Nodup)
    (collected : records.foldlM (collect key conflict) seen = .ok result) :
    (result.map key).Nodup ∧ ∀ record, record ∈ result ↔ record ∈ seen ∨ record ∈ records := by
  induction records generalizing seen with
  | nil =>
    simp only [List.foldlM_nil, pure, Except.pure, Except.ok.injEq] at collected
    subst collected
    simpa using distinct
  | cons first rest ih =>
    rw [List.foldlM_cons, bind_eq_ok] at collected
    obtain ⟨middle, placed, later⟩ := collected
    rcases (collect_eq_ok distinct).mp placed with ⟨owned, rfl⟩ | ⟨untaken, rfl⟩
    · obtain ⟨apart, members⟩ := ih distinct later
      refine ⟨apart, ?_⟩
      intro record
      rw [members, List.mem_cons]
      by_cases same : record = first
      · simp [same, owned]
      · simp [same]
    · have extended : ((seen ++ [first]).map key).Nodup := by
        rw [List.map_append, List.map_singleton, ← List.concat_eq_append, List.nodup_concat]
        exact ⟨untaken, distinct⟩
      obtain ⟨apart, members⟩ := ih extended later
      refine ⟨apart, ?_⟩
      intro record
      rw [members, List.mem_cons, List.mem_append, List.mem_singleton, or_assoc]

/-- The keys tell the records apart. -/
def ToldApart (key : α → κ) (records : List α) : Prop :=
  ∀ first ∈ records, ∀ second ∈ records, key first = key second → first = second

omit [DecidableEq α] [DecidableEq κ] in
theorem ToldApart.of_nodup {records : List α} (distinct : (records.map key).Nodup) : ToldApart key records :=
  fun _ first _ second same => List.inj_on_of_nodup_map distinct first second same

/-- Records that are told apart can be collected. -/
theorem exists_collected {seen records : List α} (distinct : (seen.map key).Nodup)
    (apart : ToldApart key (seen ++ records)) : ∃ result, records.foldlM (collect key conflict) seen = .ok result := by
  induction records generalizing seen with
  | nil => exact ⟨seen, rfl⟩
  | cons first rest ih =>
    by_cases taken : key first ∈ seen.map key
    · obtain ⟨prior, owned, sameKey⟩ := List.mem_map.mp taken
      have same : prior = first := apart prior (List.mem_append_left _ owned) first (by simp) sameKey
      have placed : collect key conflict seen first = .ok seen := (collect_eq_ok distinct).mpr (.inl ⟨same ▸ owned, rfl⟩)
      have later : ToldApart key (seen ++ rest) := by
        intro one oneMember other otherMember
        exact apart one (by simp at oneMember ⊢; tauto) other (by simp at otherMember ⊢; tauto)
      obtain ⟨result, collected⟩ := ih distinct later
      refine ⟨result, ?_⟩
      rw [List.foldlM_cons, placed]
      exact collected
    · have placed : collect key conflict seen first = .ok (seen ++ [first]) :=
        (collect_eq_ok distinct).mpr (.inr ⟨taken, rfl⟩)
      have extended : ((seen ++ [first]).map key).Nodup := by
        rw [List.map_append, List.map_singleton, ← List.concat_eq_append, List.nodup_concat]
        exact ⟨taken, distinct⟩
      obtain ⟨result, collected⟩ := ih extended (by simpa using apart)
      refine ⟨result, ?_⟩
      rw [List.foldlM_cons, placed]
      exact collected

/-- Only records that are told apart can be collected. -/
theorem toldApart_of_collected {records result : List α} (collected : records.foldlM (collect key conflict) [] = .ok result) :
    ToldApart key records := by
  obtain ⟨distinct, members⟩ := foldlM_collect_ok (by simp) collected
  intro first firstMember second secondMember
  exact ToldApart.of_nodup distinct first ((members first).mpr (.inr firstMember)) second
    ((members second).mpr (.inr secondMember))

end

section
variable {α κ ε : Type} [DecidableEq α] [LinearOrder κ] {key : α → κ} {conflict : α → ε}

omit [DecidableEq α] in
/-- Records with different keys are sorted strictly. -/
theorem insertionSort_ascending {records : List α} (distinct : (records.map key).Nodup) :
    (records.insertionSort (fun left right => key left ≤ key right)).Pairwise (fun left right => key left < key right) := by
  have total : Std.Total (fun left right : α => key left ≤ key right) := ⟨fun left right => le_total (key left) (key right)⟩
  have transitive : IsTrans α (fun left right => key left ≤ key right) := ⟨fun _ _ _ first second => le_trans first second⟩
  have reordered := (List.perm_insertionSort (fun left right => key left ≤ key right) records).map key
  have apart := List.pairwise_map.mp (reordered.nodup_iff.mpr distinct)
  have ascending := List.pairwise_insertionSort (fun left right => key left ≤ key right) records
  exact (apart.and ascending).imp fun both => lt_of_le_of_ne both.2 both.1

theorem insertionSort_strict {members : List κ} (distinct : members.Nodup) :
    (members.insertionSort (· ≤ ·)).Pairwise (· < ·) := by
  have keyed : (members.map id).Nodup := by
    rw [List.map_id]
    exact distinct
  exact insertionSort_ascending keyed

omit [DecidableEq α] in
/-- Records with different keys are sorted alike from every order. -/
theorem insertionSort_eq_of_distinct {records others : List α} (same : others.Perm records)
    (distinct : (records.map key).Nodup) : others.insertionSort (fun left right => key left ≤ key right) =
      records.insertionSort (fun left right => key left ≤ key right) := by
  have total : Std.Total (fun left right : α => key left ≤ key right) := ⟨fun left right => le_total (key left) (key right)⟩
  have transitive : IsTrans α (fun left right => key left ≤ key right) := ⟨fun _ _ _ first second => le_trans first second⟩
  refine insertionSort_eq_of_perm _ same ?_
  intro left leftMember right rightMember below above
  exact List.inj_on_of_nodup_map distinct leftMember rightMember (le_antisymm below above)

omit [DecidableEq α] in
/-- Grouping by key loses no record and repeats none. -/
theorem flatMap_filter_perm {keys : List κ} {records : List α} (distinct : keys.Nodup)
    (covered : ∀ record ∈ records, key record ∈ keys) :
    (keys.flatMap (fun k => records.filter (fun record => key record = k))).Perm records := by
  induction keys generalizing records with
  | nil =>
    have none : records = [] := List.eq_nil_iff_forall_not_mem.mpr (fun record owned => by simpa using covered record owned)
    rw [none]
    exact List.Perm.refl _
  | cons first rest ih =>
    obtain ⟨fresh, others⟩ := List.nodup_cons.mp distinct
    have later := @ih (records.filter (fun record => !decide (key record = first))) others (by
      intro record owned
      obtain ⟨member, apart⟩ := List.mem_filter.mp owned
      exact (List.mem_cons.mp (covered record member)).resolve_left (by simpa using apart))
    have groups : rest.flatMap (fun k => (records.filter (fun record => !decide (key record = first))).filter
          (fun record => key record = k)) =
        rest.flatMap (fun k => records.filter (fun record => key record = k)) := by
      apply List.flatMap_congr
      intro k owned
      rw [List.filter_filter]
      apply List.filter_congr
      intro record _
      by_cases same : key record = k
      · have apart : k ≠ first := fun equal => fresh (equal ▸ owned)
        simp [same, apart]
      · simp [same]
    rw [groups] at later
    rw [List.flatMap_cons]
    exact (later.append_left _).trans (List.filter_append_perm _ records)

/-- One record for each key, in key order. -/
def canonicalList (key : α → κ) (conflict : α → ε) (records : List α) : Except ε (List α) := do
  let unique ← records.foldlM (collect key conflict) []
  return unique.insertionSort (fun left right => key left ≤ key right)

/-- A list is the canonical one of the records when it has the same members in strict key order. -/
theorem canonicalList_eq_ok {records result : List α} :
    canonicalList key conflict records = .ok result ↔
      ToldApart key records ∧ (∀ record, record ∈ result ↔ record ∈ records) ∧
        result.Pairwise (fun left right => key left < key right) := by
  unfold canonicalList
  rw [bind_eq_ok]
  simp only [pure, Except.pure, Except.ok.injEq]
  constructor
  · intro ⟨unique, collected, same⟩
    obtain ⟨distinct, members⟩ := foldlM_collect_ok (by simp) collected
    subst same
    refine ⟨toldApart_of_collected collected, ?_, insertionSort_ascending distinct⟩
    intro record
    rw [List.mem_insertionSort, members]
    simp
  · intro ⟨apart, members, ascending⟩
    obtain ⟨unique, collected⟩ := @exists_collected _ _ _ _ _ key conflict [] records (by simp) apart
    obtain ⟨distinct, uniqueMembers⟩ := foldlM_collect_ok (by simp) collected
    refine ⟨unique, collected, ?_⟩
    have resultDistinct : result.Nodup := ascending.imp fun below => fun same => absurd (same ▸ below) (lt_irrefl _)
    have uniqueDistinct : unique.Nodup := List.Nodup.of_map _ distinct
    have reordered : unique.Perm result := by
      rw [List.perm_ext_iff_of_nodup uniqueDistinct resultDistinct]
      intro record
      rw [uniqueMembers, members]
      simp
    have resultKeys : (result.map key).Nodup := (reordered.map key).nodup_iff.mp distinct
    rw [insertionSort_eq_of_distinct reordered resultKeys]
    exact List.Pairwise.insertionSort_eq (ascending.imp fun below => below.le)

/-- The canonical list depends on the members alone. -/
theorem canonicalList_congr {records others : List α} (sameMembers : ∀ record, record ∈ others ↔ record ∈ records)
    {result : List α} (canonical : canonicalList key conflict records = .ok result) :
    canonicalList key conflict others = .ok result := by
  obtain ⟨apart, members, ascending⟩ := canonicalList_eq_ok.mp canonical
  refine canonicalList_eq_ok.mpr ⟨?_, ?_, ascending⟩
  · intro first firstMember second secondMember
    exact apart first ((sameMembers first).mp firstMember) second ((sameMembers second).mp secondMember)
  · intro record
    rw [members, sameMembers]

/-- Records that are told apart have a canonical list. -/
theorem exists_canonicalList {records : List α} (apart : ToldApart key records) :
    ∃ result, canonicalList key conflict records = .ok result := by
  obtain ⟨unique, collected⟩ := @exists_collected _ _ _ _ _ key conflict [] records (by simp) apart
  refine ⟨unique.insertionSort (fun left right => key left ≤ key right), ?_⟩
  unfold canonicalList
  rw [collected]
  rfl

end

end RatchetingInquiry
