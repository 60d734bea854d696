import RatchetingInquiry.Library.Guard

/-! Keyed lookup in an append-only list. `indexBy` is a dictionary comprehension: of several records
with one key it keeps the last. `List.find?` keeps the first. On a list without repeated keys the two
agree, and a lookup that succeeded keeps its value when the list grows. -/

namespace RatchetingInquiry

section
variable {α κ : Type} [DecidableEq κ]

/-- The last record of `records` whose key is `k`. -/
def indexBy (key : α → κ) (records : List α) (k : κ) : Option α :=
  records.foldl (fun last record => if key record = k then some record else last) none

theorem foldl_index_eq (key : α → κ) (records : List α) (k : κ) (start : Option α) :
    records.foldl (fun last record => if key record = k then some record else last) start =
      (indexBy key records k).or start := by
  unfold indexBy
  induction records generalizing start with
  | nil => simp
  | cons record rest ih =>
    simp only [List.foldl_cons]
    rw [ih, ih (if key record = k then some record else none)]
    split <;> cases List.foldl (fun last record => if key record = k then some record else last) none rest <;> simp

@[simp] theorem indexBy_nil (key : α → κ) (k : κ) : indexBy key [] k = none := rfl

theorem indexBy_cons (key : α → κ) (record : α) (rest : List α) (k : κ) :
    indexBy key (record :: rest) k =
      (indexBy key rest k).or (if key record = k then some record else none) := by
  conv_lhs => unfold indexBy
  rw [List.foldl_cons, foldl_index_eq]

/-- The record that was added last answers for its key. -/
theorem indexBy_append_singleton (key : α → κ) (records : List α) (record : α) (k : κ) :
    indexBy key (records ++ [record]) k = if key record = k then some record else indexBy key records k := by
  simp only [indexBy, List.foldl_append, List.foldl_cons, List.foldl_nil]

theorem indexBy_some {key : α → κ} {records : List α} {k : κ} {record : α}
    (hit : indexBy key records k = some record) : record ∈ records ∧ key record = k := by
  induction records with
  | nil => simp at hit
  | cons first rest ih =>
    rw [indexBy_cons, Option.or_eq_some_iff] at hit
    rcases hit with later | ⟨-, here⟩
    · exact ⟨List.mem_cons_of_mem _ (ih later).1, (ih later).2⟩
    · split at here
      next same => simp_all
      next => simp at here

theorem indexBy_isSome_iff {key : α → κ} {records : List α} {k : κ} :
    (indexBy key records k).isSome ↔ k ∈ records.map key := by
  induction records with
  | nil => simp
  | cons first rest ih =>
    rw [indexBy_cons, List.map_cons, List.mem_cons, ← ih]
    by_cases same : key first = k
    · simp [same]
    · simp [same, Ne.symm same]

theorem indexBy_eq_none_iff {key : α → κ} {records : List α} {k : κ} :
    indexBy key records k = none ↔ k ∉ records.map key := by
  rw [← indexBy_isSome_iff, Option.not_isSome_iff_eq_none]

/-- Without repeated keys the record itself is found under its key. -/
theorem indexBy_of_mem {key : α → κ} {records : List α} (distinct : (records.map key).Nodup)
    {record : α} (member : record ∈ records) : indexBy key records (key record) = some record := by
  have present : (indexBy key records (key record)).isSome :=
    indexBy_isSome_iff.mpr (List.mem_map_of_mem member)
  obtain ⟨other, hit⟩ := Option.isSome_iff_exists.mp present
  obtain ⟨owned, same⟩ := indexBy_some hit
  rw [hit, List.inj_on_of_nodup_map distinct owned member same]

theorem find_of_mem {key : α → κ} {records : List α} (distinct : (records.map key).Nodup)
    {record : α} (member : record ∈ records) :
    records.find? (fun item => key item = key record) = some record := by
  have present : (records.find? (fun item => key item = key record)).isSome := by
    rw [List.find?_isSome]
    exact ⟨record, member, by simp⟩
  obtain ⟨other, hit⟩ := Option.isSome_iff_exists.mp present
  have same : key other = key record := by simpa using List.find?_some hit
  rw [hit, List.inj_on_of_nodup_map distinct (List.mem_of_find?_eq_some hit) member same]

theorem find_eq_none_iff {key : α → κ} {records : List α} {k : κ} :
    records.find? (fun item => key item = k) = none ↔ k ∉ records.map key := by
  rw [List.find?_eq_none, List.mem_map]
  constructor
  · rintro absent ⟨record, member, same⟩
    exact absent record member (by simpa using same)
  · intro absent record member same
    exact absent ⟨record, member, by simpa using same⟩

theorem indexBy_eq_find {key : α → κ} {records : List α} (distinct : (records.map key).Nodup) (k : κ) :
    indexBy key records k = records.find? (fun item => key item = k) := by
  cases hit : indexBy key records k with
  | some record =>
    obtain ⟨member, same⟩ := indexBy_some hit
    rw [← same, find_of_mem distinct member]
  | none =>
    rw [find_eq_none_iff.mpr (indexBy_eq_none_iff.mp hit)]

/-- A lookup keeps its value when a list without repeated keys grew out of the one it was made in. -/
theorem indexBy_grown {key : α → κ} {earlier later : List α} (grown : earlier <+: later)
    (distinct : (later.map key).Nodup) {k : κ} {record : α} (hit : indexBy key earlier k = some record) :
    indexBy key later k = some record := by
  obtain ⟨member, same⟩ := indexBy_some hit
  rw [← same]
  exact indexBy_of_mem distinct (grown.subset member)

/-- Looking up several keys gives the same records when more records come. -/
theorem mapM_indexBy_grown {key : α → κ} {earlier later : List α} (grown : earlier <+: later)
    (distinct : (later.map key).Nodup) {keys : List κ} {records : List α}
    (looked : keys.mapM (indexBy key earlier) = some records) : keys.mapM (indexBy key later) = some records := by
  induction keys generalizing records with
  | nil => simpa using looked
  | cons first rest ih =>
    simp only [List.mapM_cons, Option.bind_eq_bind, Option.bind_eq_some_iff] at looked ⊢
    obtain ⟨record, hit, others, later, joined⟩ := looked
    exact ⟨record, indexBy_grown grown distinct hit, others, ih later, joined⟩

omit [DecidableEq κ] in
/-- Keys are different when they are within each class of records, and a key tells the class. -/
theorem nodup_map_of_classes {γ : Type} [DecidableEq γ] {key : α → κ} (classOf : α → γ) {records : List α}
    (tells : ∀ first second, key first = key second → classOf first = classOf second)
    (distinct : ∀ kind, ((records.filter (fun record => classOf record = kind)).map key).Nodup) :
    (records.map key).Nodup := by
  induction records with
  | nil => exact List.nodup_nil
  | cons first rest ih =>
    rw [List.map_cons, List.nodup_cons]
    refine ⟨?_, ih fun kind => ?_⟩
    · intro again
      obtain ⟨second, member, same⟩ := List.mem_map.mp again
      have here := distinct (classOf first)
      rw [List.filter_cons_of_pos (by simp), List.map_cons, List.nodup_cons] at here
      have inside : second ∈ rest.filter (fun record => classOf record = classOf first) :=
        List.mem_filter.mpr ⟨member, by simp [tells second first same]⟩
      exact here.1 (List.mem_map.mpr ⟨second, inside, same⟩)
    · exact (distinct kind).sublist (((List.sublist_cons_self first rest).filter _).map key)

omit [DecidableEq κ] in
/-- A loop that puts every item with a new key behind the earlier ones keeps items with different keys. -/
theorem foldlM_keeps_fresh {ε : Type} {key : α → κ} {collect : List α → α → Except ε (List α)}
    (keeps : ∀ seen item, key item ∉ seen.map key → collect seen item = .ok (seen ++ [item])) {seen items : List α}
    (distinct : ((seen ++ items).map key).Nodup) : items.foldlM collect seen = .ok (seen ++ items) := by
  induction items generalizing seen with
  | nil => simp [pure, Except.pure]
  | cons item rest ih =>
    have unseen : key item ∉ seen.map key := by
      rw [List.map_append, List.map_cons] at distinct
      exact fun again => List.disjoint_of_nodup_append distinct again List.mem_cons_self
    have rest := @ih (seen ++ [item]) (by simpa using distinct)
    rw [List.append_assoc] at rest
    rw [List.foldlM_cons, keeps seen item unseen]
    exact rest

/-- Records are found under the same key after a value that depends on the record alone was put beside the key. -/
theorem indexBy_map_pair {β : Type} (key : α → κ) (value : α → β) (records : List α) (k : κ) :
    indexBy Prod.fst (records.map (fun record => (key record, value record))) k =
      (indexBy key records k).map (fun record => (key record, value record)) := by
  induction records with
  | nil => rfl
  | cons first rest ih =>
    rw [List.map_cons, indexBy_cons, indexBy_cons, ih]
    cases indexBy key rest k with
    | some record => simp
    | none =>
      by_cases same : key first = k
      · simp [same]
      · simp [same]

/-- The items whose key is neither known nor the key of an earlier item. -/
def freshBy (key : α → κ) : List κ → List α → List α
  | _, [] => []
  | known, item :: rest =>
    if key item ∈ known then freshBy key known rest else item :: freshBy key (key item :: known) rest

/-- An item with an unknown key is kept, or an earlier one with its key is. -/
theorem freshBy_covers {key : α → κ} {known : List κ} {items : List α} {item : α} (member : item ∈ items) :
    key item ∈ known ∨ ∃ kept ∈ freshBy key known items, key kept = key item := by
  induction items generalizing known with
  | nil => simp at member
  | cons first rest ih =>
    unfold freshBy
    rcases List.mem_cons.mp member with rfl | later
    · split
      next known => exact .inl known
      next => exact .inr ⟨item, List.mem_cons_self, rfl⟩
    · split
      next => exact ih later
      next =>
        have found := @ih (key first :: known) later
        rcases found with hit | ⟨kept, owned, same⟩
        · rcases List.mem_cons.mp hit with same | earlier
          · exact .inr ⟨first, List.mem_cons_self, same.symm⟩
          · exact .inl earlier
        · exact .inr ⟨kept, List.mem_cons_of_mem _ owned, same⟩

theorem freshBy_subset {key : α → κ} {known : List κ} {items : List α} : freshBy key known items ⊆ items := by
  induction items generalizing known with
  | nil => simp [freshBy]
  | cons first rest ih =>
    unfold freshBy
    split
    next => exact List.subset_cons_of_subset _ ih
    next => exact List.cons_subset_cons _ ih

/-- The kept keys are new and pairwise different. -/
theorem freshBy_nodup {key : α → κ} {known : List κ} {items : List α} :
    ((freshBy key known items).map key).Nodup ∧ ∀ item ∈ freshBy key known items, key item ∉ known := by
  induction items generalizing known with
  | nil => simp [freshBy]
  | cons first rest ih =>
    unfold freshBy
    split
    next => exact ih
    next new =>
      obtain ⟨distinct, fresh⟩ := @ih (key first :: known)
      refine ⟨?_, ?_⟩
      · rw [List.map_cons, List.nodup_cons]
        refine ⟨?_, distinct⟩
        intro again
        obtain ⟨item, kept, same⟩ := List.mem_map.mp again
        exact fresh item kept (same ▸ List.mem_cons_self)
      · intro item kept
        rcases List.mem_cons.mp kept with rfl | later
        · exact new
        · exact fun earlier => fresh item later (List.mem_cons_of_mem _ earlier)

theorem freshBy_head {key : α → κ} {known : List κ} {item : α} {rest : List α} (fresh : key item ∉ known) :
    item ∈ freshBy key known (item :: rest) := by
  unfold freshBy
  rw [if_neg fresh]
  exact List.mem_cons_self

end

end RatchetingInquiry
