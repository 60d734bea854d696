import RatchetingInquiry.Library.Index

/-! Tables: lists of records under distinct keys, as a dictionary keeps them. Putting a record replaces the one
under its key where it stands, or adds the record at the end. -/

namespace RatchetingInquiry

section
variable {α κ : Type} [DecidableEq κ] {key : α → κ} {records : List α} {record : α}

/-- Put `record` under its key. -/
def upsert (key : α → κ) (records : List α) (record : α) : List α :=
  if key record ∈ records.map key then records.map (fun prior => if key prior = key record then record else prior)
  else records ++ [record]

theorem map_upsert : (upsert key records record).map key =
    if key record ∈ records.map key then records.map key else records.map key ++ [key record] := by
  unfold upsert
  split
  next =>
    rw [List.map_map]
    apply List.map_congr_left
    intro prior _
    rw [Function.comp_apply]
    split
    next same => exact same.symm
    next => rfl
  next => rw [List.map_append, List.map_singleton]

theorem mem_map_upsert {k : κ} : k ∈ (upsert key records record).map key ↔ k = key record ∨ k ∈ records.map key := by
  rw [map_upsert]
  split
  next known =>
    constructor
    · exact .inr
    · intro owned
      rcases owned with same | owned
      · rw [same]
        exact known
      · exact owned
  next => rw [List.mem_append, List.mem_singleton, or_comm]

theorem upsert_nodup (distinct : (records.map key).Nodup) : ((upsert key records record).map key).Nodup := by
  rw [map_upsert]
  split
  next => exact distinct
  next unknown =>
    rw [List.nodup_append]
    refine ⟨distinct, List.nodup_singleton _, ?_⟩
    intro first owned second single
    rw [List.mem_singleton.mp single]
    exact fun same => unknown (same ▸ owned)

/-- The record is in the table, and those under other keys are. -/
theorem mem_upsert {other : α} :
    other ∈ upsert key records record ↔ other = record ∨ (other ∈ records ∧ key other ≠ key record) := by
  unfold upsert
  split
  next known =>
    rw [List.mem_map]
    constructor
    · intro ⟨prior, owned, placed⟩
      split at placed
      next => exact .inl placed.symm
      next differs => exact .inr ⟨placed ▸ owned, placed ▸ differs⟩
    · intro inside
      rcases inside with same | ⟨owned, differs⟩
      · obtain ⟨prior, owned, keyed⟩ := List.mem_map.mp known
        exact ⟨prior, owned, by rw [if_pos keyed, same]⟩
      · exact ⟨other, owned, if_neg differs⟩
  next unknown =>
    rw [List.mem_append, List.mem_singleton]
    constructor
    · intro inside
      rcases inside with owned | same
      · exact .inr ⟨owned, fun keyed => unknown (keyed ▸ List.mem_map_of_mem owned)⟩
      · exact .inl same
    · intro inside
      rcases inside with same | ⟨owned, _⟩
      · exact .inr same
      · exact .inl owned

theorem indexBy_upsert (distinct : (records.map key).Nodup) (k : κ) :
    indexBy key (upsert key records record) k = if key record = k then some record else indexBy key records k := by
  have inside : record ∈ upsert key records record := mem_upsert.mpr (.inl rfl)
  split
  next same =>
    rw [← same]
    exact indexBy_of_mem (upsert_nodup distinct) inside
  next differs =>
    cases hit : indexBy key records k with
    | some prior =>
      obtain ⟨owned, keyed⟩ := indexBy_some hit
      have kept : prior ∈ upsert key records record :=
        mem_upsert.mpr (.inr ⟨owned, fun same => differs (same.symm.trans keyed)⟩)
      rw [← keyed]
      exact indexBy_of_mem (upsert_nodup distinct) kept
    | none =>
      rw [indexBy_eq_none_iff, mem_map_upsert]
      intro owned
      rcases owned with same | owned
      · exact differs same.symm
      · exact indexBy_eq_none_iff.mp hit owned

/-- Of two records put under one key the later one stays. -/
theorem upsert_upsert {later : α} (same : key later = key record) :
    upsert key (upsert key records record) later = upsert key records later := by
  have known : key later ∈ (upsert key records record).map key := mem_map_upsert.mpr (.inl same)
  rw [upsert, if_pos known]
  unfold upsert
  rw [same]
  split
  next =>
    rw [List.map_map]
    apply List.map_congr_left
    intro prior _
    rw [Function.comp_apply]
    by_cases keyed : key prior = key record
    · rw [if_pos keyed, if_pos keyed, if_pos rfl]
    · rw [if_neg keyed, if_neg keyed]
  next unknown =>
    have kept : records.map (fun prior => if key prior = key record then later else prior) = records.map id := by
      apply List.map_congr_left
      intro prior owned
      have differs : key prior ≠ key record := fun keyed => unknown (keyed ▸ List.mem_map_of_mem owned)
      exact if_neg differs
    rw [List.map_append, List.map_singleton, if_pos rfl, kept, List.map_id]

end

end RatchetingInquiry
