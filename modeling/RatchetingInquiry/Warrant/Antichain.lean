import Mathlib.Data.List.Lex
import Mathlib.Data.Prod.Lex
import Mathlib.Data.String.Basic
import RatchetingInquiry.Library.Minimal
import RatchetingInquiry.Library.Sorting
import RatchetingInquiry.Warrant.Policy

/-! The canonical partition of support routes. Routes are ordered by the size of the environment, then by
its assumptions, then by identity; a route is minimal unless an earlier environment is contained in its
own. On routes with distinct identities the order is total, so the partition does not depend on the order
in which the routes were given. -/

namespace RatchetingInquiry

/-- The environment of the left route is contained in the environment of the right one. -/
def SupportRoute.within (left right : SupportRoute) : Bool :=
  left.environment.assumptionIds ⊆ right.environment.assumptionIds

theorem splitMinimal_eq (routes : List SupportRoute) : splitMinimal routes = minimalSplit SupportRoute.within routes :=
  rfl

theorem SupportRoute.within_refl (route : SupportRoute) : route.within route = true := by
  simp [SupportRoute.within]

theorem SupportRoute.within_trans {first second third : SupportRoute} (lower : first.within second = true)
    (upper : second.within third = true) : first.within third = true := by
  simp only [SupportRoute.within, decide_eq_true_eq] at lower upper ⊢
  exact List.Subset.trans lower upper

/-- What the source sorts routes by. -/
def SupportRoute.sortKey (route : SupportRoute) : ℕ ×ₗ List String ×ₗ String :=
  toLex (route.environment.assumptionIds.length, toLex (route.environment.assumptionIds, route.id))

theorem SupportRoute.before_iff {left right : SupportRoute} : left.before right ↔ left.sortKey < right.sortKey := by
  unfold SupportRoute.before SupportRoute.sortKey
  rw [Prod.Lex.toLex_lt_toLex, Prod.Lex.toLex_lt_toLex]

theorem SupportRoute.not_before_iff {left right : SupportRoute} :
    ¬ right.before left ↔ left.sortKey ≤ right.sortKey := by
  rw [SupportRoute.before_iff, not_lt]

/-- Routes with one sort key have one identity. -/
theorem SupportRoute.id_of_sortKey {left right : SupportRoute} (same : left.sortKey = right.sortKey) :
    left.id = right.id :=
  congrArg (fun key => (ofLex (ofLex key).2).2) same

/-- An environment inside a later one is a smaller set, or the same one. -/
theorem SupportRoute.within_symm {left right : SupportRoute} (inside : right.within left = true)
    (ordered : left.sortKey ≤ right.sortKey) : left.within right = true := by
  simp only [SupportRoute.within, decide_eq_true_eq] at inside ⊢
  have size : left.environment.assumptionIds.length ≤ right.environment.assumptionIds.length := by
    have lex := Prod.Lex.toLex_le_toLex.mp ordered
    rcases lex with shorter | same
    · exact shorter.le
    · exact same.1.le
  have distinct : right.environment.assumptionIds.Nodup :=
    right.environment.assumptions_canonical.imp (fun smaller => ne_of_lt smaller)
  have subperm := List.subperm_of_subset distinct inside
  exact (subperm.perm_of_length_le size).symm.subset

instance : Std.Total (fun left right : SupportRoute => ¬ right.before left) where
  total left right := by simpa only [SupportRoute.not_before_iff] using le_total left.sortKey right.sortKey

instance : IsTrans SupportRoute (fun left right => ¬ right.before left) where
  trans first second third := by simpa only [SupportRoute.not_before_iff] using le_trans

theorem sortedRoutes_pairwise (routes : List SupportRoute) :
    (sortedRoutes routes).Pairwise (fun left right => left.sortKey ≤ right.sortKey) :=
  (List.pairwise_insertionSort _ routes).imp SupportRoute.not_before_iff.mp

theorem eq_of_mem_of_id {routes : List SupportRoute} (distinct : (routes.map SupportRoute.id).Nodup)
    {left right : SupportRoute} (leftGiven : left ∈ routes) (rightGiven : right ∈ routes) (same : left.id = right.id) :
    left = right :=
  List.inj_on_of_nodup_map distinct leftGiven rightGiven same

/-- With distinct identities the sorted routes are strictly ordered. -/
theorem sortedRoutes_strict {routes : List SupportRoute} (distinct : (routes.map SupportRoute.id).Nodup) :
    (sortedRoutes routes).Pairwise SupportRoute.before := by
  have separate : (sortedRoutes routes).Pairwise (fun left right => left.id ≠ right.id) :=
    List.pairwise_map.mp (((sortedRoutes_perm routes).map SupportRoute.id).nodup_iff.mpr distinct)
  refine (sortedRoutes_pairwise routes).imp₂ ?_ separate
  intro left right ordered different
  rw [SupportRoute.before_iff]
  exact lt_of_le_of_ne ordered (fun same => different (SupportRoute.id_of_sortKey same))

/-- The order of the given routes does not matter. -/
theorem sortedRoutes_eq_of_perm {routes others : List SupportRoute} (same : others.Perm routes)
    (distinct : (routes.map SupportRoute.id).Nodup) : sortedRoutes others = sortedRoutes routes := by
  apply insertionSort_eq_of_perm _ same
  intro left leftGiven right rightGiven lower upper
  rw [SupportRoute.not_before_iff] at lower upper
  exact eq_of_mem_of_id distinct leftGiven rightGiven (SupportRoute.id_of_sortKey (le_antisymm lower upper))

/-- The routes with minimal environments, and the others. -/
abbrev minimalRoutes (routes : List SupportRoute) : List SupportRoute := (splitMinimal (sortedRoutes routes)).1

/-- A route is minimal when no route that sorts before it has an environment inside its own. -/
theorem mem_minimalRoutes {routes : List SupportRoute} (distinct : (routes.map SupportRoute.id).Nodup)
    {route : SupportRoute} : route ∈ minimalRoutes routes ↔
      route ∈ routes ∧ ∀ other ∈ routes, other.before route → other.within route = false := by
  have irrefl : ∀ item : SupportRoute, ¬ item.before item :=
    fun item precedes => lt_irrefl _ (SupportRoute.before_iff.mp precedes)
  have asymm : ∀ {left right : SupportRoute}, left.before right → ¬ right.before left :=
    fun precedes follows => lt_asymm (SupportRoute.before_iff.mp precedes) (SupportRoute.before_iff.mp follows)
  have characterized : route ∈ (minimalSplit SupportRoute.within (sortedRoutes routes)).1 ↔ _ :=
    mem_minimalSplit SupportRoute.within_refl SupportRoute.within_trans SupportRoute.before irrefl asymm
      (sortedRoutes_strict distinct)
  simpa only [minimalRoutes, splitMinimal_eq, (sortedRoutes_perm routes).mem_iff] using characterized

/-- Minimal environments are incomparable. -/
theorem minimalRoutes_incomparable (routes : List SupportRoute) :
    (minimalRoutes routes).Pairwise (fun left right => left.within right = false ∧ right.within left = false) := by
  have ordered : (minimalRoutes routes).Pairwise (fun left right => left.sortKey ≤ right.sortKey) :=
    (sortedRoutes_pairwise routes).sublist (minimalSplit_sublist _ _)
  refine (minimalSplit_pairwise SupportRoute.within (sortedRoutes routes)).imp₂ ?_ ordered
  intro left right apart key
  refine ⟨apart, ?_⟩
  by_contra inside
  rw [SupportRoute.within_symm (by simpa using inside) key] at apart
  simp at apart

end RatchetingInquiry
