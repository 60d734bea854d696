import RatchetingInquiry.Formal.Ast
import RatchetingInquiry.Library.Cartesian
import RatchetingInquiry.Library.Index

/-! Finite universes and their assignments. -/

namespace RatchetingInquiry

structure AssignmentValue where
  symbol : String
  value : Scalar
deriving DecidableEq

structure Assignment where
  values : List AssignmentValue
deriving DecidableEq

def Assignment.asEnvironment (assignment : Assignment) : Environment :=
  fun symbol => (indexBy AssignmentValue.symbol assignment.values symbol).map (·.value)

/-- The values of one symbol, all Boolean or all strings. -/
structure FiniteDomain where
  symbol : String
  values : List Scalar
  symbol_given : symbol ≠ "" := by decide
  values_given : values ≠ [] := by decide
  values_distinct : values.Nodup := by decide
  values_uniform : (∀ value ∈ values, value.sort = .boolean) ∨ (∀ value ∈ values, value.sort = .enum) := by decide
deriving DecidableEq

/-- The domains stand in the order of their symbols. -/
structure FiniteUniverse where
  id : String
  revision : String
  domains : List FiniteDomain
  closedWorld : Bool
  id_given : id ≠ "" := by decide
  revision_given : revision ≠ "" := by decide
  domains_given : domains ≠ [] := by decide
  symbols_ordered : (domains.map (·.symbol)).Pairwise (· < ·) := by decide
deriving DecidableEq

def FiniteUniverse.assignmentCount (finiteUniverse : FiniteUniverse) : Nat :=
  (finiteUniverse.domains.map (·.values.length)).prod

/-- One value for each domain, in the order of the domains. -/
def assignmentOf (domains : List FiniteDomain) (row : List Scalar) : Assignment where
  values := List.zipWith (fun domain value => { symbol := domain.symbol, value := value }) domains row

def enumerateAssignments (finiteUniverse : FiniteUniverse) : List Assignment :=
  (cartesian (finiteUniverse.domains.map (·.values))).map (assignmentOf finiteUniverse.domains)

/-- The assignment gives each domain, in order, one of its values. -/
def FiniteUniverse.Assigns (finiteUniverse : FiniteUniverse) (assignment : Assignment) : Prop :=
  List.Forall₂ (fun (domain : FiniteDomain) (item : AssignmentValue) =>
    item.symbol = domain.symbol ∧ item.value ∈ domain.values) finiteUniverse.domains assignment.values

def FiniteDomain.sort (domain : FiniteDomain) : ScalarSort :=
  if domain.values.all (fun value => value.sort = .boolean) then .boolean else .enum

/-- The dictionary of the domains by their symbols. -/
def domainBySymbol (finiteUniverse : FiniteUniverse) : String → Option FiniteDomain :=
  indexBy FiniteDomain.symbol finiteUniverse.domains

/-- The sort that the universe gives to a symbol. -/
def FiniteUniverse.sorts (finiteUniverse : FiniteUniverse) : String → Option ScalarSort :=
  fun symbol => (domainBySymbol finiteUniverse symbol).map FiniteDomain.sort

theorem FiniteDomain.sort_of_mem {domain : FiniteDomain} {value : Scalar} (member : value ∈ domain.values) :
    value.sort = domain.sort := by
  unfold FiniteDomain.sort
  rcases domain.values_uniform with boolean | enum
  · rw [boolean value member, if_pos]
    simpa using boolean
  · rw [enum value member, if_neg]
    intro all
    have sort : value.sort = .boolean := by simpa using List.all_eq_true.mp all value member
    rw [enum value member] at sort
    contradiction

theorem forall₂_assignmentOf {domains : List FiniteDomain} {items : List AssignmentValue} :
    List.Forall₂ (fun (domain : FiniteDomain) (item : AssignmentValue) =>
        item.symbol = domain.symbol ∧ item.value ∈ domain.values) domains items ↔
      ∃ row ∈ cartesian (domains.map (·.values)), (assignmentOf domains row).values = items := by
  simp only [mem_cartesian, List.forall₂_map_right_iff]
  induction domains generalizing items with
  | nil => simp [assignmentOf, eq_comm]
  | cons domain rest ih =>
    rw [List.forall₂_cons_left_iff]
    simp only [List.forall₂_cons_right_iff]
    constructor
    · intro ⟨item, others, ⟨named, member⟩, later, same⟩
      obtain ⟨row, chosen, built⟩ := ih.mp later
      refine ⟨item.value :: row, ⟨item.value, row, member, chosen, rfl⟩, ?_⟩
      subst same built
      cases item
      subst named
      rfl
    · intro ⟨_, ⟨value, row, member, chosen, rfl⟩, built⟩
      exact ⟨⟨domain.symbol, value⟩, (assignmentOf rest row).values, ⟨rfl, member⟩, ih.mpr ⟨row, chosen, rfl⟩, built.symm⟩

section
variable {finiteUniverse : FiniteUniverse}

theorem mem_enumerateAssignments {assignment : Assignment} :
    assignment ∈ enumerateAssignments finiteUniverse ↔ finiteUniverse.Assigns assignment := by
  unfold enumerateAssignments FiniteUniverse.Assigns
  rw [List.mem_map, forall₂_assignmentOf]
  cases assignment
  simp [assignmentOf]

theorem length_enumerateAssignments : (enumerateAssignments finiteUniverse).length = finiteUniverse.assignmentCount := by
  unfold enumerateAssignments FiniteUniverse.assignmentCount
  rw [List.length_map, length_cartesian, List.map_map]
  rfl

/-- An assignment binds each symbol at its sort. -/
theorem FiniteUniverse.Assigns.sorts {assignment : Assignment} (assigns : finiteUniverse.Assigns assignment) :
    (fun symbol => (assignment.asEnvironment symbol).map Scalar.sort) = finiteUniverse.sorts := by
  funext symbol
  unfold Assignment.asEnvironment FiniteUniverse.sorts domainBySymbol
  unfold FiniteUniverse.Assigns at assigns
  generalize assignment.values = items at assigns
  generalize finiteUniverse.domains = domains at assigns
  rw [Option.map_map]
  induction assigns with
  | nil => rfl
  | @cons domain item rest others first _ ih =>
    obtain ⟨named, member⟩ := first
    rw [indexBy_cons, indexBy_cons, Option.map_or, Option.map_or, ih, named]
    split
    · simp [FiniteDomain.sort_of_mem member]
    · rfl

theorem evaluate_assigned {formula : Formula} {assignment : Assignment}
    (sorted : formula.WellSorted finiteUniverse.sorts) (assigns : finiteUniverse.Assigns assignment) :
    ∃ value, evaluate formula assignment.asEnvironment = .ok value ∧
      (value = true ↔ formula.Holds assignment.asEnvironment) := by
  apply evaluate_holds
  rw [assigns.sorts]
  exact sorted

end

end RatchetingInquiry
