import RatchetingInquiry.Claims.Logic
import RatchetingInquiry.Learning.Models
import RatchetingInquiry.Compression.Models
import RatchetingInquiry.Project.Models
import RatchetingInquiry.Backlog.Models
import RatchetingInquiry.Warrant.Checks
import RatchetingInquiry.Library.Saturate
import RatchetingInquiry.Library.Search
import RatchetingInquiry.Warrant.Policy
import RatchetingInquiry.Core.State
import RatchetingInquiry.Memory.References
import RatchetingInquiry.Memory.Retrieval
import RatchetingInquiry.Learning.Policies
import RatchetingInquiry.Memory.Recovery
import RatchetingInquiry.Backlog.Apply
import RatchetingInquiry.Project.Selection
import RatchetingInquiry.Questions.Catalog
import RatchetingInquiry.Questions.Generated
import RatchetingInquiry.Project.GoalSynthesis
import RatchetingInquiry.Core.Commands
import RatchetingInquiry.Core.Decide.Claims
import RatchetingInquiry.Core.Decide.Memory
import RatchetingInquiry.Core.Decide.Learning
import RatchetingInquiry.Core.Decide.Compression
import RatchetingInquiry.Core.Decide.Project
import RatchetingInquiry.Core.Decide
import RatchetingInquiry.Core.Validate.Inquiry
import RatchetingInquiry.Core.Validate.Learning
import RatchetingInquiry.Core.Validate.Memory
import RatchetingInquiry.Core.Validate.Project
import RatchetingInquiry.Core.Validate
import RatchetingInquiry.Core.Apply
import RatchetingInquiry.Core.Evolve
import RatchetingInquiry.Core.Run
import RatchetingInquiry.Core.Growth
import RatchetingInquiry.Invariants.Warrants
import RatchetingInquiry.Invariants.Effects
import RatchetingInquiry.Invariants.SemanticDeltas
import RatchetingInquiry.Core.Rebuild
import RatchetingInquiry.Invariants.Routes
import RatchetingInquiry.Invariants.Theory
import RatchetingInquiry.Invariants.Attacks
import RatchetingInquiry.Invariants.AppendOnly
import RatchetingInquiry.Invariants.Obligations
import RatchetingInquiry.Invariants.Scopes
import RatchetingInquiry.Invariants.Conflicts
import RatchetingInquiry.Invariants.Reconsolidation
import RatchetingInquiry.Invariants.Lawfulness
import RatchetingInquiry.Invariants.Merges
import RatchetingInquiry.Project.Derivation
import RatchetingInquiry.Project.Recompilation
import RatchetingInquiry.Invariants.GoalStability
import RatchetingInquiry.Library.Codec
import RatchetingInquiry.Serialization.Inquiry
import RatchetingInquiry.Serialization.Events
import RatchetingInquiry.Invariants.EventCodec
import RatchetingInquiry.Persistence.Artifacts
import RatchetingInquiry.Serialization.State
import RatchetingInquiry.Persistence.Ledger
import RatchetingInquiry.Persistence.Snapshots
import RatchetingInquiry.Invariants.SnapshotTransparency
import RatchetingInquiry.Persistence.Append
import RatchetingInquiry.Invariants.Origins
import RatchetingInquiry.Invariants.Compression
import RatchetingInquiry.Invariants.Succession
import RatchetingInquiry.Invariants.Predictions
import RatchetingInquiry.Invariants.Probes
import RatchetingInquiry.Invariants.LedgerSafety
import RatchetingInquiry.Invariants.Saga
import RatchetingInquiry.Library.Crash
import RatchetingInquiry.Orchestration.Effects
import RatchetingInquiry.Invariants.Executor
import RatchetingInquiry.Invariants.Resumption
import RatchetingInquiry.Library.Minimal
import RatchetingInquiry.Warrant.Antichain
import RatchetingInquiry.Invariants.Promotions
import RatchetingInquiry.Invariants.ActiveTheory
import RatchetingInquiry.Invariants.Retention
import RatchetingInquiry.Invariants.Retrieval
import RatchetingInquiry.Invariants.Registry
import RatchetingInquiry.Invariants.Identities
import RatchetingInquiry.Invariants.ArgumentOrder
import RatchetingInquiry.Library.Canonical
import RatchetingInquiry.Library.Pareto
import RatchetingInquiry.Memory.CostOrder
import RatchetingInquiry.Memory.Frontiers
import RatchetingInquiry.Memory.Comparisons
import RatchetingInquiry.Project.Frontiers
import RatchetingInquiry.Memory.Matching
import RatchetingInquiry.Library.Cartesian
import RatchetingInquiry.Formal.Ast
import RatchetingInquiry.Formal.Universe
import RatchetingInquiry.Formal.Exhaustive
import RatchetingInquiry.Library.Smt
import RatchetingInquiry.Backends.Z3
import RatchetingInquiry.Backends.Agreement
import RatchetingInquiry.Orchestration.Scheduler
import RatchetingInquiry.Orchestration.Scheduling
import RatchetingInquiry.Library.Clients
import RatchetingInquiry.Library.Pairs
import RatchetingInquiry.Library.Paths
import RatchetingInquiry.Project.MutationRoots
import RatchetingInquiry.Compression.Fixtures
import RatchetingInquiry.Library.Acyclic
import RatchetingInquiry.Library.Components
import RatchetingInquiry.Library.ComponentsExact
import RatchetingInquiry.Warrant.Cycles
import RatchetingInquiry.Sdk.Questions
import RatchetingInquiry.Sdk.Store
import RatchetingInquiry.Sdk.Step
import RatchetingInquiry.Sdk.Satisfaction
import RatchetingInquiry.Learning.Holdout
import RatchetingInquiry.Learning.Fields
import RatchetingInquiry.Library.Tables
import RatchetingInquiry.Backlog.Reconcile
import RatchetingInquiry.Backlog.Trace
import RatchetingInquiry.Backlog.Rounds
import RatchetingInquiry.Backlog.Recurrences
import RatchetingInquiry.Backlog.Ranks
import RatchetingInquiry.Backlog.EffectIdentity
import RatchetingInquiry.Invariants.Consolidation
import RatchetingInquiry.Library.Interference
import RatchetingInquiry.Invariants.Serial
import RatchetingInquiry.Sdk.Start
import RatchetingInquiry.Sdk.Answer
import RatchetingInquiry.Invariants.AnsweredOnce
import RatchetingInquiry.Library.Frontier
import RatchetingInquiry.Bindings.Routes
import RatchetingInquiry.Evaluation.Drain
import RatchetingInquiry.Library.FileTree
import RatchetingInquiry.Evaluation.Workspace
import RatchetingInquiry.Library.TextForms
import RatchetingInquiry.Evaluation.Docker
import RatchetingInquiry.Library.Base64
import RatchetingInquiry.Library.JsonLexemes
import RatchetingInquiry.Library.JsonText
import RatchetingInquiry.Persistence.CanonicalText
import RatchetingInquiry.Orchestration.Content
import RatchetingInquiry.Evaluation.Effects
import RatchetingInquiry.Evaluation.Returns
