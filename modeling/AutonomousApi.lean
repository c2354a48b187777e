import AutonomousApi.CloudAudit
import AutonomousApi.PolicySets
import AutonomousApi.EmittedLabels
import AutonomousApi.CompilationOrder
import AutonomousApi.Transitions
import AutonomousApi.FieldAgreement
import AutonomousApi.OutboxDelivery
import AutonomousApi.ObservationConsistency
import AutonomousApi.ProjectionRuns
import AutonomousApi.ReducerAgreement
import AutonomousApi.RuntimeControlLaws
import AutonomousApi.LedgerPersistence
import AutonomousApi.LedgerReferences
import AutonomousApi.MaterializedGraph
import AutonomousApi.GenesisLaws
import AutonomousApi.ControlPlaneLease
import AutonomousApi.EvidenceChain
import AutonomousApi.Authentication
import AutonomousApi.WorkspaceAccess
import AutonomousApi.CampaignTermination
import AutonomousApi.ReferenceAgreement
import AutonomousApi.SelfGovernance
import AutonomousApi.GeneLocality
import AutonomousApi.PolicyStrictness
import AutonomousApi.ApprovalBinding
import AutonomousApi.QuorumWeight
import AutonomousApi.PromotionGovernance
import AutonomousApi.HealthRecovery
import AutonomousApi.SettlementOnce
import AutonomousApi.SettlementNet
import AutonomousApi.Conservation
import AutonomousApi.WebhookOnce
import AutonomousApi.VersionRuns
import AutonomousApi.WorkScope
import AutonomousApi.AuthorizationRuntime
import AutonomousApi.EffectLedger
import AutonomousApi.Conformance
import AutonomousApi.FieldResolution
import AutonomousApi.ParetoOrder
import AutonomousApi.Recombination
import AutonomousApi.RefundOutcomes
import AutonomousApi.LedgerConfluence
import AutonomousApi.BalanceRounding
import AutonomousApi.MismatchRecurrence
import AutonomousApi.PatchHandlers
import AutonomousApi.HeaderRefusals
import AutonomousApi.ArtifactImpact
import AutonomousApi.RateLimiting
import AutonomousApi.ParetoArchitecture
import AutonomousApi.Voting
import AutonomousApi.GatewayPublishing
import AutonomousApi.WorkspaceUpdates
import AutonomousApi.CommandSecrecy
import AutonomousApi.PromptCompilation
import AutonomousApi.GraphTraversal
import AutonomousApi.GraphSearch
import AutonomousApi.MigrationOrder
import AutonomousApi.GraphOperations
