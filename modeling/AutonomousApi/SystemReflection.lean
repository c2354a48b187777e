import AutonomousApi.SystemModel

/-! The classes of the representation as `dataclasses.fields` lists them: every field under
its Python name, in the order of the class. -/

namespace AutonomousApi.SystemReflection

open DataclassValues ModuleModel SystemModel

instance : Reflect FieldConstraint := dataclass [
  field "name" (·.name), field "constraint_type" (·.constraintType), field "parameters" (·.parameters),
  field "message" (·.message)] (by decide)

instance : Reflect Field := dataclass [
  field "name" (·.name), field "field_type" (·.fieldType), field "cardinality" (·.cardinality),
  field "description" (·.description), field "default_value" (·.defaultValue), field "constraints" (·.constraints),
  field "enum_values" (·.enumValues), field "reference_target" (·.referenceTarget),
  field "is_primary_key" (·.isPrimaryKey), field "is_indexed" (·.isIndexed), field "metadata" (·.metadata),
  field "abstract_source_type" (·.abstractSourceType)] (by decide)

instance : Reflect Constraint := dataclass [
  field "id" (·.id), field "name" (·.name), field "scope" (·.scope), field "severity" (·.severity),
  field "description" (·.description), field "rule_type" (·.ruleType), field "parameters" (·.parameters),
  field "target_node_ids" (·.targetNodeIds), field "message" (·.message)] (by decide)

instance : Reflect Relationship := dataclass [
  field "target_entity_id" (·.targetEntityId), field "relationship_type" (·.relationshipType),
  field "field_name" (·.fieldName), field "inverse_field_name" (·.inverseFieldName),
  field "cascade_delete" (·.cascadeDelete), field "description" (·.description)] (by decide)

instance : Reflect Entity := dataclass [
  field "id" (·.id), field "name" (·.name), field "description" (·.description), field "fields" (·.fields),
  field "relationships" (·.relationships), field "constraints" (·.constraints),
  field "is_aggregate_root" (·.isAggregateRoot), field "is_value_object" (·.isValueObject),
  field "metadata" (·.metadata), field "owning_service_id" (·.owningServiceId), field "invariants" (·.invariants),
  field "consistency_posture" (·.consistencyPosture)] (by decide)

instance : Reflect Operation := dataclass [
  field "id" (·.id), field "name" (·.name), field "operation_type" (·.operationType),
  field "description" (·.description), field "input_schema" (·.inputSchema), field "output_schema" (·.outputSchema),
  field "is_idempotent" (·.isIdempotent), field "is_public" (·.isPublic),
  field "required_permissions" (·.requiredPermissions), field "metadata" (·.metadata)] (by decide)

instance : Reflect ServiceDependency := dataclass [
  field "target_service_id" (·.targetServiceId), field "dependency_type" (·.dependencyType),
  field "is_required" (·.isRequired), field "description" (·.description)] (by decide)

instance : Reflect Service := dataclass [
  field "id" (·.id), field "name" (·.name), field "description" (·.description), field "operations" (·.operations),
  field "dependencies" (·.dependencies), field "emitted_events" (·.emittedEvents),
  field "consumed_events" (·.consumedEvents), field "is_stateless" (·.isStateless), field "metadata" (·.metadata),
  field "domain_id" (·.domainId), field "responsibility_refs" (·.responsibilityRefs),
  field "exposed_capability_refs" (·.exposedCapabilityRefs),
  field "communication_styles" (·.communicationStyles)] (by decide)

instance : Reflect WorkflowState := dataclass [
  field "id" (·.id), field "name" (·.name), field "state_type" (·.stateType), field "description" (·.description),
  field "entry_actions" (·.entryActions), field "exit_actions" (·.exitActions), field "metadata" (·.metadata)]
  (by decide)

instance : Reflect WorkflowTransition := dataclass [
  field "id" (·.id), field "name" (·.name), field "from_state_id" (·.fromStateId), field "to_state_id" (·.toStateId),
  field "trigger" (·.trigger), field "guard_condition" (·.guardCondition), field "actions" (·.actions),
  field "description" (·.description), field "metadata" (·.metadata)] (by decide)

instance : Reflect Workflow := dataclass [
  field "id" (·.id), field "name" (·.name), field "description" (·.description), field "states" (·.states),
  field "transitions" (·.transitions), field "metadata" (·.metadata)] (by decide)

instance : Reflect PolicyRule := dataclass [
  field "id" (·.id), field "name" (·.name), field "description" (·.description), field "rule_type" (·.ruleType),
  field "parameters" (·.parameters), field "priority" (·.priority)] (by decide)

instance : Reflect Permission := dataclass [
  field "id" (·.id), field "name" (·.name), field "description" (·.description), field "resource" (·.resource),
  field "actions" (·.actions), field "conditions" (·.conditions)] (by decide)

instance : Reflect Policy := dataclass [
  field "id" (·.id), field "name" (·.name), field "policy_type" (·.policyType), field "description" (·.description),
  field "strategy" (·.strategy), field "roles" (·.roles), field "rules" (·.rules),
  field "permissions" (·.permissions), field "metadata" (·.metadata)] (by decide)

instance : Reflect Endpoint := dataclass [
  field "id" (·.id), field "name" (·.name), field "path" (·.path), field "method" (·.method),
  field "description" (·.description), field "input_schema" (·.inputSchema), field "output_schema" (·.outputSchema),
  field "required_permissions" (·.requiredPermissions), field "is_public" (·.isPublic),
  field "rate_limit" (·.rateLimit), field "metadata" (·.metadata)] (by decide)

instance : Reflect Interface := dataclass [
  field "id" (·.id), field "name" (·.name), field "interface_type" (·.interfaceType),
  field "description" (·.description), field "version" (·.version), field "endpoints" (·.endpoints),
  field "secured_by_policy_id" (·.securedByPolicyId), field "is_internal" (·.isInternal),
  field "metadata" (·.metadata)] (by decide)

instance : Reflect Event := dataclass [
  field "id" (·.id), field "name" (·.name), field "description" (·.description), field "schema" (·.schema),
  field "pattern" (·.pattern), field "guarantee" (·.guarantee), field "ordering_required" (·.orderingRequired),
  field "ttl_seconds" (·.ttlSeconds), field "metadata" (·.metadata),
  field "ordering_semantics" (·.orderingSemantics), field "producer_service_id" (·.producerServiceId),
  field "consumer_service_ids" (·.consumerServiceIds), field "payload_model_id" (·.payloadModelId)] (by decide)

instance : Reflect Component := dataclass [
  field "component_id" (·.componentId), field "service_id" (·.serviceId), field "name" (·.name),
  field "responsibility" (·.responsibility), field "kind" (·.kind)] (by decide)

instance : Reflect ApiOperationContract := dataclass [
  field "name" (·.name), field "description" (·.description), field "semantics" (·.semantics),
  field "idempotent" (·.idempotent)] (by decide)

instance : Reflect ApiContract := dataclass [
  field "api_id" (·.apiId), field "name" (·.name), field "provider_service_id" (·.providerServiceId),
  field "consumer_service_ids" (·.consumerServiceIds), field "interaction_style" (·.interactionStyle),
  field "operations" (·.operations)] (by decide)

instance : Reflect ScalingConfig := dataclass [
  field "strategy" (·.strategy), field "min_instances" (·.minInstances), field "max_instances" (·.maxInstances),
  field "target_cpu_percent" (·.targetCpuPercent), field "target_memory_percent" (·.targetMemoryPercent)]
  (by decide)

instance : Reflect NetworkingConfig := dataclass [
  field "expose_publicly" (·.exposePublicly), field "internal_dns" (·.internalDns),
  field "tls_required" (·.tlsRequired), field "allowed_origins" (·.allowedOrigins), field "port" (·.port)]
  (by decide)

instance : Reflect MonitoringConfig := dataclass [
  field "health_check_path" (·.healthCheckPath), field "readiness_check_path" (·.readinessCheckPath),
  field "metrics_enabled" (·.metricsEnabled), field "tracing_enabled" (·.tracingEnabled),
  field "structured_logging" (·.structuredLogging), field "alert_rules" (·.alertRules)] (by decide)

instance : Reflect StorageConfig := dataclass [
  field "persistent_storage_required" (·.persistentStorageRequired), field "storage_size_gb" (·.storageSizeGb),
  field "backup_enabled" (·.backupEnabled), field "encryption_at_rest" (·.encryptionAtRest)] (by decide)

instance : Reflect SecretsConfig := dataclass [
  field "secrets" (·.secrets), field "rotation_policy_days" (·.rotationPolicyDays),
  field "encryption_in_transit" (·.encryptionInTransit)] (by decide)

instance : Reflect Deployment := dataclass [
  field "id" (·.id), field "name" (·.name), field "description" (·.description), field "environment" (·.environment),
  field "scaling" (·.scaling), field "networking" (·.networking), field "monitoring" (·.monitoring),
  field "storage" (·.storage), field "secrets" (·.secrets), field "metadata" (·.metadata)] (by decide)

instance : Reflect TemporalConstraint := dataclass [
  field "constraint_id" (·.constraintId), field "kind" (·.kind), field "target_ref" (·.targetRef),
  field "duration_ms" (·.durationMs), field "reference_ref" (·.referenceRef)] (by decide)

instance : Reflect DataMigrationIntent := dataclass [
  field "migration_id" (·.migrationId), field "source_schema_ref" (·.sourceSchemaRef),
  field "target_schema_ref" (·.targetSchemaRef), field "compatibility_policy" (·.compatibilityPolicy),
  field "preservation_refs" (·.preservationRefs), field "depends_on" (·.dependsOn),
  field "rollback_required" (·.rollbackRequired), field "rollback_target_ref" (·.rollbackTargetRef),
  field "rollback_invariants" (·.rollbackInvariants), field "postconditions" (·.postconditions)] (by decide)

instance : Reflect BusinessCapability := dataclass [
  field "capability_id" (·.capabilityId), field "intent" (·.intent), field "behavior_refs" (·.behaviorRefs),
  field "interface_refs" (·.interfaceRefs), field "constraint_refs" (·.constraintRefs),
  field "requirement_refs" (·.requirementRefs), field "name" (·.name), field "description" (·.description),
  field "criticality" (·.criticality), field "priority" (·.priority)] (by decide)

instance : Reflect RequirementGraphReference := dataclass [
  field "graph_id" (·.graphId), field "graph_sha256" (·.graphSha256), field "source_sha256" (·.sourceSha256),
  field "projection_complete" (·.projectionComplete), field "projection_blockers" (·.projectionBlockers)]
  (by decide)

instance : Reflect RequirementSourceMetadata := dataclass [
  field "requirement_id" (·.requirementId), field "source_kind" (·.sourceKind), field "priority" (·.priority),
  field "acceptance_criteria" (·.acceptanceCriteria), field "verification_method" (·.verificationMethod),
  field "rationale" (·.rationale), field "provenance_source" (·.provenanceSource),
  field "taxonomy_version" (·.taxonomyVersion), field "stratum" (·.stratum), field "seed" (·.seed),
  field "created_by" (·.createdBy)] (by decide)

instance : Reflect RequirementRelation := dataclass [
  field "source_requirement_id" (·.sourceRequirementId), field "target_requirement_id" (·.targetRequirementId),
  field "kind" (·.kind), field "rationale" (·.rationale)] (by decide)

instance : Reflect AcceptanceCriterion := dataclass [
  field "criterion_id" (·.criterionId), field "obligation" (·.obligation), field "kind" (·.kind),
  field "subject_refs" (·.subjectRefs)] (by decide)

instance : Reflect Requirement := dataclass [
  field "requirement_id" (·.requirementId), field "statement" (·.statement), field "target_refs" (·.targetRefs),
  field "acceptance_refs" (·.acceptanceRefs), field "constraint_refs" (·.constraintRefs)] (by decide)

instance : Reflect RecoveryObjective := dataclass [
  field "failure_mode" (·.failureMode), field "required_behavior" (·.requiredBehavior),
  field "max_recovery_duration_ms" (·.maxRecoveryDurationMs),
  field "max_data_loss_tolerance" (·.maxDataLossTolerance)] (by decide)

instance : Reflect ReliabilityRequirement := dataclass [
  field "requirement_id" (·.requirementId), field "target_refs" (·.targetRefs),
  field "failure_modes" (·.failureModes), field "recovery_objectives" (·.recoveryObjectives),
  field "degradation_policy" (·.degradationPolicy), field "preservation_invariants" (·.preservationInvariants),
  field "dependency_constraints" (·.dependencyConstraints)] (by decide)

instance : Reflect ArchitecturalBoundary := dataclass [
  field "boundary_id" (·.boundaryId), field "member_refs" (·.memberRefs),
  field "forbidden_dependency_refs" (·.forbiddenDependencyRefs), field "protected" (·.isProtected),
  field "crossing_invariants" (·.crossingInvariants)] (by decide)

instance : Reflect DeploymentIntent := dataclass [
  field "deployment_id" (·.deploymentId), field "target_refs" (·.targetRefs),
  field "rollout_strategy" (·.rolloutStrategy), field "rollout_constraints" (·.rolloutConstraints),
  field "health_requirements" (·.healthRequirements), field "rollback_required" (·.rollbackRequired),
  field "rollback_target_ref" (·.rollbackTargetRef), field "rollback_invariants" (·.rollbackInvariants),
  field "preservation_requirements" (·.preservationRequirements)] (by decide)

instance : Reflect TestingAnchor := dataclass [
  field "anchor_id" (·.anchorId), field "subject_refs" (·.subjectRefs), field "obligation_refs" (·.obligationRefs),
  field "evidence_requirements" (·.evidenceRequirements), field "protection_policy" (·.protectionPolicy),
  field "authority" (·.authority)] (by decide)

instance : Reflect DocumentationIntent := dataclass [
  field "documentation_id" (·.documentationId), field "subject_refs" (·.subjectRefs), field "purpose" (·.purpose),
  field "audience" (·.audience), field "obligations" (·.obligations)] (by decide)

instance : Reflect EvolutionObjective := dataclass [
  field "objective_id" (·.objectiveId), field "dimension" (·.dimension), field "direction" (·.direction),
  field "tier" (·.tier), field "priority" (·.priority), field "weight" (·.weight),
  field "subject_refs" (·.subjectRefs)] (by decide)

instance : Reflect PreservationInvariant := dataclass [
  field "kind" (·.kind), field "subject_refs" (·.subjectRefs), field "statement" (·.statement),
  field "bound" (·.bound)] (by decide)

instance : Reflect ProtectedRegion := dataclass [
  field "region_id" (·.regionId), field "subject_refs" (·.subjectRefs), field "protection_kind" (·.protectionKind),
  field "invariants" (·.invariants)] (by decide)

instance : Reflect EvolutionPolicy := dataclass [
  field "policy_id" (·.policyId), field "objective_refs" (·.objectiveRefs),
  field "protected_region_refs" (·.protectedRegionRefs), field "selection_constraints" (·.selectionConstraints)]
  (by decide)

instance : Reflect ArchitecturalDecision := dataclass [
  field "decision_id" (·.decisionId), field "context" (·.context), field "question" (·.question),
  field "selected_strategy" (·.selectedStrategy), field "alternatives" (·.alternatives),
  field "trade_offs" (·.tradeOffs), field "benefits" (·.benefits), field "risks" (·.risks),
  field "rejected" (·.rejected), field "future_evolution" (·.futureEvolution),
  field "requirement_refs" (·.requirementRefs), field "invariant_refs" (·.invariantRefs),
  field "architectural_scope" (·.architecturalScope), field "verification_refs" (·.verificationRefs)] (by decide)

instance : Reflect SecurityThreat := dataclass [
  field "threat_id" (·.threatId), field "scenario" (·.scenario), field "severity" (·.severity),
  field "requirement_refs" (·.requirementRefs), field "invariant_statement" (·.invariantStatement),
  field "architectural_control_refs" (·.architecturalControlRefs),
  field "implementation_obligation_refs" (·.implementationObligationRefs),
  field "verification_refs" (·.verificationRefs)] (by decide)

instance : Reflect IntentArchitectureReference := dataclass [
  field "system_model_sha256" (·.systemModelSha256), field "projection_complete" (·.projectionComplete),
  field "projection_blockers" (·.projectionBlockers)] (by decide)

instance : Reflect SecurityPosture := dataclass [
  field "authentication" (·.authentication), field "authorization" (·.authorization),
  field "data_classification" (·.dataClassification),
  field "encryption_in_transit_required" (·.encryptionInTransitRequired),
  field "encryption_at_rest_required" (·.encryptionAtRestRequired),
  field "audit_logging_required" (·.auditLoggingRequired),
  field "secrets_management_required" (·.secretsManagementRequired)] (by decide)

instance : Reflect InfrastructurePosture := dataclass [
  field "topology" (·.topology), field "stateful" (·.stateful), field "scaling_unit" (·.scalingUnit),
  field "availability" (·.availability)] (by decide)

instance : Reflect DeploymentPosture := dataclass [
  field "rollout_strategy" (·.rolloutStrategy), field "environment_names" (·.environmentNames),
  field "scaling_policy" (·.scalingPolicy), field "zero_downtime_required" (·.zeroDowntimeRequired)] (by decide)

instance : Reflect TestingPosture := dataclass [
  field "required_levels" (·.requiredLevels), field "coverage_posture" (·.coveragePosture),
  field "performance_required" (·.performanceRequired), field "security_required" (·.securityRequired)]
  (by decide)

instance : Reflect DocumentationPosture := dataclass [
  field "required_artifacts" (·.requiredArtifacts), field "adr_required" (·.adrRequired)] (by decide)

instance : Reflect OperationalSLO := dataclass [
  field "name" (·.name), field "metric" (·.metric), field "target" (·.target)] (by decide)

instance : Reflect OperationalPosture := dataclass [
  field "service_level_objectives" (·.serviceLevelObjectives),
  field "observability_requirements" (·.observabilityRequirements), field "backup_posture" (·.backupPosture),
  field "disaster_recovery_posture" (·.disasterRecoveryPosture),
  field "incident_response_required" (·.incidentResponseRequired)] (by decide)

instance : Reflect Module := dataclass [
  field "id" (·.id), field "name" (·.name), field "description" (·.description), field "entities" (·.entities),
  field "services" (·.services), field "workflows" (·.workflows), field "policies" (·.policies),
  field "interfaces" (·.interfaces), field "events" (·.events), field "dependencies" (·.dependencies),
  field "metadata" (·.metadata), field "temporal_constraints" (·.temporalConstraints),
  field "data_migrations" (·.dataMigrations), field "components" (·.components),
  field "capability_refs" (·.capabilityRefs), field "api_contracts" (·.apiContracts),
  field "ubiquitous_language" (·.ubiquitousLanguage)] (by decide)

instance : Reflect SystemMetadata := dataclass [
  field "version" (·.version), field "authors" (·.authors), field "license" (·.license),
  field "description" (·.description), field "tags" (·.tags)] (by decide)

instance : Reflect System := dataclass [
  field "id" (·.id), field "name" (·.name), field "description" (·.description), field "modules" (·.modules),
  field "deployment" (·.deployment), field "metadata" (·.metadata), field "global_policies" (·.globalPolicies),
  field "constraints" (·.constraints), field "business_capabilities" (·.businessCapabilities),
  field "reliability_requirements" (·.reliabilityRequirements),
  field "architectural_boundaries" (·.architecturalBoundaries), field "requirements" (·.requirements),
  field "requirement_graph_ref" (·.requirementGraphRef),
  field "requirement_source_metadata" (·.requirementSourceMetadata),
  field "requirement_relations" (·.requirementRelations), field "intent_architecture_ref" (·.intentArchitectureRef),
  field "security_posture" (·.securityPosture), field "infrastructure_posture" (·.infrastructurePosture),
  field "deployment_posture" (·.deploymentPosture), field "testing_posture" (·.testingPosture),
  field "documentation_posture" (·.documentationPosture), field "operational_posture" (·.operationalPosture),
  field "acceptance_criteria" (·.acceptanceCriteria), field "deployment_intents" (·.deploymentIntents),
  field "testing_anchors" (·.testingAnchors), field "documentation_intents" (·.documentationIntents),
  field "evolution_objectives" (·.evolutionObjectives), field "protected_regions" (·.protectedRegions),
  field "evolution_policies" (·.evolutionPolicies), field "architectural_decisions" (·.architecturalDecisions),
  field "security_threats" (·.securityThreats)] (by decide)

end AutonomousApi.SystemReflection
