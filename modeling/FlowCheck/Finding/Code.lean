/-!
# Finding codes

Every finding carries the name of a code.  `Code.all` is the catalogue in its published order; `severity?` is the
severity under default settings, `none` for the code that is off by default.  Three codes are reserved for documents
that never reach the semantic rules, and cannot be suppressed.
-/

namespace FlowCheck

/-- How serious a finding is.  Critical findings stop validation before the document could be read. -/
inductive Severity where
  | critical
  | error
  | warning
  deriving DecidableEq

namespace Severity

def name : Severity → String
  | critical => "critical"
  | error => "error"
  | warning => "warning"

/-- The severity with a name. -/
def ofName? (name : String) : Option Severity :=
  [critical, error, warning].find? (·.name == name)

/-- A finding of this severity makes the document invalid. -/
def blocks : Severity → Bool
  | warning => false
  | _ => true

end Severity

/-- What is wrong with a document. -/
inductive Code where
  | parseError
  | inputLimitExceeded
  | schemaValidationError
  | metadataNameMissing
  | metadataVersionInvalid
  | ownersMissing
  | ownerEmailInvalid
  | complianceDataRetentionMissing
  | hipaaRbacRequired
  | httpApiKeyMissing
  | httpRateLimitInvalid
  | scheduleCronInvalid
  | scheduleDateRangeInvalid
  | kafkaBootstrapServersMissing
  | mqttQosInvalid
  | sftpAuthMissing
  | jdbcUrlInvalid
  | fileWatchEventsMissing
  | connectorRefMissing
  | connectorOperationMissing
  | connectorTimeoutInvalid
  | mapExpressionMissing
  | scriptCodeMissing
  | scriptTimeoutInvalid
  | enrichSourceMissing
  | enrichKeyMissing
  | branchConditionsMissing
  | branchConditionMissing
  | branchTargetMissing
  | retryMaxAttemptsInvalid
  | dlqReasonMissing
  | throttleRateInvalid
  | throttleBurstInvalid
  | checkpointNameMissing
  | circuitBreakerThresholdInvalid
  | circuitBreakerRecoveryTimeoutInvalid
  | restUrlMissing
  | restTimeoutInvalid
  | soapUrlMissing
  | soapActionMissing
  | graphqlUrlMissing
  | graphqlQueryMissing
  | jdbcTransportUrlInvalid
  | jdbcQueryMissing
  | kafkaTopicMissing
  | kafkaTransportBootstrapServersMissing
  | mqttTopicMissing
  | mqttBrokerMissing
  | sftpHostMissing
  | sftpPathMissing
  | fsPathMissing
  | customTransportNameMissing
  | qosTimeoutInvalid
  | idempotencyKeyMissing
  | idempotencyTtlInvalid
  | mtlsCertPathMissing
  | mtlsKeyPathMissing
  | opaPolicyRefMissing
  | secretsVaultPathsMissing
  | secretsRefreshIntervalInvalid
  | stepIdMissing
  | duplicateStepId
  | invalidNextStepReference
  | invalidErrorStepReference
  | invalidBranchTargetReference
  | stepSelfReference
  | stepGraphCycle
  | unreachableStep
  | observabilitySampleRateInvalid
  | observabilityPayloadSampleRateInvalid
  | observabilityPayloadMaxSizeInvalid
  deriving DecidableEq

namespace Code

/-- All codes, in the order of the catalogue. -/
def all : List Code := [
  .parseError, .inputLimitExceeded, .schemaValidationError, .metadataNameMissing, .metadataVersionInvalid,
  .ownersMissing, .ownerEmailInvalid, .complianceDataRetentionMissing, .hipaaRbacRequired, .httpApiKeyMissing,
  .httpRateLimitInvalid, .scheduleCronInvalid, .scheduleDateRangeInvalid, .kafkaBootstrapServersMissing,
  .mqttQosInvalid, .sftpAuthMissing, .jdbcUrlInvalid, .fileWatchEventsMissing, .connectorRefMissing,
  .connectorOperationMissing, .connectorTimeoutInvalid, .mapExpressionMissing, .scriptCodeMissing,
  .scriptTimeoutInvalid, .enrichSourceMissing, .enrichKeyMissing, .branchConditionsMissing,
  .branchConditionMissing, .branchTargetMissing, .retryMaxAttemptsInvalid, .dlqReasonMissing,
  .throttleRateInvalid, .throttleBurstInvalid, .checkpointNameMissing, .circuitBreakerThresholdInvalid,
  .circuitBreakerRecoveryTimeoutInvalid, .restUrlMissing, .restTimeoutInvalid, .soapUrlMissing,
  .soapActionMissing, .graphqlUrlMissing, .graphqlQueryMissing, .jdbcTransportUrlInvalid, .jdbcQueryMissing,
  .kafkaTopicMissing, .kafkaTransportBootstrapServersMissing, .mqttTopicMissing, .mqttBrokerMissing,
  .sftpHostMissing, .sftpPathMissing, .fsPathMissing, .customTransportNameMissing, .qosTimeoutInvalid,
  .idempotencyKeyMissing, .idempotencyTtlInvalid, .mtlsCertPathMissing, .mtlsKeyPathMissing,
  .opaPolicyRefMissing, .secretsVaultPathsMissing, .secretsRefreshIntervalInvalid, .stepIdMissing,
  .duplicateStepId, .invalidNextStepReference, .invalidErrorStepReference, .invalidBranchTargetReference,
  .stepSelfReference, .stepGraphCycle, .unreachableStep, .observabilitySampleRateInvalid,
  .observabilityPayloadSampleRateInvalid, .observabilityPayloadMaxSizeInvalid]

/-- The name that reports use. -/
def name : Code → String
  | parseError => "PARSE_ERROR"
  | inputLimitExceeded => "INPUT_LIMIT_EXCEEDED"
  | schemaValidationError => "SCHEMA_VALIDATION_ERROR"
  | metadataNameMissing => "METADATA_NAME_MISSING"
  | metadataVersionInvalid => "METADATA_VERSION_INVALID"
  | ownersMissing => "OWNERS_MISSING"
  | ownerEmailInvalid => "OWNER_EMAIL_INVALID"
  | complianceDataRetentionMissing => "COMPLIANCE_DATA_RETENTION_MISSING"
  | hipaaRbacRequired => "HIPAA_RBAC_REQUIRED"
  | httpApiKeyMissing => "HTTP_API_KEY_MISSING"
  | httpRateLimitInvalid => "HTTP_RATE_LIMIT_INVALID"
  | scheduleCronInvalid => "SCHEDULE_CRON_INVALID"
  | scheduleDateRangeInvalid => "SCHEDULE_DATE_RANGE_INVALID"
  | kafkaBootstrapServersMissing => "KAFKA_BOOTSTRAP_SERVERS_MISSING"
  | mqttQosInvalid => "MQTT_QOS_INVALID"
  | sftpAuthMissing => "SFTP_AUTH_MISSING"
  | jdbcUrlInvalid => "JDBC_URL_INVALID"
  | fileWatchEventsMissing => "FILE_WATCH_EVENTS_MISSING"
  | connectorRefMissing => "CONNECTOR_REF_MISSING"
  | connectorOperationMissing => "CONNECTOR_OPERATION_MISSING"
  | connectorTimeoutInvalid => "CONNECTOR_TIMEOUT_INVALID"
  | mapExpressionMissing => "MAP_EXPRESSION_MISSING"
  | scriptCodeMissing => "SCRIPT_CODE_MISSING"
  | scriptTimeoutInvalid => "SCRIPT_TIMEOUT_INVALID"
  | enrichSourceMissing => "ENRICH_SOURCE_MISSING"
  | enrichKeyMissing => "ENRICH_KEY_MISSING"
  | branchConditionsMissing => "BRANCH_CONDITIONS_MISSING"
  | branchConditionMissing => "BRANCH_CONDITION_MISSING"
  | branchTargetMissing => "BRANCH_TARGET_MISSING"
  | retryMaxAttemptsInvalid => "RETRY_MAX_ATTEMPTS_INVALID"
  | dlqReasonMissing => "DLQ_REASON_MISSING"
  | throttleRateInvalid => "THROTTLE_RATE_INVALID"
  | throttleBurstInvalid => "THROTTLE_BURST_INVALID"
  | checkpointNameMissing => "CHECKPOINT_NAME_MISSING"
  | circuitBreakerThresholdInvalid => "CIRCUIT_BREAKER_THRESHOLD_INVALID"
  | circuitBreakerRecoveryTimeoutInvalid => "CIRCUIT_BREAKER_RECOVERY_TIMEOUT_INVALID"
  | restUrlMissing => "REST_URL_MISSING"
  | restTimeoutInvalid => "REST_TIMEOUT_INVALID"
  | soapUrlMissing => "SOAP_URL_MISSING"
  | soapActionMissing => "SOAP_ACTION_MISSING"
  | graphqlUrlMissing => "GRAPHQL_URL_MISSING"
  | graphqlQueryMissing => "GRAPHQL_QUERY_MISSING"
  | jdbcTransportUrlInvalid => "JDBC_TRANSPORT_URL_INVALID"
  | jdbcQueryMissing => "JDBC_QUERY_MISSING"
  | kafkaTopicMissing => "KAFKA_TOPIC_MISSING"
  | kafkaTransportBootstrapServersMissing => "KAFKA_TRANSPORT_BOOTSTRAP_SERVERS_MISSING"
  | mqttTopicMissing => "MQTT_TOPIC_MISSING"
  | mqttBrokerMissing => "MQTT_BROKER_MISSING"
  | sftpHostMissing => "SFTP_HOST_MISSING"
  | sftpPathMissing => "SFTP_PATH_MISSING"
  | fsPathMissing => "FS_PATH_MISSING"
  | customTransportNameMissing => "CUSTOM_TRANSPORT_NAME_MISSING"
  | qosTimeoutInvalid => "QOS_TIMEOUT_INVALID"
  | idempotencyKeyMissing => "IDEMPOTENCY_KEY_MISSING"
  | idempotencyTtlInvalid => "IDEMPOTENCY_TTL_INVALID"
  | mtlsCertPathMissing => "MTLS_CERT_PATH_MISSING"
  | mtlsKeyPathMissing => "MTLS_KEY_PATH_MISSING"
  | opaPolicyRefMissing => "OPA_POLICY_REF_MISSING"
  | secretsVaultPathsMissing => "SECRETS_VAULT_PATHS_MISSING"
  | secretsRefreshIntervalInvalid => "SECRETS_REFRESH_INTERVAL_INVALID"
  | stepIdMissing => "STEP_ID_MISSING"
  | duplicateStepId => "DUPLICATE_STEP_ID"
  | invalidNextStepReference => "INVALID_NEXT_STEP_REFERENCE"
  | invalidErrorStepReference => "INVALID_ERROR_STEP_REFERENCE"
  | invalidBranchTargetReference => "INVALID_BRANCH_TARGET_REFERENCE"
  | stepSelfReference => "STEP_SELF_REFERENCE"
  | stepGraphCycle => "STEP_GRAPH_CYCLE"
  | unreachableStep => "UNREACHABLE_STEP"
  | observabilitySampleRateInvalid => "OBSERVABILITY_SAMPLE_RATE_INVALID"
  | observabilityPayloadSampleRateInvalid => "OBSERVABILITY_PAYLOAD_SAMPLE_RATE_INVALID"
  | observabilityPayloadMaxSizeInvalid => "OBSERVABILITY_PAYLOAD_MAX_SIZE_INVALID"

/-- The severity under default settings. -/
def severity? : Code → Option Severity
  | parseError | inputLimitExceeded => some .critical
  | ownersMissing | ownerEmailInvalid | complianceDataRetentionMissing | unreachableStep => some .warning
  | stepGraphCycle => none
  | _ => some .error

/-- Reserved for documents that were not read, or do not have the shape of a flow. -/
def reserved : Code → Bool
  | parseError | inputLimitExceeded | schemaValidationError => true
  | _ => false

/-- The code with a name. -/
def ofName? (name : String) : Option Code :=
  all.find? (·.name == name)

/-- The text is the name of a code. -/
def isKnown (name : String) : Bool :=
  (ofName? name).isSome

/-- The text is the name of a code that settings may suppress. -/
def isSuppressible (name : String) : Bool :=
  (ofName? name).any (!·.reserved)

end Code

end FlowCheck
