import FlowCheck.Model.Flow
import FlowCheck.Rules.Basic

/-!
# Rules on transports
-/

namespace FlowCheck.Rules

/-- The findings on one transport. -/
def transport (path : Path) (t : Transport) : List Finding :=
  let require (field : String) (code : Code) (text : String) : List Finding :=
    requireText path field code s!"{t.kind} transport requires {field}" text
  match t with
  | .rest t =>
    require "url" .restUrlMissing t.url ++
    requirePositive path "timeout" .restTimeoutInvalid (t.timeout == some 0)
  | .soap t => require "url" .soapUrlMissing t.url ++ require "action" .soapActionMissing t.action
  | .graphQl t => require "url" .graphqlUrlMissing t.url ++ require "query" .graphqlQueryMissing t.query
  | .jdbc t =>
    requireJdbc path .jdbcTransportUrlInvalid t.url ++ require "query" .jdbcQueryMissing t.query
  | .kafka t =>
    require "topic" .kafkaTopicMissing t.topic ++
    requireSome path "bootstrapServers" .kafkaTransportBootstrapServersMissing
      "kafka transport needs at least one bootstrap server" t.bootstrapServers
  | .mqtt t =>
    require "topic" .mqttTopicMissing t.topic ++ require "broker" .mqttBrokerMissing t.broker ++
    requireQos path t.qos
  | .sftp t => require "host" .sftpHostMissing t.host ++ require "path" .sftpPathMissing t.path
  | .fs t => require "path" .fsPathMissing t.path
  | .custom t => require "name" .customTransportNameMissing t.name

/-- The findings on the transports of all steps. -/
def transports (flow : Flow) : List Finding :=
  (flow.steps.mapIdx fun i step =>
    (step.transport.toList.map (transport (((Path.mk "steps" []).index i).field "transport"))).flatten).flatten

end FlowCheck.Rules
