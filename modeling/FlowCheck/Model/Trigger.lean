import FlowCheck.Schema.Basic

/-!
# Triggers

The entry points that start a flow: requests, schedules, messages, files and database rows.
-/

namespace FlowCheck

inductive HttpMethod where
  | get
  | post
  | put
  | patch
  | delete
  deriving DecidableEq

inductive AuthKind where
  | anonymous
  | apiKey
  | basic
  | bearer
  | oauth2
  deriving DecidableEq

/-- How a request shows who sent it. -/
structure HttpAuth where
  kind : AuthKind
  key : Option String
  /-- Header that carries the key. -/
  header : Option String
  deriving DecidableEq

/-- A number of requests allowed in a window of time. -/
structure RateLimit where
  requests : UInt32
  windowSeconds : UInt64
  deriving DecidableEq

structure HttpTrigger where
  path : String
  method : HttpMethod
  auth : Option HttpAuth
  rateLimit : Option RateLimit
  deriving DecidableEq

structure ScheduleTrigger where
  /-- Expression of five or six fields. -/
  cron : String
  timezone : Option String
  startDate : Option Instant
  endDate : Option Instant
  deriving DecidableEq

inductive OffsetReset where
  | earliest
  | latest
  deriving DecidableEq

structure KafkaTrigger where
  bootstrapServers : List String
  topic : String
  groupId : Option String
  autoOffsetReset : OffsetReset
  deriving DecidableEq

structure MqttTrigger where
  broker : String
  topic : String
  qos : UInt32
  clientId : Option String
  deriving DecidableEq

structure SftpTrigger where
  host : String
  port : UInt16
  username : String
  password : Option String
  privateKey : Option String
  path : String
  pattern : Option String
  pollIntervalSeconds : UInt64
  deriving DecidableEq

structure JdbcTrigger where
  url : String
  query : String
  pollIntervalSeconds : Option UInt64
  deriving DecidableEq

inductive FileEvent where
  | create
  | modify
  | delete
  | rename
  deriving DecidableEq

structure FileWatchTrigger where
  path : String
  events : List FileEvent
  recursive : Bool
  pattern : Option String
  deriving DecidableEq

/-- An entry point that starts a flow. -/
inductive Trigger where
  | http (settings : HttpTrigger)
  | schedule (settings : ScheduleTrigger)
  | kafka (settings : KafkaTrigger)
  | mqtt (settings : MqttTrigger)
  | sftp (settings : SftpTrigger)
  | jdbc (settings : JdbcTrigger)
  | fileWatch (settings : FileWatchTrigger)
  deriving DecidableEq

/-- The tag that the variant is written with. -/
def Trigger.kind : Trigger → String
  | .http _ => "http"
  | .schedule _ => "schedule"
  | .kafka _ => "kafka"
  | .mqtt _ => "mqtt"
  | .sftp _ => "sftp"
  | .jdbc _ => "jdbc"
  | .fileWatch _ => "fileWatch"

/-! ## Schemas -/

def HttpMethod.choices : Choices HttpMethod where
  values := [.get, .post, .put, .patch, .delete]
  name
    | .get => "GET"
    | .post => "POST"
    | .put => "PUT"
    | .patch => "PATCH"
    | .delete => "DELETE"
  find_name a := by cases a <;> rfl

def AuthKind.choices : Choices AuthKind where
  values := [.anonymous, .apiKey, .basic, .bearer, .oauth2]
  name
    | .anonymous => "none"
    | .apiKey => "apiKey"
    | .basic => "basic"
    | .bearer => "bearer"
    | .oauth2 => "oauth2"
  aliases
    | .apiKey => ["api-key", "api_key"]
    | _ => []
  find_name a := by cases a <;> rfl

def HttpAuth.record : Record HttpAuth :=
  .of "HttpAuth"
    (.cons (.required "type" (.choice AuthKind.choices)) <|
      .cons (.optional "key" .string) <|
      .cons (.optional "header" .string) .nil)
    (fun (kind, key, header, ()) => { kind, key, header })
    (fun h => (h.kind, h.key, h.header, ()))
    (fun _ => rfl) (fun _ => rfl)

def RateLimit.record : Record RateLimit :=
  .of "RateLimit"
    (.cons (.required "requests" (.unsigned .w32)) <|
      .cons (.withDefault "windowSeconds" (.unsigned .w64) 60) .nil)
    (fun (requests, windowSeconds, ()) => { requests, windowSeconds })
    (fun r => (r.requests, r.windowSeconds, ()))
    (fun _ => rfl) (fun _ => rfl)

def HttpTrigger.record : Record HttpTrigger :=
  .of "HttpTrigger"
    (.cons (.required "path" .string) <|
      .cons (.withDefault "method" (.choice HttpMethod.choices) .post) <|
      .cons (.optional "auth" (.record HttpAuth.record)) <|
      .cons (.optional "rateLimit" (.record RateLimit.record)) .nil)
    (fun (path, method, auth, rateLimit, ()) => { path, method, auth, rateLimit })
    (fun h => (h.path, h.method, h.auth, h.rateLimit, ()))
    (fun _ => rfl) (fun _ => rfl)

def ScheduleTrigger.record : Record ScheduleTrigger :=
  .of "ScheduleTrigger"
    (.cons (.required "cron" .string) <|
      .cons (.optional "timezone" .string) <|
      .cons (.optional "startDate" .date) <|
      .cons (.optional "endDate" .date) .nil)
    (fun (cron, timezone, startDate, endDate, ()) => { cron, timezone, startDate, endDate })
    (fun s => (s.cron, s.timezone, s.startDate, s.endDate, ()))
    (fun _ => rfl) (fun _ => rfl)

def OffsetReset.choices : Choices OffsetReset where
  values := [.earliest, .latest]
  name
    | .earliest => "earliest"
    | .latest => "latest"
  find_name a := by cases a <;> rfl

def KafkaTrigger.record : Record KafkaTrigger :=
  .of "KafkaTrigger"
    (.cons (.required "bootstrapServers" (.list .string)) <|
      .cons (.required "topic" .string) <|
      .cons (.optional "groupId" .string) <|
      .cons (.withDefault "autoOffsetReset" (.choice OffsetReset.choices) .latest) .nil)
    (fun (bootstrapServers, topic, groupId, autoOffsetReset, ()) =>
      { bootstrapServers, topic, groupId, autoOffsetReset })
    (fun k => (k.bootstrapServers, k.topic, k.groupId, k.autoOffsetReset, ()))
    (fun _ => rfl) (fun _ => rfl)

def MqttTrigger.record : Record MqttTrigger :=
  .of "MqttTrigger"
    (.cons (.required "broker" .string) <|
      .cons (.required "topic" .string) <|
      .cons (.withDefault "qos" (.unsigned .w32) 0) <|
      .cons (.optional "clientId" .string) .nil)
    (fun (broker, topic, qos, clientId, ()) => { broker, topic, qos, clientId })
    (fun m => (m.broker, m.topic, m.qos, m.clientId, ()))
    (fun _ => rfl) (fun _ => rfl)

def SftpTrigger.record : Record SftpTrigger :=
  .of "SftpTrigger"
    (.cons (.required "host" .string) <|
      .cons (.withDefault "port" (.unsigned .w16) 22) <|
      .cons (.required "username" .string) <|
      .cons (.optional "password" .string) <|
      .cons (.optional "privateKey" .string) <|
      .cons (.required "path" .string) <|
      .cons (.optional "pattern" .string) <|
      .cons (.withDefault "pollIntervalSeconds" (.unsigned .w64) 60) .nil)
    (fun (host, port, username, password, privateKey, path, pattern, pollIntervalSeconds, ()) =>
      { host, port, username, password, privateKey, path, pattern, pollIntervalSeconds })
    (fun s => (s.host, s.port, s.username, s.password, s.privateKey, s.path, s.pattern, s.pollIntervalSeconds, ()))
    (fun _ => rfl) (fun _ => rfl)

def JdbcTrigger.record : Record JdbcTrigger :=
  .of "JdbcTrigger"
    (.cons (.required "url" .string) <|
      .cons (.required "query" .string) <|
      .cons (.optional "pollIntervalSeconds" (.unsigned .w64)) .nil)
    (fun (url, query, pollIntervalSeconds, ()) => { url, query, pollIntervalSeconds })
    (fun j => (j.url, j.query, j.pollIntervalSeconds, ()))
    (fun _ => rfl) (fun _ => rfl)

def FileEvent.choices : Choices FileEvent where
  values := [.create, .modify, .delete, .rename]
  name
    | .create => "create"
    | .modify => "modify"
    | .delete => "delete"
    | .rename => "rename"
  find_name a := by cases a <;> rfl

def FileWatchTrigger.record : Record FileWatchTrigger :=
  .of "FileWatchTrigger"
    (.cons (.required "path" .string) <|
      .cons (.required "events" (.list (.choice FileEvent.choices))) <|
      .cons (.withDefault "recursive" .bool false) <|
      .cons (.optional "pattern" .string) .nil)
    (fun (path, events, recursive, pattern, ()) => { path, events, recursive, pattern })
    (fun f => (f.path, f.events, f.recursive, f.pattern, ()))
    (fun _ => rfl) (fun _ => rfl)

def Trigger.variants :
    Variants (HttpTrigger ⊕ ScheduleTrigger ⊕ KafkaTrigger ⊕ MqttTrigger ⊕ SftpTrigger ⊕ JdbcTrigger ⊕
      FileWatchTrigger ⊕ Empty) :=
  .cons "http" [] HttpTrigger.record <|
  .cons "schedule" [] ScheduleTrigger.record <|
  .cons "kafka" [] KafkaTrigger.record <|
  .cons "mqtt" [] MqttTrigger.record <|
  .cons "sftp" [] SftpTrigger.record <|
  .cons "jdbc" [] JdbcTrigger.record <|
  .cons "fileWatch" ["file-watch", "file_watch"] FileWatchTrigger.record .nil

def Trigger.schema : Schema Trigger :=
  .tagged "Trigger" Trigger.variants
    (Sum.elim .http <|
      Sum.elim .schedule <|
      Sum.elim .kafka <|
      Sum.elim .mqtt <|
      Sum.elim .sftp <|
      Sum.elim .jdbc <|
      Sum.elim .fileWatch nofun)
    (fun
      | .http a => .inl a
      | .schedule a => .inr (.inl a)
      | .kafka a => .inr (.inr (.inl a))
      | .mqtt a => .inr (.inr (.inr (.inl a)))
      | .sftp a => .inr (.inr (.inr (.inr (.inl a))))
      | .jdbc a => .inr (.inr (.inr (.inr (.inr (.inl a)))))
      | .fileWatch a => .inr (.inr (.inr (.inr (.inr (.inr (.inl a)))))))
    (fun a => by cases a <;> rfl)
    (by rintro (_ | _ | _ | _ | _ | _ | _ | ⟨⟨⟩⟩) <;> rfl)

end FlowCheck
