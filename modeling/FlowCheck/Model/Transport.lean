import FlowCheck.Schema.Basic

/-!
# Transports

How a step reaches another system.  The families of triggers and transports are independent: a `kafka` transport
writes to a topic, a `kafka` trigger reads from one.
-/

namespace FlowCheck

inductive RestMethod where
  | get
  | post
  | put
  | patch
  | delete
  | head
  deriving DecidableEq

inductive FsMode where
  | read
  | write
  | append
  deriving DecidableEq

structure RestTransport where
  url : String
  method : RestMethod
  headers : List (String × String)
  /-- Milliseconds. -/
  timeout : Option UInt64
  deriving DecidableEq

structure SoapTransport where
  url : String
  action : String
  wsdl : Option String
  deriving DecidableEq

structure GraphQlTransport where
  url : String
  query : String
  bindings : Option Value
  deriving DecidableEq

structure JdbcTransport where
  url : String
  query : String
  deriving DecidableEq

structure KafkaTransport where
  topic : String
  bootstrapServers : List String
  /-- Expression that gives the record key. -/
  key : Option String
  deriving DecidableEq

structure MqttTransport where
  broker : String
  topic : String
  qos : UInt32
  deriving DecidableEq

structure SftpTransport where
  host : String
  port : UInt16
  path : String
  username : Option String
  deriving DecidableEq

structure FsTransport where
  path : String
  mode : FsMode
  deriving DecidableEq

structure CustomTransport where
  name : String
  config : Option Value
  deriving DecidableEq

/-- The wire-level mechanism that a step uses to reach another system. -/
inductive Transport where
  | rest (settings : RestTransport)
  | soap (settings : SoapTransport)
  | graphQl (settings : GraphQlTransport)
  | jdbc (settings : JdbcTransport)
  | kafka (settings : KafkaTransport)
  | mqtt (settings : MqttTransport)
  | sftp (settings : SftpTransport)
  | fs (settings : FsTransport)
  | custom (settings : CustomTransport)
  deriving DecidableEq

/-- The tag that the variant is written with. -/
def Transport.kind : Transport → String
  | .rest _ => "rest"
  | .soap _ => "soap"
  | .graphQl _ => "graphql"
  | .jdbc _ => "jdbc"
  | .kafka _ => "kafka"
  | .mqtt _ => "mqtt"
  | .sftp _ => "sftp"
  | .fs _ => "fs"
  | .custom _ => "custom"

/-! ## Schemas -/

def RestMethod.choices : Choices RestMethod where
  values := [.get, .post, .put, .patch, .delete, .head]
  name
    | .get => "GET"
    | .post => "POST"
    | .put => "PUT"
    | .patch => "PATCH"
    | .delete => "DELETE"
    | .head => "HEAD"
  find_name a := by cases a <;> rfl

def FsMode.choices : Choices FsMode where
  values := [.read, .write, .append]
  name
    | .read => "read"
    | .write => "write"
    | .append => "append"
  find_name a := by cases a <;> rfl

def RestTransport.record : Record RestTransport :=
  .of "RestTransport"
    (.cons (.required "url" .string) <|
      .cons (.withDefault "method" (.choice RestMethod.choices) .get) <|
      .cons (.defaulted "headers" .texts [] List.isEmpty fun _ h => List.isEmpty_iff.1 h) <|
      .cons (.optional "timeout" (.unsigned .w64)) .nil)
    (fun (url, method, headers, timeout, ()) => { url, method, headers, timeout })
    (fun r => (r.url, r.method, r.headers, r.timeout, ()))
    (fun _ => rfl) (fun _ => rfl)

def SoapTransport.record : Record SoapTransport :=
  .of "SoapTransport"
    (.cons (.required "url" .string) <|
      .cons (.required "action" .string) <|
      .cons (.optional "wsdl" .string) .nil)
    (fun (url, action, wsdl, ()) => { url, action, wsdl })
    (fun s => (s.url, s.action, s.wsdl, ()))
    (fun _ => rfl) (fun _ => rfl)

def GraphQlTransport.record : Record GraphQlTransport :=
  .of "GraphQlTransport"
    (.cons (.required "url" .string) <|
      .cons (.required "query" .string) <|
      .cons (.optional "variables" .free) .nil)
    (fun (url, query, bindings, ()) => { url, query, bindings })
    (fun g => (g.url, g.query, g.bindings, ()))
    (fun _ => rfl) (fun _ => rfl)

def JdbcTransport.record : Record JdbcTransport :=
  .of "JdbcTransport"
    (.cons (.required "url" .string) <|
      .cons (.required "query" .string) .nil)
    (fun (url, query, ()) => { url, query })
    (fun j => (j.url, j.query, ()))
    (fun _ => rfl) (fun _ => rfl)

def KafkaTransport.record : Record KafkaTransport :=
  .of "KafkaTransport"
    (.cons (.required "topic" .string) <|
      .cons (.required "bootstrapServers" (.list .string)) <|
      .cons (.optional "key" .string) .nil)
    (fun (topic, bootstrapServers, key, ()) => { topic, bootstrapServers, key })
    (fun k => (k.topic, k.bootstrapServers, k.key, ()))
    (fun _ => rfl) (fun _ => rfl)

def MqttTransport.record : Record MqttTransport :=
  .of "MqttTransport"
    (.cons (.required "broker" .string) <|
      .cons (.required "topic" .string) <|
      .cons (.withDefault "qos" (.unsigned .w32) 0) .nil)
    (fun (broker, topic, qos, ()) => { broker, topic, qos })
    (fun m => (m.broker, m.topic, m.qos, ()))
    (fun _ => rfl) (fun _ => rfl)

def SftpTransport.record : Record SftpTransport :=
  .of "SftpTransport"
    (.cons (.required "host" .string) <|
      .cons (.withDefault "port" (.unsigned .w16) 22) <|
      .cons (.required "path" .string) <|
      .cons (.optional "username" .string) .nil)
    (fun (host, port, path, username, ()) => { host, port, path, username })
    (fun s => (s.host, s.port, s.path, s.username, ()))
    (fun _ => rfl) (fun _ => rfl)

def FsTransport.record : Record FsTransport :=
  .of "FsTransport"
    (.cons (.required "path" .string) <|
      .cons (.withDefault "mode" (.choice FsMode.choices) .read) .nil)
    (fun (path, mode, ()) => { path, mode })
    (fun f => (f.path, f.mode, ()))
    (fun _ => rfl) (fun _ => rfl)

def CustomTransport.record : Record CustomTransport :=
  .of "CustomTransport"
    (.cons (.required "name" .string) <|
      .cons (.optional "config" .free) .nil)
    (fun (name, config, ()) => { name, config })
    (fun c => (c.name, c.config, ()))
    (fun _ => rfl) (fun _ => rfl)

def Transport.variants :
    Variants (RestTransport ⊕ SoapTransport ⊕ GraphQlTransport ⊕ JdbcTransport ⊕ KafkaTransport ⊕
      MqttTransport ⊕ SftpTransport ⊕ FsTransport ⊕ CustomTransport ⊕ Empty) :=
  .cons "rest" [] RestTransport.record <|
  .cons "soap" [] SoapTransport.record <|
  .cons "graphql" [] GraphQlTransport.record <|
  .cons "jdbc" [] JdbcTransport.record <|
  .cons "kafka" [] KafkaTransport.record <|
  .cons "mqtt" [] MqttTransport.record <|
  .cons "sftp" [] SftpTransport.record <|
  .cons "fs" [] FsTransport.record <|
  .cons "custom" [] CustomTransport.record .nil

def Transport.schema : Schema Transport :=
  .tagged "Transport" Transport.variants
    (Sum.elim .rest <|
      Sum.elim .soap <|
      Sum.elim .graphQl <|
      Sum.elim .jdbc <|
      Sum.elim .kafka <|
      Sum.elim .mqtt <|
      Sum.elim .sftp <|
      Sum.elim .fs <|
      Sum.elim .custom nofun)
    (fun
      | .rest a => .inl a
      | .soap a => .inr (.inl a)
      | .graphQl a => .inr (.inr (.inl a))
      | .jdbc a => .inr (.inr (.inr (.inl a)))
      | .kafka a => .inr (.inr (.inr (.inr (.inl a))))
      | .mqtt a => .inr (.inr (.inr (.inr (.inr (.inl a)))))
      | .sftp a => .inr (.inr (.inr (.inr (.inr (.inr (.inl a))))))
      | .fs a => .inr (.inr (.inr (.inr (.inr (.inr (.inr (.inl a)))))))
      | .custom a => .inr (.inr (.inr (.inr (.inr (.inr (.inr (.inr (.inl a)))))))))
    (fun a => by cases a <;> rfl)
    (by rintro (_ | _ | _ | _ | _ | _ | _ | _ | _ | ⟨⟨⟩⟩) <;> rfl)

end FlowCheck
