import FlowCheck.Proofs.Grammar.Shape

/-!
# The grammar of flow documents

All structures and families of a flow document, with the fields of each in the order of their declaration.
`Grammar.flow` is the shape of a whole document; that a flow has steps is not in its shape.
-/

namespace FlowCheck.Grammar

/-! ### Metadata -/

def owner : FieldShapes :=
  [("name", .required, .text), ("email", .required, .text), ("team", .optional, .text), ("role", .optional, .text)]

def compliance : FieldShapes :=
  [("gdpr", .defaulted, .flag), ("hipaa", .defaulted, .flag), ("soc2", .defaulted, .flag), ("pci", .defaulted, .flag),
    ("dataRetention", .optional, .natural 32),
    ("classification", .optional, .oneOf ["public", "internal", "confidential", "restricted"])]

def rbac : FieldShapes :=
  [("roles", .defaulted, .list .text), ("permissions", .defaulted, .list .text), ("tenants", .defaulted, .list .text)]

def metadata : FieldShapes :=
  [("name", .required, .text), ("version", .required, .text), ("description", .optional, .text),
    ("tenant", .optional, .text), ("tags", .defaulted, .list .text), ("owners", .defaulted, .list (.mapping owner)),
    ("compliance", .optional, .mapping compliance), ("rbac", .optional, .mapping rbac)]

/-! ### Triggers -/

def httpAuth : FieldShapes :=
  [("type", .required, .oneOf ["none", "apiKey", "api-key", "api_key", "basic", "bearer", "oauth2"]),
    ("key", .optional, .text), ("header", .optional, .text)]

def rateLimit : FieldShapes :=
  [("requests", .required, .natural 32), ("windowSeconds", .defaulted, .natural 64)]

def triggers : MemberShapes :=
  [(["http"],
      [("path", .required, .text), ("method", .defaulted, .oneOf ["GET", "POST", "PUT", "PATCH", "DELETE"]),
        ("auth", .optional, .mapping httpAuth), ("rateLimit", .optional, .mapping rateLimit)]),
    (["schedule"],
      [("cron", .required, .text), ("timezone", .optional, .text), ("startDate", .optional, .date),
        ("endDate", .optional, .date)]),
    (["kafka"],
      [("bootstrapServers", .required, .list .text), ("topic", .required, .text), ("groupId", .optional, .text),
        ("autoOffsetReset", .defaulted, .oneOf ["earliest", "latest"])]),
    (["mqtt"],
      [("broker", .required, .text), ("topic", .required, .text), ("qos", .defaulted, .natural 32),
        ("clientId", .optional, .text)]),
    (["sftp"],
      [("host", .required, .text), ("port", .defaulted, .natural 16), ("username", .required, .text),
        ("password", .optional, .text), ("privateKey", .optional, .text), ("path", .required, .text),
        ("pattern", .optional, .text), ("pollIntervalSeconds", .defaulted, .natural 64)]),
    (["jdbc"],
      [("url", .required, .text), ("query", .required, .text), ("pollIntervalSeconds", .optional, .natural 64)]),
    (["fileWatch", "file-watch", "file_watch"],
      [("path", .required, .text), ("events", .required, .list (.oneOf ["create", "modify", "delete", "rename"])),
        ("recursive", .defaulted, .flag), ("pattern", .optional, .text)])]

/-! ### Steps -/

def branchCondition : FieldShapes :=
  [("condition", .required, .text), ("target", .required, .text)]

def stepKinds : MemberShapes :=
  [(["connector"],
      [("connectorRef", .required, .text), ("operation", .required, .text), ("config", .optional, .anything),
        ("timeout", .optional, .natural 64)]),
    (["map"], [("expression", .required, .text), ("target", .optional, .text)]),
    (["script"],
      [("code", .required, .text), ("language", .defaulted, .oneOf ["javascript", "python", "jsonata"]),
        ("timeout", .optional, .natural 64)]),
    (["enrich"],
      [("source", .required, .text), ("key", .required, .text), ("target", .optional, .text),
        ("cache", .defaulted, .flag)]),
    (["branch"], [("conditions", .required, .list (.mapping branchCondition)), ("default", .optional, .text)]),
    (["retry"],
      [("maxAttempts", .required, .natural 32),
        ("backoff", .defaulted, .oneOf ["fixed", "linear", "exponential"]),
        ("initialDelay", .optional, .natural 64), ("maxDelay", .optional, .natural 64)]),
    (["dlq"], [("reason", .required, .text), ("topic", .optional, .text)]),
    (["throttle"], [("rate", .required, .number), ("burst", .optional, .natural 32)]),
    (["checkpoint"], [("name", .required, .text), ("storage", .optional, .text)]),
    (["circuitBreaker", "circuit-breaker", "circuit_breaker"],
      [("failureThreshold", .required, .natural 32), ("recoveryTimeout", .required, .natural 64),
        ("halfOpenRequests", .optional, .natural 32)])]

def transports : MemberShapes :=
  [(["rest"],
      [("url", .required, .text),
        ("method", .defaulted, .oneOf ["GET", "POST", "PUT", "PATCH", "DELETE", "HEAD"]),
        ("headers", .defaulted, .texts), ("timeout", .optional, .natural 64)]),
    (["soap"], [("url", .required, .text), ("action", .required, .text), ("wsdl", .optional, .text)]),
    (["graphql"], [("url", .required, .text), ("query", .required, .text), ("variables", .optional, .anything)]),
    (["jdbc"], [("url", .required, .text), ("query", .required, .text)]),
    (["kafka"],
      [("topic", .required, .text), ("bootstrapServers", .required, .list .text), ("key", .optional, .text)]),
    (["mqtt"], [("broker", .required, .text), ("topic", .required, .text), ("qos", .defaulted, .natural 32)]),
    (["sftp"],
      [("host", .required, .text), ("port", .defaulted, .natural 16), ("path", .required, .text),
        ("username", .optional, .text)]),
    (["fs"], [("path", .required, .text), ("mode", .defaulted, .oneOf ["read", "write", "append"])]),
    (["custom"], [("name", .required, .text), ("config", .optional, .anything)])]

def policies : MemberShapes :=
  [(["qos"],
      [("timeout", .optional, .natural 64), ("priority", .optional, .oneOf ["low", "normal", "high"]),
        ("guarantee", .optional, .oneOf ["atMostOnce", "atLeastOnce", "exactlyOnce"])]),
    (["idempotency"], [("keyExpression", .required, .text), ("ttl", .optional, .natural 64)]),
    (["mtls"], [("certPath", .required, .text), ("keyPath", .required, .text), ("caPath", .optional, .text)]),
    (["opa"], [("policyRef", .required, .text), ("decision", .optional, .text)]),
    (["secrets"], [("vaultPaths", .required, .list .text), ("refreshInterval", .optional, .natural 64)])]

def step : FieldShapes :=
  [("id", .required, .text), ("name", .required, .text), ("description", .optional, .text),
    ("step", .required, .family stepKinds), ("transport", .optional, .family transports),
    ("policies", .defaulted, .list (.family policies)), ("next", .defaulted, .list .text), ("error", .optional, .text)]

/-! ### Flows -/

def payloadSampling : FieldShapes :=
  [("rate", .required, .number), ("maxSize", .optional, .natural 64)]

def observability : FieldShapes :=
  [("traceId", .optional, .text), ("propagation", .defaulted, .oneOf ["w3c", "b3", "jaeger"]),
    ("sampleRate", .required, .number), ("payloadSampling", .optional, .mapping payloadSampling),
    ("metrics", .defaulted, .flag), ("logs", .defaulted, .flag)]

/-- The shape of a flow document. -/
def flow : Shape :=
  .mapping [("metadata", .required, .mapping metadata), ("triggers", .defaulted, .list (.family triggers)),
    ("steps", .required, .list (.mapping step)), ("observability", .optional, .mapping observability)]

end FlowCheck.Grammar
