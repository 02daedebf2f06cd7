import FlowCheck.Model.Flow
import FlowCheck.Rules.Basic

/-!
# Rules on triggers
-/

namespace FlowCheck.Rules

def hasText (text : Option String) : Bool :=
  text.any (!Text.blank ·)

def dateRange (path : Path) : Option Instant → Option Instant → List Finding
  | some start, some finish =>
    Finding.when (finish.le start)
      (.error (path.field "endDate") .scheduleDateRangeInvalid
        s!"start date {start.offsetText} must be before end date {finish.offsetText}")
  | _, _ => []

/-- The findings on one trigger. -/
def trigger (path : Path) : Trigger → List Finding
  | .http t =>
    Finding.when (t.auth.any fun auth => auth.kind == .apiKey && !hasText auth.key)
      (.error ((path.field "auth").field "key") .httpApiKeyMissing
        "apiKey authentication requires a non-empty key") ++
    Finding.when (t.rateLimit.any (·.requests == 0))
      (.error ((path.field "rateLimit").field "requests") .httpRateLimitInvalid
        "rate limit must allow at least one request")
  | .schedule t =>
    let count := (Text.fields t.cron.toList).length
    Finding.when (!(5 ≤ count && count ≤ 6))
      (.error (path.field "cron") .scheduleCronInvalid
        s!"cron expression '{t.cron}' has {count} fields, expected 5 or 6") ++
    dateRange path t.startDate t.endDate
  | .kafka t =>
    requireSome path "bootstrapServers" .kafkaBootstrapServersMissing
      "kafka trigger needs at least one bootstrap server" t.bootstrapServers
  | .mqtt t => requireQos path t.qos
  | .sftp t =>
    Finding.when (!hasText t.password && !hasText t.privateKey)
      (.error path .sftpAuthMissing "sftp trigger needs a password or a private key")
  | .jdbc t => requireJdbc path .jdbcUrlInvalid t.url
  | .fileWatch t =>
    Finding.when t.events.isEmpty
      (.error (path.field "events") .fileWatchEventsMissing "file watch trigger needs at least one event")

/-- The findings on all triggers. -/
def triggers (flow : Flow) : List Finding :=
  (flow.triggers.mapIdx fun i t => trigger ((Path.mk "triggers" []).index i) t).flatten

end FlowCheck.Rules
