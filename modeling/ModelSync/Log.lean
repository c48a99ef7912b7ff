import ModelSync.Json.Value
/-!
Log records: what the client reports while it works, as data. A record has a
level, the part of the client it comes from, a message and named values; it
is written as `{"level", "target", "fields"}` with the message among the
fields under `"message"`.
-/
namespace ModelSync

/-- How severe a log record is. -/
inductive LogLevel where
  | trace
  | debug
  | info
  | warn
  | error
  deriving DecidableEq, Repr

/-- The level's name in upper case. -/
def LogLevel.name : LogLevel → String
  | .trace => "TRACE"
  | .debug => "DEBUG"
  | .info => "INFO"
  | .warn => "WARN"
  | .error => "ERROR"

/-- The part of the client a record comes from. -/
inductive LogSource where
  /-- A subscription's lifecycle and candidate loop. -/
  | operation
  /-- The registry of live subscriptions. -/
  | registry
  /-- The client that creates subscriptions. -/
  | client
  /-- Loading the configuration. -/
  | config
  deriving DecidableEq, Repr

/-- The module path a source is reported under. -/
def LogSource.target : LogSource → String
  | .operation => "syncql_client::subscription::operation"
  | .registry => "syncql_client::registry"
  | .client => "syncql_client::client"
  | .config => "syncql_client::config"

/-- One log record. -/
structure LogRecord where
  level : LogLevel
  source : LogSource
  message : String
  fields : List (String × JsonValue) := []

/-- The record as `{"level", "target", "fields"}`. -/
def LogRecord.toJson (r : LogRecord) : JsonValue :=
  .ofMembers [("level", .string r.level.name), ("target", .string r.source.target),
    ("fields", .ofMembers (("message", .string r.message) :: r.fields))]

end ModelSync
