import ModelSync.Auth.Candidate
import ModelSync.Json.Value
/-!
Client configuration, read from three environment variables: the default
authorization type (`SYNCQL_AUTH_MODE`, a type name), whether candidates are
derived from each model's rules (`SYNCQL_MULTI_AUTH`, a flag), and the log
filter (`SYNCQL_LOG`, kept as given). Unset variables take their defaults;
the authorization type is checked before the flag.
-/
namespace ModelSync

/-- The log filter used when none is configured. -/
def defaultLogFilter : String := "syncql_client=debug"

/-- How the client is configured. -/
structure ClientConfig where
  defaultAuthType : AuthType := .apiKey
  multiAuth : Bool := false
  logFilter : String := defaultLogFilter
  deriving DecidableEq, Repr, Inhabited

/-- A configuration or logging setup failure. -/
inductive ConfigError where
  | invalidAuthMode (value : String)
  | invalidMultiAuth (value : String)
  | invalidLogFilter (reason : String)
  | loggingInitialized (reason : String)
  deriving DecidableEq, Repr

namespace ConfigError

/-- The message of a configuration failure. -/
def message : ConfigError → String
  | invalidAuthMode v => "Invalid SYNCQL_AUTH_MODE value: " ++ v
  | invalidMultiAuth v => "Invalid SYNCQL_MULTI_AUTH value: " ++ v
  | invalidLogFilter r => "Invalid log filter: " ++ r
  | loggingInitialized r => "Logging already initialized: " ++ r

/-- The name of the failure's kind. -/
def kind : ConfigError → String
  | invalidAuthMode _ => "InvalidAuthMode"
  | invalidMultiAuth _ => "InvalidMultiAuth"
  | invalidLogFilter _ => "InvalidLogFilter"
  | loggingInitialized _ => "LoggingInitialized"

end ConfigError

namespace ClientConfig

/-- Reads a flag: `1 true yes on` or `0 false no off`, ignoring surrounding
blanks and the case of ASCII letters. -/
def parseFlag (value : String) : Option Bool :=
  match Text.asciiLower (Text.trimBlanks value) with
  | "1" | "true" | "yes" | "on" => some true
  | "0" | "false" | "no" | "off" => some false
  | _ => none

/-- The configuration given by a variable lookup. -/
def ofLookup (lookup : String → Option String) : Except ConfigError ClientConfig := do
  let defaultAuthType ← match lookup "SYNCQL_AUTH_MODE" with
    | some v => (AuthType.parse v).mapError fun _ => ConfigError.invalidAuthMode v
    | none => pure .apiKey
  let multiAuth ← match lookup "SYNCQL_MULTI_AUTH" with
    | some v =>
      match parseFlag v with
      | some b => pure b
      | none => throw (ConfigError.invalidMultiAuth v)
    | none => pure false
  let logFilter := (lookup "SYNCQL_LOG").getD defaultLogFilter
  pure { defaultAuthType, multiAuth, logFilter }

/-- The configuration as `{default_auth_type, multi_auth, log_filter}`. -/
def toJson (c : ClientConfig) : JsonValue :=
  .ofMembers [("default_auth_type", .string c.defaultAuthType.wireName),
    ("multi_auth", .bool c.multiAuth), ("log_filter", .string c.logFilter)]

/-- Where a model's candidates come from: its rules when multi-auth is on and
it has any, otherwise the default type. -/
def candidatesFor (c : ClientConfig) (s : ModelSchema) : CandidateSource :=
  if c.multiAuth && !s.authRules.isEmpty then .ofRules s.authRules else .fixed c.defaultAuthType

example : parseFlag " Yes\n" = some true := by decide +kernel

end ClientConfig
end ModelSync
