import ModelSync.Client.Config
import ModelSync.Client.EnvFile
import ModelSync.Client.LogFilter
import ModelSync.Log
/-!
Loading the configuration and installing logging.

Loading reads an environment file first, if there is one: its variables are
added to the environment where not already set, and a line it cannot read is
reported as a warning, not a failure. The configuration is then read from the
environment.

Logging is installed once per process. Its filter is the `RUST_LOG` variable
when that is set and well formed, otherwise the configured filter, which must
then be well formed; a second installation is refused. Reading either filter
may end the process instead (see `LogFilter.FilterError.splitCharacter`).
-/
namespace ModelSync

namespace ClientConfig

/-- The configuration after loading an environment file's text, if any, into
the environment, with the records logged on the way. -/
def load (env : List (String × String)) (file : Option String) :
    Except ConfigError ClientConfig × List LogRecord :=
  let (env, failure) := match file with
    | some text => EnvFile.load env text
    | none => (env, none)
  let logs : List LogRecord := match failure with
    | some e =>
      [⟨.warn, .config, "Failed to read .env file", [("error", .string e.message)]⟩]
    | none => []
  (ofLookup (fun key => env.lookup key), logs)

end ClientConfig

/-- Whether logging has been installed in this process. -/
structure LoggingSetup where
  installed : Bool := false
  deriving DecidableEq, Repr

/-- The text of the failure to install logging twice. -/
def LoggingSetup.alreadySet : String := "a global default trace dispatcher has already been set"

/-- Installs logging with the filter from `RUST_LOG` or the configuration;
`none` when reading a filter stops at a cut inside a character, which ends
the process. -/
def LoggingSetup.install (setup : LoggingSetup) (rustLog : Option String) (config : ClientConfig) :
    Option (Except ConfigError Unit × LoggingSetup) :=
  let filter : Except LogFilter.FilterError (List LogFilter.Directive) :=
    match rustLog.map LogFilter.parse with
    | some (.ok directives) => .ok directives
    | some (.error .splitCharacter) => .error .splitCharacter
    | _ => LogFilter.parse config.logFilter
  match filter with
  | .error .splitCharacter => none
  | .error e => some (.error (.invalidLogFilter e.message), setup)
  | .ok _ =>
    if setup.installed then some (.error (.loggingInitialized alreadySet), setup)
    else some (.ok (), { installed := true })

end ModelSync
