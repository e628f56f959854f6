import TagAtlas.Cli.Report
import TagAtlas.Net.Bind
import TagAtlas.Service.Registry
import TagAtlas.Service.Telemetry
/-! Starting the worker's server and stopping it with an interrupt. The server reads its
settings from the environment, builds the registry (which sets up tracing), logs its settings,
binds its listener and logs the address, then waits for the interrupt and shuts down. Each
failing step ends the run with exit code 1 and an error report on the error stream: settings
that do not read, a registry that does not build, a listener that does not bind. A settings
error comes before tracing is set up, so nothing is logged then. -/
namespace TagAtlas

/-- The target of the server's own records. -/
def serverTarget : String := "tagmap_worker"

/-- How a server run ends: its exit code, whether the interrupt stopped it, the records it
printed, and its error report. -/
structure ServerExit where
  code : Nat
  signalled : Bool
  logs : List LogRecord
  report : Option Report
  deriving Inhabited

/-- The record of the settings the worker runs with. -/
def configuredRecord (c : Config) : LogRecord :=
  { level := .info, target := serverTarget, message := "tag map worker configured"
    fields := [("default_consolidation", .float c.defaultConsolidation),
               ("query_timeout_secs", .int c.queryTimeoutSecs)] }

/-- The record of the address listened on. -/
def listeningRecord (addr : SocketAddr) : LogRecord :=
  { level := .info, target := serverTarget, message := "listening"
    fields := [("bind_addr", .str addr.text)] }

/-- The record of the interrupt. -/
def shutdownRecord : LogRecord :=
  { level := .info, target := serverTarget, message := "shutdown signal received" }

/-- Run the server in an environment, with a log filter setting, until it is interrupted. -/
def runServer (env : Env) (logSetting : Option String) : ServerExit :=
  match Config.ofEnv env with
  | .error e => ⟨1, false, [], some ⟨"failed to load configuration", e.chain⟩⟩
  | .ok config =>
    let tracing : Tracing := { endpoint := config.otelEndpoint }
    let print := tracing.printed (LogFilter.ofSetting logSetting)
    match Registry.build config with
    | (.error causes, warnings) =>
      ⟨1, false, print warnings, some ⟨"failed to build component registry", causes⟩⟩
    | (.ok _, warnings) =>
      let started := warnings ++ [configuredRecord config]
      match config.httpBind.bind with
      | .error e =>
        ⟨1, false, print started,
          some ⟨"failed to bind listener on " ++ config.httpBind.text, [e.message]⟩⟩
      | .ok () =>
        ⟨0, true, print (started ++ [listeningRecord config.httpBind, shutdownRecord]), none⟩

end TagAtlas
