import TagAtlas.Decimal.Text
import TagAtlas.Net.SocketAddr
import TagAtlas.Numeral.Integer
import TagAtlas.Numeral.Real
import TagAtlas.Query.Params
/-! The settings of the worker, read from environment variables in a fixed order; the first
bad value is reported. The database address is required and must not be blank. Numbers are
read exactly as written, without trimming: counts of connections as 32-bit and durations in
seconds as 64-bit unsigned integers, ratios as doubles that must be finite and within
`[0, 1]`. The query timeout must be positive, and the least number of connections must not
exceed the greatest. A blank exporter endpoint counts as none. -/
namespace TagAtlas

/-- The variables of an environment, first setting first. -/
abbrev Env := List (String × String)

/-- The settings of the worker. -/
structure Config where
  httpBind : SocketAddr
  dbDsn : String
  defaultConsolidation : Float
  queryTimeoutSecs : Nat
  otelEndpoint : Option String
  otelSamplingRatio : Float
  dbMaxConnections : Nat
  dbMinConnections : Nat
  dbAcquireTimeoutSecs : Nat
  dbIdleTimeoutSecs : Nat
  dbMaxLifetimeSecs : Nat
  deriving Inhabited

/-- Why the settings do not read: a required variable is missing, or a value is invalid
with a chain of causes, outermost first. -/
inductive ConfigError
  | missing (name : String)
  | invalid (name : String) (causes : List String)
  deriving DecidableEq, Repr

namespace ConfigError

/-- The kind of the error, as reported. -/
def kind : ConfigError → String
  | missing _ => "ConfigError::Missing"
  | invalid _ _ => "ConfigError::Invalid"

/-- The text of the error. -/
def message : ConfigError → String
  | missing name => "missing environment variable: " ++ name
  | invalid name causes => "invalid value for " ++ name ++ ": " ++ causes.headD ""

/-- The error and its causes, outermost first. -/
def chain (e : ConfigError) : List String :=
  match e with
  | missing _ => [e.message]
  | invalid _ causes => e.message :: causes

end ConfigError

namespace Config

/-- The value of a variable, or a default text when it is not set. -/
def valueOr (env : Env) (name fallback : String) : String := (env.lookup name).getD fallback

/-- A required variable: set and not blank. -/
def requireVar (env : Env) (name : String) : Except ConfigError String :=
  match env.lookup name with
  | some v => if Text.isBlankText v then .error (.missing name) else .ok v
  | none => .error (.missing name)

/-- Read a text as a socket address, for the variable `name`. -/
def parseSocketAddr (name v : String) : Except ConfigError SocketAddr :=
  match SocketAddr.parse? v with
  | some a => .ok a
  | none => .error (.invalid name [socketAddrError])

/-- Read a text as an unsigned integer of some range, for the variable `name`. -/
def parseCount (range : Numeral.IntRange) (name v : String) : Except ConfigError Nat :=
  match Numeral.readInt range v with
  | .ok n => .ok n.toNat
  | .error e => .error (.invalid name [e.message])

/-- Read a text as a double within `[0, 1]`, for the variable `name`. -/
def parseUnit (name v : String) : Except ConfigError Float :=
  match Numeral.readReal v with
  | .error e => .error (.invalid name [e.message])
  | .ok x =>
    if x.isNaN || x.isInf || x < 0.0 || x > 1.0 then
      .error (.invalid name ["value must be between 0.0 and 1.0, got " ++ Decimal.messageText x])
    else .ok x

/-- A socket address variable, or a default text when it is not set. -/
def readSocketAddr (env : Env) (name fallback : String) : Except ConfigError SocketAddr :=
  parseSocketAddr name (valueOr env name fallback)

/-- An unsigned integer variable of some range. -/
def readCount (env : Env) (range : Numeral.IntRange) (name : String) (fallback : Nat) :
    Except ConfigError Nat :=
  parseCount range name (valueOr env name (toString fallback))

/-- A double variable within `[0, 1]`. -/
def readUnit (env : Env) (name : String) (fallback : String) : Except ConfigError Float :=
  parseUnit name (valueOr env name fallback)

/-- Read the settings from an environment. -/
def ofEnv (env : Env) : Except ConfigError Config := do
  let dbDsn ← requireVar env "TAGMAP_DB_DSN"
  let httpBind ← readSocketAddr env "TAGMAP_WORKER_HTTP_BIND" "0.0.0.0:9010"
  let defaultConsolidation ← readUnit env "TAGMAP_DEFAULT_CONSOLIDATION" "0.1"
  let queryTimeoutSecs ← readCount env .u64 "TAGMAP_QUERY_TIMEOUT_SECS" 30
  if queryTimeoutSecs = 0 then
    .error (.invalid "TAGMAP_QUERY_TIMEOUT_SECS" ["must be greater than zero"])
  let otelEndpoint := (env.lookup "OTEL_EXPORTER_OTLP_ENDPOINT").filter (!Text.isBlankText ·)
  let otelSamplingRatio ← readUnit env "OTEL_SAMPLING_RATIO" "1"
  let dbMaxConnections ← readCount env .u32 "TAGMAP_DB_MAX_CONNECTIONS" 10
  let dbMinConnections ← readCount env .u32 "TAGMAP_DB_MIN_CONNECTIONS" 1
  if dbMinConnections > dbMaxConnections then
    .error (.invalid "TAGMAP_DB_MIN_CONNECTIONS"
      ["must not exceed TAGMAP_DB_MAX_CONNECTIONS (" ++ toString dbMaxConnections ++ ")"])
  let dbAcquireTimeoutSecs ← readCount env .u64 "TAGMAP_DB_ACQUIRE_TIMEOUT_SECS" 30
  let dbIdleTimeoutSecs ← readCount env .u64 "TAGMAP_DB_IDLE_TIMEOUT_SECS" 600
  let dbMaxLifetimeSecs ← readCount env .u64 "TAGMAP_DB_MAX_LIFETIME_SECS" 1800
  pure { httpBind, dbDsn, defaultConsolidation, queryTimeoutSecs, otelEndpoint, otelSamplingRatio,
         dbMaxConnections, dbMinConnections, dbAcquireTimeoutSecs, dbIdleTimeoutSecs,
         dbMaxLifetimeSecs }

end Config

end TagAtlas
