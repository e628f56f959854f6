import TagAtlas.Config.Env
import TagAtlas.Service.Log
import TagAtlas.Service.Metrics
import TagAtlas.Store.Connection
/-! The component registry: the settings, the service's metrics and the corpus database pool.
Building it connects to nothing; it checks the connection string, and a fault there fails the
build with the pool's context around the fault's chain. Connection parameters the database
does not know are logged as warnings while the string is checked. -/
namespace TagAtlas

/-- The context of a pool that cannot be configured. -/
def poolContext : String := "failed to configure corpus db connection pool"

/-- The built registry: its settings and fresh metrics. -/
structure Registry where
  config : Config
  metrics : Metrics := {}

/-- The warning logged for an unknown connection parameter, naming it and its value. -/
def ignoredParameter (key value : String) : LogRecord :=
  { level := .warn, target := "sqlx_postgres::options::parse"
    message := "ignoring unrecognized connect parameter"
    fields := [("key", .str key), ("value", .str value)] }

namespace Registry

/-- Build the registry from settings: the registry or the chain of the fault, and the records
logged on the way. -/
def build (config : Config) : Except (List String) Registry × List LogRecord :=
  let check := Connection.check config.dbDsn
  let records := check.ignored.map fun (k, v) => ignoredParameter k v
  match check.fault with
  | some causes => (.error (poolContext :: causes), records)
  | none => (.ok { config }, records)

end Registry

end TagAtlas
