import TagAtlas.Config.Env
import TagAtlas.Http.Router
import TagAtlas.Plan.Sectors
/-! The JSON forms of the library's values: query parameters and thresholds, candidates,
edges, neighbours, components, plans, corpus records, settings and HTTP responses. Objects
name their fields in snake case; a double that is not finite is written as the text `NaN`,
`inf` or `-inf`. -/
namespace TagAtlas

namespace Json

/-- A double; one that is not finite as its text. -/
def num (x : Float) : Json :=
  if x.isNaN then .str "NaN"
  else if x.isInf then .str (if x > 0.0 then "inf" else "-inf")
  else .float x

/-- An optional value, `null` when absent. -/
def opt {α : Type} (f : α → Json) : Option α → Json
  | some v => f v
  | none => .null

/-- A list of integers. -/
def ints (xs : List Int) : Json := .arr (xs.map .int)

/-- A list of naturals. -/
def nats (xs : List Nat) : Json := .arr (xs.map fun (n : Nat) => .int (n : Int))

/-- A list of texts. -/
def strs (xs : List String) : Json := .arr (xs.map .str)

/-- Pairs of a name and a text, as two-element lists. -/
def samples (xs : List (String × String)) : Json := .arr (xs.map fun (k, v) => .arr [.str k, .str v])

end Json

/-- The JSON form of overrides: each field or `null`. -/
def Overrides.toJson (o : Overrides) : Json :=
  .obj [("min_support", .opt .int o.minSupport), ("min_pair", .opt .int o.minPair),
        ("edge_threshold", .opt Json.num o.edgeThreshold), ("k", .opt .int o.k),
        ("max_sets", .opt .int o.maxSets), ("max_set_size", .opt .int o.maxSetSize),
        ("max_seed_cores", .opt .int o.maxSeedCores), ("macro_size", .opt .int o.macroSize),
        ("max_sets_total", .opt .int o.maxSetsTotal), ("triad_scan", .opt .int o.triadScan)]

/-- The JSON form of query parameters. -/
def Params.toJson (p : Params) : Json :=
  .obj [("namespace", .str p.namespace_.name), ("status_filter", .str p.statusFilter.name),
        ("view", .str p.view.name), ("custom_tagset", .str p.customTagset),
        ("consolidation", Json.num p.consolidation), ("max_tags", .int p.maxTags),
        ("max_mappers", .int p.maxMappers), ("overrides", p.overrides.toJson),
        ("is_custom", .bool p.isCustom)]

/-- The JSON form of thresholds. -/
def Tuning.toJson (t : Tuning) : Json :=
  .obj [("consolidation", Json.num t.consolidation), ("min_support", .int t.minSupport),
        ("min_pair", .int t.minPair), ("edge_threshold", Json.num t.edgeThreshold), ("k", .int t.k),
        ("max_sets", .int t.maxSets), ("max_set_size", .int t.maxSetSize),
        ("max_sets_single", .int t.maxSetsSingle), ("max_seed_cores", .int t.maxSeedCores),
        ("macro_size", .int t.macroSize), ("max_sets_total", .int t.maxSetsTotal),
        ("triad_scan", .int t.triadScan), ("forces_singletons", .bool t.forcesSingletons),
        ("forces_single_component", .bool t.forcesSingleComponent)]

/-- The JSON form of candidates: pairs of tag and support. -/
def CandidateSet.toJson (c : CandidateSet) : Json :=
  .arr (c.tags.toList.map fun t => .arr [.int t.tag, .int t.support])

/-- The JSON form of memberships: pairs of item and dense indices. -/
def membershipsJson (ms : List (Int × List Nat)) : Json :=
  .arr (ms.map fun (item, tags) => .arr [.int item, Json.nats tags])

/-- The JSON form of an edge. -/
def Edge.toJson (e : Edge) : Json := .arr [.int e.a, .int e.b, .int e.cooccurrence, Json.num e.npmi]

/-- The JSON form of the neighbour lists of a graph. -/
def NeighborGraph.toJson (g : NeighborGraph) : Json :=
  .arr (g.lists.toList.map fun l => .arr (l.map fun n => .arr [.int n.tag, Json.num n.npmi, .int n.cooccurrence]))

/-- The JSON form of a component. -/
def Component.toJson (c : Component) : Json := .obj [("members", Json.nats c.members), ("mass", .int c.mass)]

/-- The JSON form of a planned sector. -/
def PlannedSector.toJson (p : PlannedSector) : Json :=
  .obj [("tags", Json.ints p.tags), ("items", Json.ints p.items)]

/-- The JSON form of a plan. -/
def SectorPlan.toJson (p : SectorPlan) : Json :=
  .obj [("sectors", .arr (p.sectors.map PlannedSector.toJson)),
        ("stats", .obj [("total_items", .int p.stats.totalItems), ("candidates", .int p.stats.candidates),
                        ("edges", .int p.stats.edges), ("components", .int p.stats.components)])]

/-- The JSON form of an application as a five-element row. -/
def Application.toRow (a : Application) : Json :=
  .arr [.int a.item, .int a.tag, .opt .int a.contributor, .bool a.negative, .bool a.predicted]

/-- The JSON form of a dataset as rows. -/
def Dataset.toRows (d : Dataset) : Json :=
  .obj [("applications", .arr (d.applications.map Application.toRow)),
        ("tags", .arr (d.tags.map fun t => .arr [.int t.id, .str t.name, .str t.namespace_])),
        ("items", .arr (d.items.map fun i => .arr [.int i.id, .str i.status, .str i.attribution]))]

/-- The JSON form of a dataset as records with named fields. -/
def Dataset.toJson (d : Dataset) : Json :=
  .obj [("applications", .arr (d.applications.map fun a =>
          .obj [("item_id", .int a.item), ("tag_id", .int a.tag), ("contributor_id", .opt .int a.contributor),
                ("is_negative", .bool a.negative), ("is_prediction", .bool a.predicted)])),
        ("tags", .arr (d.tags.map fun t =>
          .obj [("id", .int t.id), ("name", .str t.name), ("namespace", .str t.namespace_)])),
        ("items", .arr (d.items.map fun i =>
          .obj [("id", .int i.id), ("status", .str i.status), ("attribution", .str i.attribution)]))]

/-- The JSON form of settings. -/
def Config.toJson (c : Config) : Json :=
  .obj [("http_bind", .str c.httpBind.text), ("db_dsn", .str c.dbDsn),
        ("default_consolidation", Json.num c.defaultConsolidation),
        ("query_timeout_secs", .int c.queryTimeoutSecs),
        ("otel_exporter_endpoint", .opt .str c.otelEndpoint),
        ("otel_sampling_ratio", Json.num c.otelSamplingRatio),
        ("tracing", .obj [("otlp_endpoint", .opt .str c.otelEndpoint),
                          ("sampling_ratio", Json.num c.otelSamplingRatio)]),
        ("db_max_connections", .int c.dbMaxConnections), ("db_min_connections", .int c.dbMinConnections),
        ("db_acquire_timeout_secs", .int c.dbAcquireTimeoutSecs),
        ("db_idle_timeout_secs", .int c.dbIdleTimeoutSecs),
        ("db_max_lifetime_secs", .int c.dbMaxLifetimeSecs)]

/-- The JSON form of a settings error. -/
def ConfigError.toJson (e : ConfigError) : Json := .obj [("error", .str e.kind), ("message", .str e.message)]

/-- The JSON form of a response; the ping time of a readiness report is masked as `true`. -/
def Response.toJson (r : Response) : Json :=
  let body := match r.body with
    | .json (.obj ms) => .obj (ms.map fun (k, v) => if k == "corpus_store_ms" then (k, .bool true) else (k, v))
    | .json v => v
    | .text t => .str t
    | .samples xs => Json.samples xs
  .obj [("status", .int r.status), ("content_type", .opt .str r.contentType), ("body", body)]

end TagAtlas
