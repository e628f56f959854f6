import TagAtlas.Config.Env
import TagAtlas.Http.Form
import TagAtlas.Net.Uri
import TagAtlas.Service.Query
/-! The HTTP interface of the worker. Four routes answer `GET` (and `HEAD`, which drops the
body): `/v1/tagmap` computes sectors from the query string, `/health/live` and
`/health/ready` report liveness and whether the corpus store answers, and `/metrics` reports
the service's samples. Another method on a route is refused with 405, an unknown path with
404, both with an empty body.

A tag map query runs under the configured timeout. A failed query answers 500 and a query past
its deadline 504, each with an error message; every 5xx answer is also logged as a failed
response. -/
namespace TagAtlas

/-- The body of a response. -/
inductive Body
  | json (value : Json)
  | text (value : String)
  | samples (values : List (String × String))
  deriving Inhabited

/-- A response: status, content type and body. -/
structure Response where
  status : Nat
  contentType : Option String
  body : Body
  deriving Inhabited

/-- A request: method and target. -/
structure Request where
  method : String := "GET"
  uri : String
  deriving Inhabited

/-- The span a request is served in, with its method, target and protocol version. -/
def Request.span (req : Request) : LogSpan :=
  { name := "request", target := "tower_http::trace::make_span", level := .debug
    fields := [("method", .shown req.method), ("uri", .shown (Uri.shown req.uri)),
               ("version", .shown "HTTP/1.1")] }

/-- The reason phrase of a status. -/
def statusReason : Nat → String
  | 200 => "OK"
  | 404 => "Not Found"
  | 405 => "Method Not Allowed"
  | 500 => "Internal Server Error"
  | 503 => "Service Unavailable"
  | 504 => "Gateway Timeout"
  | _ => ""

/-- The content type of JSON bodies. -/
def jsonType : String := "application/json"

/-- The content type of the metrics text. -/
def metricsType : String := "text/plain; version=0.0.4"

/-- A JSON response. -/
def jsonResponse (status : Nat) (value : Json) : Response := ⟨status, some jsonType, .json value⟩

/-- A JSON error response. -/
def errorResponse (status : Nat) (message : String) : Response :=
  jsonResponse status (.obj [("error", .str message)])

/-- The worker as a server: its settings, its store and its service state. -/
structure Server where
  config : Config
  store : FaultyStore
  state : ServiceState := {}

namespace Server

/-- Emit a record. -/
def emit (s : Server) (r : LogRecord) : Server := { s with state := s.state.emit r }

/-- Answer a tag map query string. -/
def tagMap (s : Server) (query : String) : Response × Server :=
  let params := Params.ofQuery (RawQuery.ofPairs (Form.pairs query)) s.config.defaultConsolidation
  let (outcome, state) := s.state.query s.store (some (1000 * s.config.queryTimeoutSecs)) params
  let s := { s with state }
  match outcome with
  | .finished (.ok sectors) => (jsonResponse 200 (sectorsJson sectors), s)
  | .finished (.error e) =>
    (errorResponse 500 e.text,
      s.emit { level := .error, target := "tagmap_worker::api::tagmap"
               message := "failed to compute tag map", fields := [("error", .str e.text)] })
  | .dropped =>
    (errorResponse 504 "tag map query timed out",
      s.emit { level := .warn, target := "tagmap_worker::api::tagmap"
               message := "tag map query exceeded deadline"
               fields := [("timeout_secs", .float s.config.queryTimeoutSecs.toFloat)] })

/-- Answer the readiness probe: the store is pinged, taking its wait in milliseconds. -/
def ready (s : Server) : Response × Server :=
  match s.store.ping with
  | .ok () =>
    (jsonResponse 200 (.obj [("status", .str "ready"),
      ("corpus_store_ms", .float (s.store.faults.delay .ping).toFloat)]), s)
  | .error message =>
    let s := s.emit { level := .warn, target := "tagmap_worker::observability"
                      message := "service ready probe failed" }
    let s := s.emit { level := .error, target := "tagmap_worker::api::health"
                      message := "corpus store readiness check failed: " ++ message }
    (jsonResponse 503 (.obj [("status", .str "degraded"), ("detail", .str ("corpus_store: " ++ message))]), s)

/-- The routes, by path. -/
def routes : List String := ["/health/ready", "/health/live", "/metrics", "/v1/tagmap"]

/-- Answer a `GET` on a route. -/
def get (s : Server) (path query : String) : Response × Server :=
  if path = "/v1/tagmap" then s.tagMap query
  else if path = "/health/ready" then s.ready
  else if path = "/health/live" then (jsonResponse 200 (.obj [("status", .str "live")]), s)
  else (⟨200, some metricsType, .samples s.state.metrics.samples⟩, s)

/-- Log a response that failed with a 5xx status. -/
def classify (s : Server) (r : Response) : Server :=
  if r.status ≥ 500 then
    s.emit { level := .error, target := "tower_http::trace::on_failure", message := "response failed"
             fields := [("classification",
               .str ("Status code: " ++ toString r.status ++ " " ++ statusReason r.status))]
             unshown := ["latency"] }
  else s

/-- Answer one request. -/
def respond (s : Server) (req : Request) : Response × Server :=
  let (path, query) := Uri.pathAndQuery req.uri
  if !routes.contains path then (⟨404, none, .text ""⟩, s)
  else if req.method == "GET" || req.method == "HEAD" then
    let (r, s) := s.get path query
    let r := if req.method == "HEAD" then
        { r with body := match r.body with
          | .samples _ => .samples []
          | _ => .text "" }
      else r
    (r, s.classify r)
  else (⟨405, none, .text ""⟩, s)

/-- Serve one request, its records emitted in the request's span. -/
def serve (s : Server) (req : Request) : Response × Server :=
  let start := s.state.records.size
  let (r, s) := s.respond req
  (r, { s with state := s.state.enclose start req.span })

/-- Serve requests in order. -/
def serveAll (s : Server) (reqs : List Request) : List Response × Server :=
  let (rs, s) := reqs.foldl (fun (rs, s) req => let (r, s) := s.serve req; (rs.push r, s)) (#[], s)
  (rs.toList, s)

end Server

end TagAtlas
