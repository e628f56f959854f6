/-! The metrics of the query service and their registration. The service counts queries,
failures, empty results and emitted sectors, observes the durations of queries, corpus loads
and plans, and keeps two gauges: the candidate count of the latest plan and the queries in
flight. Durations are measured, so only the number of observations is reported.

A registry holds metric families by name. A family needs a help text and a name of letters,
digits, `_` and `:` that does not start with a digit; a second family of a name already
registered is refused. -/
namespace TagAtlas

/-- The counters and gauges of the query service, with the observation counts of its
histograms. -/
structure Metrics where
  queries : Nat := 0
  failures : Nat := 0
  emptyResults : Nat := 0
  sectorsEmitted : Nat := 0
  queryDurations : Nat := 0
  corpusLoads : Nat := 0
  plans : Nat := 0
  candidateTags : Nat := 0
  inflight : Nat := 0
  deriving Repr, BEq, Inhabited

namespace Metrics

/-- The reported samples, by name: counters, gauges and histogram counts. -/
def samples (m : Metrics) : List (String × String) :=
  [("tagmap_candidate_tags", toString m.candidateTags),
   ("tagmap_corpus_load_duration_seconds_count", toString m.corpusLoads),
   ("tagmap_empty_results_total", toString m.emptyResults),
   ("tagmap_inflight_queries", toString m.inflight),
   ("tagmap_plan_duration_seconds_count", toString m.plans),
   ("tagmap_queries_total", toString m.queries),
   ("tagmap_query_duration_seconds_count", toString m.queryDurations),
   ("tagmap_query_failures_total", toString m.failures),
   ("tagmap_sectors_emitted_total", toString m.sectorsEmitted)]

end Metrics

/-- The kind of a metric family. -/
inductive MetricKind
  | counter
  | gauge
  | histogram
  deriving DecidableEq, Repr, Inhabited

/-- A metric family to register. -/
structure MetricFamily where
  name : String
  help : String
  kind : MetricKind := .counter
  deriving Repr, Inhabited

/-- The families of the query service, in registration order. -/
def serviceFamilies : List MetricFamily :=
  [⟨"tagmap_queries_total", "Total number of tag map queries received", .counter⟩,
   ⟨"tagmap_query_failures_total",
     "Number of tag map queries that failed on upstream or worker errors", .counter⟩,
   ⟨"tagmap_empty_results_total", "Number of tag map queries that produced no sectors", .counter⟩,
   ⟨"tagmap_sectors_emitted_total", "Total number of sectors returned to callers", .counter⟩,
   ⟨"tagmap_query_duration_seconds", "End-to-end duration of a tag map query", .histogram⟩,
   ⟨"tagmap_corpus_load_duration_seconds", "Duration of the batched tag application read",
     .histogram⟩,
   ⟨"tagmap_plan_duration_seconds", "Duration of in-memory sector planning", .histogram⟩,
   ⟨"tagmap_candidate_tags", "Number of candidate tags in the most recent plan", .gauge⟩,
   ⟨"tagmap_inflight_queries", "Number of tag map queries currently being computed", .gauge⟩]

/-- Why a registration is refused. -/
inductive RegisterError
  | duplicate
  | invalid (reason : String)
  deriving DecidableEq, Repr

/-- The text of a refusal. -/
def RegisterError.message : RegisterError → String
  | .duplicate => "Duplicate metrics collector registration attempted"
  | .invalid reason => "Error: " ++ reason

/-- Whether a text is a metric name: letters, digits, `_` and `:`, not starting with a digit. -/
def validMetricName (name : String) : Bool :=
  let ok (c : Char) := c.isAlphanum || c == '_' || c == ':'
  match name.toList with
  | [] => false
  | c :: rest => (ok c && !c.isDigit) && rest.all ok

/-- Register a family after the given names, or say why not. -/
def registerFamily (names : List String) (f : MetricFamily) : Except RegisterError (List String) :=
  if f.help.isEmpty then .error (.invalid "empty help string")
  else if !validMetricName f.name then
    .error (.invalid ("'" ++ f.name ++ "' is not a valid metric name"))
  else if names.contains f.name then .error .duplicate
  else .ok (names ++ [f.name])

/-- Register families in order, stopping at the first refusal. -/
def registerAll (names : List String) (fs : List MetricFamily) : Except RegisterError (List String) :=
  fs.foldlM registerFamily names

/-- The sorted family names of a registry holding `pre` and then the service families. -/
def registeredNames (pre : List MetricFamily) : Except RegisterError (List String) := do
  let names ← registerAll [] pre
  let names ← registerAll names serviceFamilies
  pure (names.mergeSort (fun a b => a ≤ b))

end TagAtlas
