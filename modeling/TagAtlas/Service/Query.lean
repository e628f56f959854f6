import TagAtlas.Plan.Sectors
import TagAtlas.Report.Sector
import TagAtlas.Service.Log
import TagAtlas.Service.Metrics
import TagAtlas.Store.Faults
/-! The query service: one query from parameters to reported sectors, over a corpus store.

A query loads the admitted applications; an empty load answers no sectors. An explicit tag
set is resolved to tag ids by name (includes and excludes in the order written, each id
once); with no include resolved the answer is empty. Otherwise the sectors are planned, and
for a non-empty plan the tag names and item attributions are read and the sectors reported.
A failed read fails the whole query.

Every query is counted and is in flight while it runs. A finished query has its duration
observed, and counts as empty, as emitting its sectors, or as failed. Reads may wait; under a
deadline a query whose waits run past it is dropped at that point, keeping only the effects
it had so far. -/
namespace TagAtlas

/-- A failed query: a store read failed with a message. -/
structure QueryError where
  message : String
  deriving Repr, BEq, Inhabited

/-- The text of a failed query. -/
def QueryError.text (e : QueryError) : String := "corpus accessor failed: " ++ e.message

/-- The mutable part of the service: its metrics, the records it has emitted and the reads it
has made of its store. -/
structure ServiceState where
  metrics : Metrics := {}
  records : Array LogRecord := #[]
  reads : Array Accessor := #[]
  deriving Inhabited

namespace ServiceState

/-- Change the metrics. -/
def update (s : ServiceState) (f : Metrics → Metrics) : ServiceState :=
  { s with metrics := f s.metrics }

/-- Emit a record. -/
def emit (s : ServiceState) (r : LogRecord) : ServiceState :=
  { s with records := s.records.push r }

/-- Note a read of the store. -/
def noteRead (s : ServiceState) (a : Accessor) : ServiceState :=
  { s with reads := s.reads.push a }

/-- Put the records emitted from position `start` on inside a span. -/
def enclose (s : ServiceState) (start : Nat) (sp : LogSpan) : ServiceState :=
  { s with records := s.records.extract 0 start ++ (s.records.extract start s.records.size).map (·.within sp) }

end ServiceState

/-- Why a query run stops before its end: it has its answer, or its deadline passed. -/
inductive Halt
  | answer (result : Except QueryError (List Sector))
  | dropped

/-- The state of a running query: the service state and the virtual time in milliseconds. -/
structure RunState where
  service : ServiceState
  now : Nat := 0

/-- A step of a running query. -/
abbrev QueryRun := ExceptT Halt (StateM RunState)

/-- The target of the service's records. -/
def serviceTarget : String := "tagmap_worker::tagmap::service"

/-- The span a query runs in, with its namespace, view, status filter and consolidation. -/
def Params.span (p : Params) : LogSpan :=
  { name := "query", target := serviceTarget, level := .info
    fields := [("namespace", .shown p.namespace_.name), ("view", .text p.view.name),
               ("status", .text p.statusFilter.name), ("consolidation", .float p.consolidation)] }

namespace QueryRun

/-- Change the metrics. -/
def metric (f : Metrics → Metrics) : QueryRun Unit :=
  modify fun s => { s with service := s.service.update f }

/-- Stop with an answer. -/
def finish {α : Type} (result : Except QueryError (List Sector)) : QueryRun α :=
  throw (.answer result)

/-- A suspension point: the query is dropped if its deadline has come. -/
def yieldAt (deadline : Option Nat) : QueryRun Unit := do
  let s ← get
  match deadline with
  | some d => if d ≤ s.now then throw .dropped else pure ()
  | none => pure ()

/-- Wait some milliseconds; the query is dropped if the wait runs past its deadline. -/
def wait (deadline : Option Nat) (ms : Nat) : QueryRun Unit := do
  if ms = 0 then pure ()
  else
    let s ← get
    match deadline with
    | some d => if d < s.now + ms then throw .dropped else set { s with now := s.now + ms }
    | none => set { s with now := s.now + ms }

/-- A store read: noted when made, it waits as the faults say, then the query takes the answer
or fails. -/
def read {α : Type} (store : FaultyStore) (deadline : Option Nat) (a : Accessor)
    (answer : FaultyStore → Except String α) : QueryRun α := do
  modify fun s => { s with service := s.service.noteRead a }
  wait deadline (store.faults.delay a)
  match answer store with
  | .ok v => pure v
  | .error message => finish (.error ⟨message⟩)

end QueryRun

/-- Each name resolved by a table, in order, keeping every id once. -/
def resolveInOrder (names : List String) (resolved : List (String × Int)) : List Int :=
  (names.filterMap fun n => resolved.lookup n).foldl (fun ids id => if ids.contains id then ids else ids ++ [id]) []

/-- The distinct values of a list, ascending. -/
def distinctSorted (xs : List Int) : List Int := collapse (xs.mergeSort (· ≤ ·))

/-- The plan of a query from its loaded rows, or the empty answer before planning. -/
def planQuery (store : FaultyStore) (deadline : Option Nat) (p : Params)
    (rows : List Application) : QueryRun SectorPlan := do
  let snapshot := Snapshot.ofApplications rows
  if p.isCustom then
    let tagset := CustomTagset.parse p.customTagset
    if tagset.isEmpty then QueryRun.finish (.ok [])
    let resolved ← QueryRun.read store deadline .resolveTagIds
      (·.resolveTagIds p.namespace_ tagset.names)
    let includes := resolveInOrder tagset.includes resolved
    let excludes := resolveInOrder tagset.excludes resolved
    if includes.isEmpty then QueryRun.finish (.ok [])
    QueryRun.yieldAt deadline
    pure (planCustomSector snapshot includes excludes)
  else
    QueryRun.yieldAt deadline
    pure (planSectors snapshot p)

/-- The sectors of a query. -/
def runQuery (store : FaultyStore) (deadline : Option Nat) (p : Params) : QueryRun (List Sector) := do
  let rows ← QueryRun.read store deadline .loadApplications
    (·.loadApplications p.namespace_ p.statusFilter)
  QueryRun.metric fun m => { m with corpusLoads := m.corpusLoads + 1 }
  if rows.isEmpty then QueryRun.finish (.ok [])
  let plan ← planQuery store deadline p rows
  QueryRun.metric fun m => { m with plans := m.plans + 1, candidateTags := plan.stats.candidates }
  if plan.sectors.isEmpty then QueryRun.finish (.ok [])
  let tagIds := distinctSorted (plan.sectors.flatMap (·.tags))
  let itemIds := distinctSorted (plan.sectors.flatMap (·.items))
  let names ← QueryRun.read store deadline .tagNames (·.tagNames tagIds)
  let attributions ← QueryRun.read store deadline .itemAttributions (·.itemAttributions itemIds)
  pure (buildSectors plan.sectors (fun t => names.lookup t) (fun i => attributions.lookup i) p.maxMappers)

/-- How a query under a deadline ends. -/
inductive QueryEnd
  | finished (result : Except QueryError (List Sector))
  | dropped

/-- The bookkeeping of a finished query: its duration, its outcome counter and its record. -/
def ServiceState.close (s : ServiceState) (result : Except QueryError (List Sector)) : ServiceState :=
  let s := s.update fun m => { m with queryDurations := m.queryDurations + 1 }
  match result with
  | .ok [] => s.update fun m => { m with emptyResults := m.emptyResults + 1 }
  | .ok sectors =>
    (s.update fun m => { m with sectorsEmitted := m.sectorsEmitted + sectors.length }).emit
      { level := .info, target := serviceTarget, message := "tag map query completed"
        fields := [("sectors", .int sectors.length)], unshown := ["elapsed_ms"] }
  | .error e =>
    (s.update fun m => { m with failures := m.failures + 1 }).emit
      { level := .warn, target := serviceTarget, message := "tag map query failed"
        fields := [("error", .str e.text)] }

/-- Serve one query with an optional deadline in milliseconds; its records are emitted in the
query's span. -/
def ServiceState.query (s : ServiceState) (store : FaultyStore) (deadline : Option Nat) (p : Params) :
    QueryEnd × ServiceState :=
  let start := s.records.size
  let s := s.update fun m => { m with queries := m.queries + 1, inflight := m.inflight + 1 }
  let (outcome, run) := (runQuery store deadline p).run.run { service := s }
  let s := run.service
  let leave (s : ServiceState) :=
    (s.update fun m => { m with inflight := m.inflight - 1 }).enclose start p.span
  match outcome with
  | .ok sectors => (.finished (.ok sectors), leave (s.close (.ok sectors)))
  | .error (.answer result) => (.finished result, leave (s.close result))
  | .error .dropped => (.dropped, leave s)

end TagAtlas
