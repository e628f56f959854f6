import TagAtlas.Net.Uri
import TagAtlas.Service.Log
/-! Setting up tracing. With an exporter endpoint that is a valid URI, spans go to the exporter
and no record is printed. Otherwise the records that the log filter admits are printed as
JSON lines; setup itself logs that tracing is initialized, after a note that the exporter is
unavailable when an endpoint was given but could not be used. Setup happens once per process:
a second setup logs nothing. -/
namespace TagAtlas

/-- The target of the records setup logs. -/
def tracingTarget : String := "tagmap_worker::observability::tracing"

/-- Tracing settings: the span exporter endpoint, if any. -/
structure Tracing where
  endpoint : Option String := none
  deriving Repr, Inhabited

namespace Tracing

/-- Whether spans go to an exporter, so that no record is printed. -/
def exports (t : Tracing) : Bool := t.endpoint.any Uri.isValid

/-- The records setup logs when records are printed. -/
def startRecords (t : Tracing) : List LogRecord :=
  let unavailable : List LogRecord := if t.endpoint.isSome then
      [{ level := .info, target := tracingTarget, message := "OTLP exporter unavailable"
         fields := [("otel_enabled", .bool false), ("error", .str "failed to build OTLP span exporter")] }]
    else []
  unavailable ++
    [{ level := .info, target := tracingTarget, message := "tracing initialized"
       fields := [("otel_enabled", .bool false), ("service", .str serviceName)] }]

/-- The records printed by a process that sets up tracing and then emits `records`: none
with an exporter, and otherwise the setup records and `records` that the filter admits. -/
def printed (t : Tracing) (filter : LogFilter) (records : List LogRecord) : List LogRecord :=
  if t.exports then [] else filter.select (t.startRecords ++ records)

theorem printed_of_exports (t : Tracing) (filter : LogFilter) (records : List LogRecord)
    (h : t.exports = true) : t.printed filter records = [] := by
  simp [printed, h]

end Tracing

end TagAtlas
