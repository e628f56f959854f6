import TagAtlas.Json.Value
/-! Log records: a level, the module path that emitted the record (its target), a message,
named fields, and the spans the record was emitted in. A span has a name, a target, a level
and the values of its fields as a filter sees them. -/
namespace TagAtlas

/-- The severity of a record, most severe first. -/
inductive Level
  | error
  | warn
  | info
  | debug
  | trace
  deriving DecidableEq, Repr, Inhabited

namespace Level

/-- The upper-case name of a level. -/
def name : Level → String
  | error => "ERROR"
  | warn => "WARN"
  | info => "INFO"
  | debug => "DEBUG"
  | trace => "TRACE"

/-- The verbosity of a level: 1 for errors up to 5 for traces. -/
def verbosity : Level → Nat
  | error => 1
  | warn => 2
  | info => 3
  | debug => 4
  | trace => 5

end Level

/-- The value of a span field: a string, the formatted text of another value, or a double. -/
inductive SpanValue
  | text (s : String)
  | shown (s : String)
  | float (x : Float)
  deriving Repr, Inhabited

/-- A span: its name, target, level and field values. -/
structure LogSpan where
  name : String
  target : String
  level : Level
  fields : List (String × SpanValue) := []
  deriving Repr, Inhabited

/-- One log record. -/
structure LogRecord where
  level : Level
  target : String
  message : String
  fields : List (String × Json) := []
  /-- Fields the record carries but does not show, such as measured durations. -/
  unshown : List String := []
  /-- The spans the record was emitted in, outermost first. -/
  spans : List LogSpan := []
  deriving Inhabited

/-- The name of the service that writes the records. -/
def serviceName : String := "tagmap-worker"

/-- The JSON form of a record. -/
def LogRecord.toJson (r : LogRecord) : Json :=
  .obj [("level", .str r.level.name), ("target", .str r.target), ("message", .str r.message),
        ("service", .str serviceName), ("fields", .obj r.fields)]

/-- The same record emitted inside one more span, outside the spans it has. -/
def LogRecord.within (sp : LogSpan) (r : LogRecord) : LogRecord := { r with spans := sp :: r.spans }

end TagAtlas
