import TagAtlas.Service.Log.Directive
/-! The log filter: which records are written.

A filter is a comma separated list of directives. A text with a directive that does not read is
replaced by `info`; an empty one admits nothing.

Directives without a span name and without field values are static: they judge a record or a
span directly. A static directive cares about a record whose target starts with its target and
that has every field it names; about a span it cares whatever the span's fields. Of the static
directives that care, the most specific judges: the longest target first, then the most field
names, a later directive replacing an earlier one with the same target and names.

Directives with a span name or field names are dynamic. A dynamic directive cares about a span
of its target and name that has every field it names, and then opens its level inside the span
when the span's values match every value it gives; a span opens the most verbose level any
such directive opens, and nothing when none matches. It opens that level only if it exists:
when some dynamic directive is as verbose as the span, or else when the static directives admit
it.

A record is written when a span it is in opens its level, as long as some dynamic directive is
that verbose, or else when the static directives admit it. Each set of directives admits
nothing more verbose than its most verbose directive, replaced ones included. -/
namespace TagAtlas

/-- Whether a directive's target admits a target. -/
def Directive.coversTarget (d : Directive) (target : String) : Bool :=
  match d.target with
  | some t => t.isPrefixOf target
  | none => true

/-- Whether a static directive cares about a record of a target with fields, or, without
fields, about a span of that target. -/
def Directive.cares (d : Directive) (target : String) (names : Option (List String)) : Bool :=
  d.coversTarget target &&
    match names with
    | some names => d.fieldNames.all names.contains
    | none => true

/-- Whether a dynamic directive cares about a span. -/
def Directive.caresAboutSpan (d : Directive) (sp : LogSpan) : Bool :=
  d.coversTarget sp.target && d.span.all (· == sp.name) &&
    d.fieldNames.all (sp.fields.map Prod.fst).contains

/-- Whether a span's values match every value a directive gives. -/
def Directive.valuesMatch (d : Directive) (sp : LogSpan) : Bool :=
  d.fields.all fun m =>
    match m.value with
    | none => true
    | some v => (sp.fields.lookup m.name).any v.accepts

/-- Lexicographic order on lists of texts. -/
def compareTexts : List String → List String → Ordering
  | [], [] => .eq
  | [], _ :: _ => .lt
  | _ :: _, [] => .gt
  | a :: as, b :: bs => (compare a b).then (compareTexts as bs)

/-- Order on optional values, nothing first. -/
def compareOption {α : Type} [Ord α] : Option α → Option α → Ordering
  | none, none => .eq
  | none, some _ => .lt
  | some _, none => .gt
  | some a, some b => compare a b

/-- How specific a directive is compared with another: the target's length (no target least),
then the number of field names, then the target and the names themselves. -/
def Directive.compareSpecific (d e : Directive) : Ordering :=
  (compareOption (d.target.map String.length) (e.target.map String.length)).then <|
    (compare d.fieldNames.length e.fieldNames.length).then <|
      (compareOption d.target e.target).then (compareTexts d.fieldNames e.fieldNames)

/-- A filter: its directives in the order given. -/
structure LogFilter where
  directives : List Directive
  deriving Inhabited

namespace LogFilter

/-- The filter admitting every record up to `info`. -/
def info : LogFilter := ⟨[{ verbosity := 3 }]⟩

/-- Read a filter text; none when a directive does not read. -/
def parse? (raw : String) : Option LogFilter :=
  ((raw.splitOn ",").filter (!·.isEmpty)).mapM Directive.parse? |>.map LogFilter.mk

/-- The filter of an optional setting: `info` when it is absent or does not read. -/
def ofSetting (raw : Option String) : LogFilter :=
  match raw with
  | some text => (parse? text).getD info
  | none => info

/-- The static directives, in order. -/
def statics (f : LogFilter) : List Directive := f.directives.filter (·.isStatic)

/-- The dynamic directives, a later one replacing an earlier one of the same scope. -/
def dynamics (f : LogFilter) : List Directive :=
  f.directives.foldl (fun acc d =>
    if d.isDynamic then acc.filter (!·.sameScope d) ++ [d] else acc) []

/-- The most verbose level of some directives, 0 for none. -/
def ceiling (ds : List Directive) : Nat := ds.foldl (fun m d => max m d.verbosity) 0

/-- The static directive that judges a record of a target with fields, or a span of that
target: the most specific of those that care, a later one replacing an earlier one that is as
specific. -/
def judge (f : LogFilter) (target : String) (names : Option (List String)) : Option Directive :=
  f.statics.foldl (fun best d =>
    if d.cares target names then
      match best with
      | some b => if d.compareSpecific b != .lt then some d else best
      | none => some d
    else best) none

/-- Whether the static directives admit a level for a record or span. -/
def staticAdmits (f : LogFilter) (target : String) (names : Option (List String)) (level : Level) :
    Bool :=
  level.verbosity ≤ ceiling f.statics &&
    (f.judge target names).any fun d => level.verbosity ≤ d.verbosity

/-- The level a span opens when a dynamic directive cares about it: the most verbose of those
whose values match, 0 when none does. -/
def opens? (f : LogFilter) (sp : LogSpan) : Option Nat :=
  let caring := f.dynamics.filter (·.caresAboutSpan sp)
  if caring.isEmpty then none else some (ceiling (caring.filter (·.valuesMatch sp)))

/-- Whether some dynamic directive is as verbose as a level. -/
def dynamicReaches (f : LogFilter) (level : Level) : Bool :=
  !f.dynamics.isEmpty && level.verbosity ≤ ceiling (f.directives.filter (·.isDynamic))

/-- The levels opened by the spans that exist, from the outside in. A span that no dynamic
directive cares about opens nothing, whether it exists or not. -/
def scope (f : LogFilter) (spans : List LogSpan) : List Nat :=
  spans.foldl (fun sc sp =>
    match f.opens? sp with
    | some v =>
      if f.dynamicReaches sp.level || f.staticAdmits sp.target none sp.level then sc ++ [v]
      else sc
    | none => sc) []

/-- Whether a record is admitted. -/
def admits (f : LogFilter) (r : LogRecord) : Bool :=
  (f.dynamicReaches r.level && (f.scope r.spans).any (r.level.verbosity ≤ ·)) ||
    f.staticAdmits r.target (some ("message" :: (r.fields.map Prod.fst ++ r.unshown))) r.level

/-- The records a filter admits, in order. -/
def select (f : LogFilter) (records : List LogRecord) : List LogRecord :=
  records.filter f.admits

end LogFilter

end TagAtlas
