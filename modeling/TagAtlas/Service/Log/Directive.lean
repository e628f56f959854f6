import TagAtlas.Numeral.Real
import TagAtlas.Service.Log.Record
import TagAtlas.Text.Blank
import TagAtlas.Text.Regex
import TagAtlas.Text.Utf8
import TagAtlas.Text.WordTable
/-! Directives of a log filter and how they are read.

A directive is a bare level, or a target, then optionally a span part in brackets (a span name,
then field names in braces, each with an optional `=value`), then optionally `=level`. Levels
are `off`, `error`, `warn`, `info`, `debug` and `trace` in any letter case, or a number from 0
to 5 with an optional plus sign; a directive without a level admits every level. A field value
is a boolean, a number or a double, and otherwise a regular expression.

A directive is read from its text with surrounding blanks dropped, but the positions found in
the trimmed text are used to cut the text as given, so leading blanks shift every cut. It must
start with a letter, a digit, `-`, `:`, `_` or `[`. -/
namespace TagAtlas

/-- The verbosity of a level name in any letter case; the empty text stands for errors. -/
def levelName? (raw : String) : Option Nat :=
  match raw.toLower with
  | "" | "error" => some 1
  | "off" => some 0
  | "warn" => some 2
  | "info" => some 3
  | "debug" => some 4
  | "trace" => some 5
  | _ => none

/-- The verbosity of a text read as a level filter: a decimal number from 0 to 5 with an
optional plus sign, or else a level name. -/
def levelFilter? (raw : String) : Option Nat :=
  let digits := match raw.toList with
    | '+' :: rest => rest
    | cs => cs
  if !digits.isEmpty && digits.all Char.isDigit then
    let n := digits.foldl (fun n c => 10 * n + (c.toNat - '0'.toNat)) 0
    if n ≤ 5 then some n else levelName? raw
  else levelName? raw

/-- What a directive asks of a span field's value: a boolean, a whole number, a double (or
not-a-number) equal to within the double epsilon, or a whole-text match of a regular expression
against a string or a formatted value. -/
inductive ValueMatch
  | bool (b : Bool)
  | nat (n : Nat)
  | int (i : Int)
  | float (x : Float)
  | nan
  | pattern (source : String) (r : Text.Regex)
  deriving Inhabited

/-- The decimal digits of a text with an optional sign, and whether the sign is a minus. -/
def signedDigits (raw : String) : Option (Bool × Nat) :=
  let (minus, ds) := match raw.toList with
    | '+' :: rest => (false, rest)
    | '-' :: rest => (true, rest)
    | cs => (false, cs)
  if !ds.isEmpty && ds.all Char.isDigit then
    some (minus, ds.foldl (fun n c => 10 * n + (c.toNat - '0'.toNat)) 0)
  else none

/-- Read a field value: `true` or `false`, an unsigned 64-bit number (an optional plus sign and
digits), a signed 64-bit number, a double, and otherwise a regular expression. -/
def ValueMatch.parse? (raw : String) : Option ValueMatch :=
  if raw == "true" then some (.bool true)
  else if raw == "false" then some (.bool false)
  else
    match signedDigits raw with
    | some (false, n) =>
      if n < Nat.pow 2 64 then some (.nat n)
      else if n < Nat.pow 2 63 then some (.int n) else fallback
    | some (true, n) => if n ≤ Nat.pow 2 63 then some (.int (-(n : Int))) else fallback
    | none => fallback
where
  fallback : Option ValueMatch :=
    match Numeral.readReal raw with
    | .ok x => some (if x.isNaN then .nan else .float x)
    | .error _ => (Text.Regex.parse? raw).map (.pattern raw)

/-- The double epsilon, 2⁻⁵². -/
def doubleEpsilon : Float := Float.ofBits 0x3CB0000000000000

/-- Whether a value match accepts a span field's value. -/
def ValueMatch.accepts : ValueMatch → SpanValue → Bool
  | .nan, .float x => x.isNaN
  | .float e, .float x => (x - e).abs < doubleEpsilon
  | .pattern _ r, .text s => r.accepts s
  | .pattern _ r, .shown s => r.accepts s
  | _, _ => false

/-- Whether two value matches ask the same. -/
def ValueMatch.same : ValueMatch → ValueMatch → Bool
  | .bool a, .bool b => a == b
  | .nat a, .nat b => a == b
  | .int a, .int b => a == b
  | .float a, .float b => a == b
  | .nan, .nan => true
  | .pattern a _, .pattern b _ => a == b
  | _, _ => false

/-- A field a directive names, with what its value must be when that is given. -/
structure FieldMatch where
  name : String
  value : Option ValueMatch := none
  deriving Inhabited

/-- Whether two field matches ask the same. -/
def FieldMatch.same (a b : FieldMatch) : Bool :=
  a.name == b.name &&
    match a.value, b.value with
    | none, none => true
    | some x, some y => x.same y
    | _, _ => false

/-- Read a field of a directive: a name, then after `=` what its value must be. -/
def FieldMatch.parse? (raw : String) : Option FieldMatch :=
  match raw.splitOn "=" with
  | name :: value :: _ => (ValueMatch.parse? value).map fun v => ⟨name, some v⟩
  | name :: [] => some ⟨name, none⟩
  | [] => none

/-- One directive of a filter: an optional target, an optional span name, the fields it names
and the most verbose level admitted (0 admits nothing). -/
structure Directive where
  target : Option String := none
  span : Option String := none
  fields : List FieldMatch := []
  verbosity : Nat := 5
  deriving Inhabited

/-- Where the reading of a directive stands. -/
inductive DirectiveScan
  /-- Nothing read yet. -/
  | start
  /-- A level or a target, begun at a byte. -/
  | word (start : Nat)
  /-- A span name, begun at a byte. -/
  | span (start : Nat)
  /-- A field, begun at a byte. -/
  | field (start : Nat)
  /-- After the field list, waiting for the closing bracket. -/
  | fieldsDone
  /-- After the span part, waiting for `=`. -/
  | spanDone
  /-- A level after `=`, begun at a byte. -/
  | level (start : Nat)

/-- The text of the bytes from `a` to `b`, none when the cut splits a character. -/
def byteSlice (bytes : List Nat) (a b : Nat) : Option String :=
  let part := (bytes.drop a).take (b - a)
  if Utf8.valid part then some (String.ofList (Utf8.decodeLossy part)) else none

/-- Take one character, at byte `i` of the trimmed text, into a directive being read from the
bytes of the text as given. -/
def directiveStep (bytes : List Nat) (acc : DirectiveScan × Directive) (ic : Nat × Char) :
    Option (DirectiveScan × Directive) :=
  let (st, d) := acc
  let (i, c) := ic
  match st with
  | .start =>
    if c == '[' then some (.span (i + 1), d)
    else if c == '-' || c == ':' || c == '_' || Text.isAlphanumeric c then some (.word i, d)
    else none
  | .word s =>
    if c == '=' then (byteSlice bytes s i).map fun t => (.level (i + 1), { d with target := some t })
    else if c == '[' then (byteSlice bytes s i).map fun t => (.span (i + 1), { d with target := some t })
    else some (st, d)
  | .span s =>
    if c == ']' then (byteSlice bytes s i).map fun n => (.spanDone, { d with span := some n })
    else if c == '{' then
      (byteSlice bytes s i).map fun n =>
        (.field (i + 1), { d with span := if n.isEmpty then none else some n })
    else some (st, d)
  | .field s =>
    if c == '}' || c == ',' then
      match byteSlice bytes s i with
      | some "" | none => none
      | some text =>
        (FieldMatch.parse? text).map fun m =>
          (if c == '}' then .fieldsDone else .field (i + 1), { d with fields := d.fields ++ [m] })
    else some (st, d)
  | .fieldsDone => if c == ']' then some (.spanDone, d) else none
  | .spanDone => if c == '=' then some (.level (i + 1), d) else none
  | .level _ => some (st, d)

/-- The characters of a text with the byte at which each starts. -/
def withOffsets (cs : List Char) : List (Nat × Char) :=
  (cs.foldl (fun (acc : List (Nat × Char) × Nat) c => ((acc.2, c) :: acc.1, acc.2 + c.utf8Size))
    ([], 0)).1.reverse

/-- Read one directive. -/
def Directive.parse? (raw : String) : Option Directive := do
  let bytes := Utf8.encode raw
  let (st, d) ← (withOffsets (Text.trim raw).toList).foldlM (directiveStep bytes) (.start, {})
  match st with
  | .word s =>
    let text ← byteSlice bytes s bytes.length
    if text.isEmpty then pure { d with verbosity := 5 }
    else
      match levelFilter? text with
      | some v => pure { d with verbosity := v }
      | none => pure { d with target := some text, verbosity := 5 }
  | .level s =>
    let text ← byteSlice bytes s bytes.length
    if text.isEmpty then pure { d with verbosity := 5 }
    else
      let v ← levelFilter? text
      pure { d with verbosity := v }
  | .spanDone => pure d
  | _ => none

/-- Whether a directive judges callsites directly: it names no span and no field value. -/
def Directive.isStatic (d : Directive) : Bool := d.span.isNone && d.fields.all (·.value.isNone)

/-- Whether a directive judges from inside spans: it names a span or fields. -/
def Directive.isDynamic (d : Directive) : Bool := d.span.isSome || !d.fields.isEmpty

/-- The field names of a directive. -/
def Directive.fieldNames (d : Directive) : List String := d.fields.map (·.name)

/-- Whether two directives have the same target, span and fields, whatever their levels. -/
def Directive.sameScope (d e : Directive) : Bool :=
  d.target == e.target && d.span == e.span && d.fields.length == e.fields.length &&
    (d.fields.zip e.fields).all fun (a, b) => a.same b

end TagAtlas
