import TagAtlas.Corpus.Record
import TagAtlas.Decimal.Text
import TagAtlas.Json.Skip
import TagAtlas.Text.Quote
/-! Reading a corpus dump: a JSON document holding a record of three lists (applications,
tags, items), each element a record. A record is written as an object with named fields, in
any order, or as a list of its fields in their order; fields with a default may be left out
(from the end, in a list), other fields must be present, and no field may appear twice. Keys
that name no field are skipped after their value is checked for form.

Errors name what was met and what was expected (`invalid type: string "x", expected i64`),
and their place. A value of the wrong kind is placed just after it is read (or at its bracket,
for a list or an object). An error of a record as a whole (a missing or repeated field, a list
too short) is placed where the reader stands after trying to close the record. -/
namespace TagAtlas

namespace Dump

open Reader

/-- The text of a double met where something else was expected: shortest digits, positional
for point positions from -4 to 16 with a ".0" on whole numbers, else with an exponent. -/
def withPoint (x : Float) : String := Decimal.mentionText x

/-- The text of a number met where something else was expected. -/
def Number.unexpected : Number → String
  | .unsigned n => "integer `" ++ toString n ++ "`"
  | .negative n => "integer `" ++ toString n ++ "`"
  | .floating x => "floating point `" ++ withPoint x ++ "`"

/-- The message of a value of the wrong kind. -/
def invalidType (met expected : String) : String := "invalid type: " ++ met ++ ", expected " ++ expected

/-- Read the value at hand, which is not of the kind `expected`, and fail naming it. -/
def mismatch {α : Type} (expected : String) : Reader α := do
  match ← peek with
  | some 110 => bump; literal "ull"; fail (invalidType "null" expected)
  | some 116 => bump; literal "rue"; fail (invalidType "boolean `true`" expected)
  | some 102 => bump; literal "alse"; fail (invalidType "boolean `false`" expected)
  | some 45 => bump; let n ← number false; fail (invalidType (Number.unexpected n) expected)
  | some 34 => bump; let s ← stringBody; fail (invalidType ("string " ++ Quote.quoted s) expected)
  | some 91 => fail (invalidType "sequence" expected)
  | some 123 => fail (invalidType "map" expected)
  | some b =>
    if isDigit b then do let n ← number true; fail (invalidType (Number.unexpected n) expected)
    else fail "expected value"
  | none => fail "expected value"

/-- Look at the start of the next value, failing at the end of the text. -/
def start : Reader UInt8 := do
  match ← skipBlank with
  | some b => pure b
  | none => fail "EOF while parsing a value"

/-- Read a 64-bit signed integer. -/
def readInt : Reader Int := do
  let b ← start
  if b = 45 || isDigit b then
    if b = 45 then bump
    match ← number (b != 45) with
    | .unsigned n =>
      if n < Nat.pow 2 63 then pure n
      else fail ("invalid value: integer `" ++ toString n ++ "`, expected i64")
    | .negative n => pure n
    | .floating x => fail (invalidType ("floating point `" ++ withPoint x ++ "`") "i64")
  else mismatch "i64"

/-- Read an optional 64-bit signed integer: `null` or an integer. -/
def readOptInt : Reader (Option Int) := do
  if (← start) = 110 then
    bump
    literal "ull"
    pure none
  else some <$> readInt

/-- Read a boolean. -/
def readBool : Reader Bool := do
  match ← start with
  | 116 => bump; literal "rue"; pure true
  | 102 => bump; literal "alse"; pure false
  | _ => mismatch "a boolean"

/-- Read a string. -/
def readString : Reader String := do
  if (← start) = 34 then do bump; stringBody
  else mismatch "a string"

/-- Close a container and settle what was read inside: an error without a place takes the
place the reader reaches when trying to close. -/
def settle {α : Type} (close : Reader Unit) (inside : Except String α) : Reader α :=
  match inside with
  | .ok v => do close; pure v
  | .error message => tryCatch (do close; fail message) fun e => throw { e with message }

/-- The shape of a record: its name, its fields in order with whether each has a default,
and how the value of each field is read into the record being built. -/
structure Shape (σ : Type) where
  name : String
  fields : List (String × Bool)
  read : Nat → σ → Reader σ

/-- The error of a required field that is missing, the first in field order. -/
def Shape.missing {σ : Type} (s : Shape σ) (seen : List Nat) : Option String :=
  (s.fields.zipIdx.find? fun ((_, dflt), i) => !dflt && !seen.contains i).map
    fun ((n, _), _) => "missing field `" ++ n ++ "`"

/-- Read the members of a record written as an object, after its brace. -/
def members {σ : Type} (s : Shape σ) : Nat → Bool → σ × List Nat → Reader (Except String (σ × List Nat))
  | 0, _, acc => pure (.ok acc)
  | fuel + 1, first, (st, seen) => do
    match ← nextKey first with
    | none => pure (.ok (st, seen))
    | some key =>
      match s.fields.findIdx? (·.1 == key) with
      | some i =>
        if seen.contains i then pure (.error ("duplicate field `" ++ key ++ "`"))
        else do
          colon
          let st ← s.read i st
          members s fuel false (st, i :: seen)
      | none => do
        colon
        skipValue
        members s fuel false (st, seen)

/-- Read the fields of a record written as a list, after its bracket. -/
def elements {σ : Type} (s : Shape σ) : List ((String × Bool) × Nat) → Bool → σ → Reader (Except String σ)
  | [], _, st => pure (.ok st)
  | ((_, dflt), i) :: rest, first, st => do
    match ← nextItem first with
    | some _ => elements s rest false (← s.read i st)
    | none =>
      if dflt then elements s rest first st
      else
        let n := s.fields.length
        pure (.error ("invalid length " ++ toString i ++ ", expected struct " ++ s.name ++ " with " ++
          toString n ++ (if n = 1 then " element" else " elements")))

/-- Read a record of a shape, starting from the record holding the defaults. -/
def record {σ : Type} (s : Shape σ) (init : σ) : Reader σ := do
  match ← start with
  | 91 =>
    bump
    settle endList (← elements s s.fields.zipIdx true init)
  | 123 =>
    bump
    let inside ← members s ((← get).remaining + 1) true (init, [])
    settle endObject (inside.bind fun (st, seen) =>
      match s.missing seen with
      | some e => .error e
      | none => .ok st)
  | _ => mismatch ("struct " ++ s.name)

/-- Read a list of values. -/
def list {α : Type} (item : Reader α) : Reader (List α) := do
  let rec go : Nat → Bool → List α → Reader (List α)
    | 0, _, acc => pure acc.reverse
    | fuel + 1, first, acc => do
      match ← nextItem first with
      | none => pure acc.reverse
      | some _ => go fuel false ((← item) :: acc)
  if (← start) = 91 then
    bump
    let xs ← go ((← get).remaining + 1) true []
    endList
    pure xs
  else mismatch "a sequence"

/-- The shape of an application. -/
def applicationShape : Shape Application where
  name := "TagApplication"
  fields := [("item_id", false), ("tag_id", false), ("contributor_id", true), ("is_negative", true),
             ("is_prediction", true)]
  read
    | 0, a => do pure { a with item := ← readInt }
    | 1, a => do pure { a with tag := ← readInt }
    | 2, a => do pure { a with contributor := ← readOptInt }
    | 3, a => do pure { a with negative := ← readBool }
    | _, a => do pure { a with predicted := ← readBool }

/-- The shape of a tag. -/
def tagShape : Shape TagRecord where
  name := "TagRecord"
  fields := [("id", false), ("name", false), ("namespace", false)]
  read
    | 0, t => do pure { t with id := ← readInt }
    | 1, t => do pure { t with name := ← readString }
    | _, t => do pure { t with namespace_ := ← readString }

/-- The shape of an item. -/
def itemShape : Shape ItemRecord where
  name := "ItemRecord"
  fields := [("id", false), ("status", false), ("attribution", true)]
  read
    | 0, i => do pure { i with id := ← readInt }
    | 1, i => do pure { i with status := ← readString }
    | _, i => do pure { i with attribution := ← readString }

/-- The shape of a dump. -/
def datasetShape : Shape Dataset where
  name := "CorpusDataset"
  fields := [("applications", true), ("tags", true), ("items", true)]
  read
    | 0, d => do pure { d with applications := ← list (record applicationShape ⟨0, 0, none, false, false⟩) }
    | 1, d => do pure { d with tags := ← list (record tagShape ⟨0, "", ""⟩) }
    | _, d => do pure { d with items := ← list (record itemShape ⟨0, "", ""⟩) }

end Dump

/-- Read a corpus dump from the whole of a text; only blanks may follow it. -/
def Dataset.readDump (text : String) : Except ReadError Dataset :=
  let run : Reader Dataset := do
    let d ← Dump.record Dump.datasetShape {}
    match ← Reader.skipBlank with
    | some _ => Reader.fail "trailing characters"
    | none => pure d
  (run.run (Cursor.ofString text)).map Prod.fst

end TagAtlas
