import TagAtlas.Plan.Overlap
import TagAtlas.Text.Blank
import TagAtlas.Text.Lower
/-! Explicit tag sets. A tag set expression is a run of tokens: a quoted phrase (`"tech map"`)
or a word without blanks or quotes, either one optionally marked with `-` (exclude) or `.`
(include). Tokens are found left to right, a quoted phrase preferred where both fit. Names
are lowercased and kept once per bucket. The planned items are those carrying every include
tag and no exclude tag. -/
namespace TagAtlas

/-- Include and exclude tag names, lowercased, without repeats, in first-seen order. -/
structure CustomTagset where
  includes : List String := []
  excludes : List String := []
  deriving Repr, BEq, Inhabited

namespace CustomTagset

/-- A character that may stand in a bare word. -/
def wordChar (c : Char) : Bool := c != '"' && !Text.isBlank c

/-- A quoted phrase at the front: the opening quote, at least one other character, and the
closing quote. -/
def quotedAt : List Char → Option (List Char)
  | '"' :: rest =>
    let inner := rest.takeWhile (· != '"')
    match rest.dropWhile (· != '"') with
    | '"' :: _ => if inner.isEmpty then none else some ('"' :: inner ++ ['"'])
    | _ => none
  | _ => none

/-- The token that starts at the front of a text, if one does: a quoted phrase, marked or
not, else a word, marked or not. -/
def tokenAt (cs : List Char) : Option (List Char) :=
  let marked :=
    match cs with
    | m :: rest => if m == '-' || m == '.' then (quotedAt rest).map (m :: ·) else none
    | [] => none
  match marked <|> quotedAt cs with
  | some t => some t
  | none =>
    let word := cs.takeWhile wordChar
    if word.isEmpty then none else some word

/-- The tokens of a text, left to right, skipping `skip` characters first. -/
def tokensFrom : Nat → List Char → List (List Char)
  | _, [] => []
  | skip + 1, _ :: rest => tokensFrom skip rest
  | 0, c :: rest =>
    match tokenAt (c :: rest) with
    | some tok => tok :: tokensFrom (tok.length - 1) rest
    | none => tokensFrom 0 rest

/-- Strip every leading and trailing copy of a character. -/
def stripChar (c : Char) (cs : List Char) : List Char :=
  ((cs.dropWhile (· == c)).reverse.dropWhile (· == c)).reverse

/-- The name a token body stands for: trimmed, unquoted, lowercased. -/
def nameOf (body : List Char) : String :=
  let inner := stripChar '\'' (stripChar '"' (Text.trim (String.ofList body)).toList)
  Text.lowercase (Text.trim (String.ofList inner))

/-- Add a name to a bucket unless it is empty or already there. -/
def addName (bucket : List String) (name : String) : List String :=
  if name.isEmpty || bucket.contains name then bucket else bucket ++ [name]

/-- Read a tag set expression. -/
def parse (raw : String) : CustomTagset :=
  (tokensFrom 0 raw.toList).foldl (fun ts tok =>
    match (Text.trim (String.ofList tok)).toList with
    | '-' :: body => { ts with excludes := addName ts.excludes (nameOf body) }
    | '.' :: body => { ts with includes := addName ts.includes (nameOf body) }
    | body => { ts with includes := addName ts.includes (nameOf body) }) {}

/-- Whether no tag is included. -/
def isEmpty (t : CustomTagset) : Bool := t.includes.isEmpty

/-- Every name to resolve: includes, then excludes. -/
def names (t : CustomTagset) : List String := t.includes ++ t.excludes

end CustomTagset

/-- The items carrying every include tag and no exclude tag, gathered from the smallest include
set and sorted ascending; none when nothing is included or an include tag has no items. -/
def planCustom (s : Snapshot) (includes excludes : List Int) : List Int :=
  if includes.isEmpty then []
  else
    match includes.mapM (fun t => (s.holders t).filter (·.size != 0)) with
    | some sets =>
      match sets.mergeSort sizeLE with
      | base :: rest =>
        let excluded := ((excludes.filterMap s.holders).flatMap SlotTable.keys).foldl
          (fun set i => set.insert i (hashId i) ()) ({} : IdSet)
        (base.keys.filter fun i =>
          rest.all (·.contains i (hashId i)) && !excluded.contains i (hashId i)).mergeSort (· ≤ ·)
      | [] => []
    | none => []

end TagAtlas
