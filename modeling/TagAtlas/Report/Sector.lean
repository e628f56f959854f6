import TagAtlas.Json.Value
import TagAtlas.Plan.Overlap
import TagAtlas.Text.Blank
/-! Reporting planned sectors to callers: tag names in place of ids, the item count, and the
makers who appear most often among the sector's items. Sectors are numbered in plan order
and then listed by item count descending, equal counts keeping their plan order. -/
namespace TagAtlas

/-- The name that stands for an empty attribution. -/
def unknownMaker : String := "(unknown)"

/-- The makers named in an attribution: its comma-separated parts, trimmed, non-empty, each
once; the unknown maker when there is none. -/
def splitAttribution (raw : String) : List String :=
  let names := (raw.splitOn ",").foldl (fun acc part =>
    let name := Text.trim part
    if name.isEmpty || acc.contains name then acc else acc ++ [name]) []
  if names.isEmpty then [unknownMaker] else names

/-- A maker and the number of items that name them. -/
structure MakerCount where
  name : String
  count : Nat
  deriving Repr, BEq, Inhabited

/-- A sector as callers see it. -/
structure Sector where
  id : Nat
  tags : List String
  itemCount : Nat
  topMakers : List MakerCount
  deriving Repr, BEq, Inhabited

/-- Add one item's makers to the tally, keeping first-seen order. -/
def tallyNames (tally : List (String × Nat)) (names : List String) : List (String × Nat) :=
  names.foldl (fun t n =>
    if t.any (·.1 == n) then t.map (fun (m, c) => if m == n then (m, c + 1) else (m, c))
    else t ++ [(n, 1)]) tally

/-- Whether the first count ranks before the second: more items first, then the name. -/
def MakerCount.before (a b : MakerCount) : Bool := a.count > b.count || (a.count == b.count && a.name ≤ b.name)

/-- The `limit` makers named by the most items, with their counts; items without an
attribution are skipped. -/
def rankMakers (items : List Int) (attributions : Int → Option String) (limit : Nat) : List MakerCount :=
  let tally := items.foldl (fun t item =>
    match attributions item with
    | some raw => tallyNames t (splitAttribution raw)
    | none => t) []
  ((tally.map fun (n, c) => (⟨n, c⟩ : MakerCount)).mergeSort MakerCount.before).take limit

/-- The reported sectors of a plan: sectors with a named tag and an item, numbered in plan
order, by item count descending. -/
def buildSectors (plan : List PlannedSector) (tagName : Int → Option String)
    (attributions : Int → Option String) (maxMakers : Nat) : List Sector :=
  let kept := plan.foldl (fun acc p =>
    let tags := p.tags.filterMap tagName
    if tags.isEmpty || p.items.isEmpty then acc
    else acc ++ [{ id := acc.length, tags, itemCount := p.items.length
                   topMakers := rankMakers p.items attributions maxMakers : Sector }]) []
  kept.mergeSort fun a b => a.itemCount ≥ b.itemCount

/-- The JSON form of a maker count. -/
def MakerCount.toJson (m : MakerCount) : Json :=
  .obj [("name", .str m.name), ("count", .int m.count)]

/-- The JSON form of a reported sector. -/
def Sector.toJson (s : Sector) : Json :=
  .obj [("id", .int s.id), ("tags", .arr (s.tags.map .str)), ("item_count", .int s.itemCount),
        ("top_contributors", .arr (s.topMakers.map MakerCount.toJson))]

/-- The JSON form of a query's answer: its sectors. -/
def sectorsJson (sectors : List Sector) : Json := .obj [("sets", .arr (sectors.map Sector.toJson))]

end TagAtlas
