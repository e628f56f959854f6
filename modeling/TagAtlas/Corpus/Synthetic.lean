import TagAtlas.Corpus.Snapshot
import TagAtlas.Random.Uniform
/-! A seeded corpus with cluster structure, for measurements and smoke runs. Tags come in
clusters of six; each item takes a few tags of one cluster, sometimes a noise tag and a
negative row, a status and an attribution with the cluster's regular maker. The corpus is
built over any source of random draws; the seeded corpus draws from the keystream generator,
so the same seed gives the same corpus. -/
namespace TagAtlas

namespace Synthetic

open TagAtlas.Random

variable {σ : Type} (D : Draws σ)

/-- Theme words that name the clusters. -/
def themes : List String :=
  ["aim", "stream", "tech", "reading", "finger", "alt", "gimmick", "slider", "farm", "spaced"]

/-- The makers that attributions draw from. -/
def makers : List String :=
  ["Sotarks", "Nevo", "Monstrata", "Cheri", "Akitoshi", "Sing", "Kert", "Rolniczy"]

/-- Tags per cluster. -/
def clusterWidth : Nat := 6

/-- The catalogue record of tag number `index`, whose id is `index + 1`. -/
def tagRecord (index : Nat) : TagRecord :=
  { id := index + 1
    name := themes.getD (index / clusterWidth % themes.length) "" ++ "/" ++ toString index
    namespace_ := "osu" }

/-- An application of `tag` to `item`: a prediction one time in ten, else a row of a
contributor between 1 and 50. -/
def application (g : σ) (item tag : Int) : Application × σ :=
  let (predicted, g) := D.chance g 0.1
  if predicted then (Application.prediction item tag, g)
  else
    let (who, g) := D.int64Incl g 1 50
    (Application.byContributor item tag who, g)

/-- A status: twelve in twenty ranked, two approved, three loved, the rest graveyard. -/
def status (g : σ) : String × σ :=
  let (v, g) := D.int32 g 0 20
  (if v ≤ 11 then "Ranked" else if v ≤ 13 then "Approved" else if v ≤ 16 then "Loved"
    else "Graveyard", g)

/-- An attribution: empty one time in ten, a pair with a guest two in ten, a random maker
two in ten, else the cluster's regular maker. -/
def attribution (g : σ) (cluster : Nat) : String × σ :=
  let regular := makers.getD (cluster % makers.length) ""
  let (v, g) := D.int32 g 0 10
  if v = 0 then ("", g)
  else if v ≤ 2 then
    let (guest, g) := D.size g 0 makers.length
    (regular ++ ", " ++ makers.getD guest "", g)
  else if v ≤ 4 then
    let (pick, g) := D.size g 0 makers.length
    (makers.getD pick "", g)
  else (regular, g)

/-- The cluster's tags, each applied with probability 0.6; the applications in order and
whether any was made. -/
def clusterRows (g : σ) (item : Int) : List Nat → List Application × Bool × σ
  | [] => ([], false, g)
  | index :: rest =>
    let (hit, g) := D.chance g 0.6
    if hit then
      let (row, g) := application D g item (index + 1)
      let (rows, _, g) := clusterRows g item rest
      (row :: rows, true, g)
    else clusterRows g item rest

/-- The rows an item takes from its cluster, and when the draws gave none, the row of the
cluster's first tag. -/
def clusterPick (g : σ) (tags cluster : Nat) (item : Int) : List Application × σ :=
  let first := cluster * clusterWidth
  let last := min (first + clusterWidth) tags
  let (rows, assigned, g) := clusterRows D g item (List.range' first (last - first))
  if assigned then (rows, g)
  else let (row, g) := application D g item (first + 1); (rows ++ [row], g)

/-- With probability `p`, one more row, made by `row` from a tag index drawn below `tags`. -/
def extraRow (g : σ) (p : Float) (tags : Nat) (row : σ → Nat → Application × σ) :
    Option Application × σ :=
  let (hit, g) := D.chance g p
  if hit then
    let (index, g) := D.size g 0 tags
    let (r, g) := row g index
    (some r, g)
  else (none, g)

/-- The applications and record of one item: its cluster's rows, sometimes a noise row and a
negative row on any tag, then its status and attribution. -/
def itemRows (g : σ) (tags clusters : Nat) (item : Int) : List Application × ItemRecord × σ :=
  let (cluster, g) := D.size g 0 clusters
  let (rows, g) := clusterPick D g tags cluster item
  let (noise, g) := extraRow D g 0.3 tags fun g index => application D g item (index + 1)
  let (negative, g) := extraRow D g 0.05 tags fun g index =>
    ({ Application.byContributor item (index + 1) 1 with negative := true }, g)
  let (st, g) := status D g
  let (attr, g) := attribution D g cluster
  (rows ++ noise.toList ++ negative.toList, { id := item, status := st, attribution := attr }, g)

/-- Items `offset + 1`, `offset + 2`, … of the corpus, `count` of them. -/
def items (g : σ) (tags clusters : Nat) : Nat → Nat → List Application × List ItemRecord
  | 0, _ => ([], [])
  | count + 1, offset =>
    let (rows, record, g) := itemRows D g tags clusters (offset + 1)
    let (rows', records) := items g tags clusters count (offset + 1)
    (rows ++ rows', record :: records)

end Synthetic

open Synthetic in
/-- The synthetic corpus of `items` items over at least six tags, drawn from a random source. -/
def Dataset.syntheticFrom {σ : Type} (D : Random.Draws σ) (g : σ) (itemCount tagCount : Nat) :
    Dataset :=
  let tags := max tagCount clusterWidth
  let clusters := (tags + clusterWidth - 1) / clusterWidth
  let (applications, records) := Synthetic.items D g tags clusters itemCount 0
  { applications, tags := (List.range tags).map tagRecord, items := records }

/-- The synthetic corpus of `items` items over at least six tags, from `seed`. -/
def Dataset.synthetic (itemCount tagCount : Nat) (seed : UInt64) : Dataset :=
  syntheticFrom Random.ChaChaStream.draws (Random.ChaChaStream.ofNumber seed) itemCount tagCount

/-- The snapshot of the synthetic corpus, its item statuses aside. -/
def Snapshot.synthetic (itemCount tagCount : Nat) (seed : UInt64) : Snapshot :=
  Snapshot.ofApplications (Dataset.synthetic itemCount tagCount seed).applications

end TagAtlas
