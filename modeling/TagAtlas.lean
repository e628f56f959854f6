import TagAtlas.Cli.Replay
import TagAtlas.Cli.Report
import TagAtlas.Cli.Server
import TagAtlas.Config.Env
import TagAtlas.Corpus.Dump
import TagAtlas.Corpus.Record
import TagAtlas.Corpus.Snapshot
import TagAtlas.Corpus.Synthetic
import TagAtlas.Decimal.Shortest
import TagAtlas.Decimal.Text
import TagAtlas.Http.Form
import TagAtlas.Http.Router
import TagAtlas.Json.Forms
import TagAtlas.Json.Reader
import TagAtlas.Json.Skip
import TagAtlas.Json.Value
import TagAtlas.Main
import TagAtlas.Net.Bind
import TagAtlas.Net.Domain.Ascii
import TagAtlas.Net.Domain.Label
import TagAtlas.Net.Domain.MapTable
import TagAtlas.Net.Domain.Mapping
import TagAtlas.Net.Domain.Punycode
import TagAtlas.Net.Domain.ShiftTable
import TagAtlas.Net.SocketAddr
import TagAtlas.Net.Uri
import TagAtlas.Net.Url
import TagAtlas.Numeral.Integer
import TagAtlas.Numeral.Real
import TagAtlas.Numeral.Scaled
import TagAtlas.Plan.Assign
import TagAtlas.Plan.Association
import TagAtlas.Plan.Candidates
import TagAtlas.Plan.Components
import TagAtlas.Plan.Custom
import TagAtlas.Plan.Neighbors
import TagAtlas.Plan.Overlap
import TagAtlas.Plan.Sectors
import TagAtlas.Proofs.Assignment
import TagAtlas.Proofs.Association
import TagAtlas.Proofs.Canonical
import TagAtlas.Proofs.Clamping
import TagAtlas.Proofs.Components
import TagAtlas.Proofs.ConsolidationEnds
import TagAtlas.Proofs.CorpusIndex
import TagAtlas.Proofs.CustomQuery
import TagAtlas.Proofs.CustomTagset
import TagAtlas.Proofs.FloatArithmetic
import TagAtlas.Proofs.FloatOrder
import TagAtlas.Proofs.FloatRounding
import TagAtlas.Proofs.FloatSign
import TagAtlas.Proofs.FloatValue
import TagAtlas.Proofs.MacroCores
import TagAtlas.Proofs.Memberships
import TagAtlas.Proofs.NeighborGraph
import TagAtlas.Proofs.OverlapCover
import TagAtlas.Proofs.OverlapSectors
import TagAtlas.Proofs.RowOrder
import TagAtlas.Proofs.PairCounts
import TagAtlas.Proofs.Partition
import TagAtlas.Proofs.Placement
import TagAtlas.Proofs.QueryParams
import TagAtlas.Proofs.Reporting
import TagAtlas.Proofs.Safety
import TagAtlas.Proofs.Selection
import TagAtlas.Proofs.ServiceQuery
import TagAtlas.Proofs.SettingsChecks
import TagAtlas.Proofs.SharedNeighbors
import TagAtlas.Proofs.SlotTable
import TagAtlas.Proofs.Snapshot
import TagAtlas.Proofs.SyntheticCorpus
import TagAtlas.Proofs.StoreRows
import TagAtlas.Proofs.SupportBar
import TagAtlas.Proofs.TagsetSyntax
import TagAtlas.Proofs.Tagsets
import TagAtlas.Proofs.TopNeighbors
import TagAtlas.Proofs.TuningRanges
import TagAtlas.Query.Params
import TagAtlas.Query.Scope
import TagAtlas.Query.Tuning
import TagAtlas.Random.ChaCha
import TagAtlas.Random.Uniform
import TagAtlas.Report.Sector
import TagAtlas.Service.Log
import TagAtlas.Service.Log.Directive
import TagAtlas.Service.Log.Record
import TagAtlas.Service.Metrics
import TagAtlas.Service.Query
import TagAtlas.Service.Registry
import TagAtlas.Service.Telemetry
import TagAtlas.Store.Connection
import TagAtlas.Store.Faults
import TagAtlas.Store.Memory
import TagAtlas.Table.Slots
import TagAtlas.Text.BidiTable
import TagAtlas.Text.Blank
import TagAtlas.Text.CaseTable
import TagAtlas.Text.CodeRanges
import TagAtlas.Text.JoinTable
import TagAtlas.Text.Lower
import TagAtlas.Text.PrintTable
import TagAtlas.Text.Quote
import TagAtlas.Text.Regex
import TagAtlas.Text.Utf8
import TagAtlas.Text.WordTable
