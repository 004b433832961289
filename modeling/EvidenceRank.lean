import EvidenceRank.Candidate
import EvidenceRank.Citation
import EvidenceRank.Cli.Arguments
import EvidenceRank.Cli.Help
import EvidenceRank.Cli.Report
import EvidenceRank.Cli.Run
import EvidenceRank.Column
import EvidenceRank.Config.Basic
import EvidenceRank.Config.File
import EvidenceRank.Config.Validation
import EvidenceRank.Data.Dictionary
import EvidenceRank.Data.Source
import EvidenceRank.Decimal.Binary
import EvidenceRank.Decimal.Layout
import EvidenceRank.Decimal.Shortest
import EvidenceRank.Decimal.Width
import EvidenceRank.Digest.Blake3
import EvidenceRank.Document
import EvidenceRank.Error
import EvidenceRank.Expansion
import EvidenceRank.Faq.Entry
import EvidenceRank.Faq.Outlier
import EvidenceRank.Faq.Overlap
import EvidenceRank.Faq.Ranking
import EvidenceRank.Fusion
import EvidenceRank.Json.Numeral
import EvidenceRank.Json.Reader
import EvidenceRank.Json.Value
import EvidenceRank.Json.Writer
import EvidenceRank.Lists.Adjacent
import EvidenceRank.Lists.Distinct
import EvidenceRank.Lists.Dropped
import EvidenceRank.Lists.Firsts
import EvidenceRank.Lists.Images
import EvidenceRank.Lists.Ranked
import EvidenceRank.Lists.Runs
import EvidenceRank.Main
import EvidenceRank.Pipeline
import EvidenceRank.Proofs.Citation.Apart
import EvidenceRank.Proofs.Citation.Budget
import EvidenceRank.Proofs.Citation.Connected
import EvidenceRank.Proofs.Citation.Coverage
import EvidenceRank.Proofs.Citation.Lead
import EvidenceRank.Proofs.Citation.Naming
import EvidenceRank.Proofs.Citation.Scope
import EvidenceRank.Proofs.Citation.Shape
import EvidenceRank.Proofs.Citation.Trimming
import EvidenceRank.Proofs.Citation.Windows
import EvidenceRank.Proofs.Cli.Configured
import EvidenceRank.Proofs.Column.Finite
import EvidenceRank.Proofs.Column.Shape
import EvidenceRank.Proofs.Config.Usable
import EvidenceRank.Proofs.Decimal.Faithful
import EvidenceRank.Proofs.Decimal.Rounding
import EvidenceRank.Proofs.Expansion.Added
import EvidenceRank.Proofs.Expansion.Calls
import EvidenceRank.Proofs.Expansion.Context
import EvidenceRank.Proofs.Expansion.Greedy
import EvidenceRank.Proofs.Expansion.Identity
import EvidenceRank.Proofs.Expansion.Neighbours
import EvidenceRank.Proofs.Expansion.Top
import EvidenceRank.Proofs.Faq.Asking
import EvidenceRank.Proofs.Faq.Calls
import EvidenceRank.Proofs.Faq.Exact
import EvidenceRank.Proofs.Faq.Listing
import EvidenceRank.Proofs.Faq.Ranking
import EvidenceRank.Proofs.Faq.Values
import EvidenceRank.Proofs.Fusion.Attribution
import EvidenceRank.Proofs.Fusion.Channel
import EvidenceRank.Proofs.Fusion.Finite
import EvidenceRank.Proofs.Fusion.Identity
import EvidenceRank.Proofs.Fusion.Ignored
import EvidenceRank.Proofs.Fusion.Join
import EvidenceRank.Proofs.Fusion.Known
import EvidenceRank.Proofs.Fusion.Monotone
import EvidenceRank.Proofs.Fusion.Settling
import EvidenceRank.Proofs.Fusion.Table
import EvidenceRank.Proofs.Fusion.Variants
import EvidenceRank.Proofs.Pipeline.Isolation
import EvidenceRank.Proofs.Pipeline.Report
import EvidenceRank.Proofs.Records.RoundTrip
import EvidenceRank.Proofs.Reranker
import EvidenceRank.Proofs.Row
import EvidenceRank.Proofs.Score.Alike
import EvidenceRank.Proofs.Score.Exact
import EvidenceRank.Proofs.Score.Least
import EvidenceRank.Proofs.Score.Order
import EvidenceRank.Proofs.Score.Range
import EvidenceRank.Proofs.Score.Share
import EvidenceRank.Proofs.Service.Rerank
import EvidenceRank.Proofs.Service.SliceFetch
import EvidenceRank.Proofs.Text.Spacing
import EvidenceRank.Query
import EvidenceRank.Reranker
import EvidenceRank.Score
import EvidenceRank.Service.Http
import EvidenceRank.Service.Rerank
import EvidenceRank.Service.SliceFetch
import EvidenceRank.Service.Wire
import EvidenceRank.SliceFetcher
import EvidenceRank.Text.Blank
import EvidenceRank.Text.CaseTables
import EvidenceRank.Text.Composition
import EvidenceRank.Text.CompositionTables
import EvidenceRank.Text.Escaped
import EvidenceRank.Text.LowerCase
import EvidenceRank.Text.Normal
import EvidenceRank.Text.Quoted
import EvidenceRank.Text.Table
import EvidenceRank.Text.Uuid
import EvidenceRank.Url.Basic
import EvidenceRank.Url.Domain
import EvidenceRank.Url.DomainTables
import EvidenceRank.Url.Escape
import EvidenceRank.Url.Host
import EvidenceRank.Url.Path
import EvidenceRank.Url.Punycode
import EvidenceRank.Url.Reader
import EvidenceRank.Yaml.Cursor
import EvidenceRank.Yaml.Node
import EvidenceRank.Yaml.Number
import EvidenceRank.Yaml.Property
import EvidenceRank.Yaml.Scalar
import EvidenceRank.Yaml.Source
import EvidenceRank.Yaml.Token
