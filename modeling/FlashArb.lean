import FlashArb.Instances
import FlashArb.Abi.Decode
import FlashArb.Abi.Value
import FlashArb.App.Assemble
import FlashArb.App.Commands
import FlashArb.App.Node
import FlashArb.App.Services
import FlashArb.App.Settings
import FlashArb.App.Storage
import FlashArb.Bytes
import FlashArb.Chain.Address
import FlashArb.Chain.AddressMap
import FlashArb.Chain.BlockRange
import FlashArb.Chain.CallMsg
import FlashArb.Chain.Client
import FlashArb.Chain.Dial
import FlashArb.Chain.EventLog
import FlashArb.Chain.Header
import FlashArb.Chain.Receipt
import FlashArb.Chain.Rlp
import FlashArb.Chain.Rpc
import FlashArb.Chain.Transaction
import FlashArb.Chain.Wire
import FlashArb.Cli.Command
import FlashArb.Cli.Completion
import FlashArb.Cli.Csv
import FlashArb.Cli.Flag
import FlashArb.Cli.Request
import FlashArb.Cli.Run
import FlashArb.Config.Assignments
import FlashArb.Config.Basic
import FlashArb.Config.Dotenv
import FlashArb.Config.Formats
import FlashArb.Config.Hcl
import FlashArb.Config.Hcl.Json
import FlashArb.Config.Ini
import FlashArb.Config.Json
import FlashArb.Config.Load
import FlashArb.Config.Properties
import FlashArb.Config.Sources
import FlashArb.Config.Toml
import FlashArb.Config.Value
import FlashArb.Config.Yaml
import FlashArb.Crypto.Keccak
import FlashArb.Crypto.Secp256k1
import FlashArb.Crypto.Sha256
import FlashArb.Dex.Contract
import FlashArb.Dex.Events
import FlashArb.Dex.Events.Json
import FlashArb.Dex.Fetch
import FlashArb.Dex.Quoter
import FlashArb.Dex.Routers
import FlashArb.Engine.Checkpoint
import FlashArb.Engine.Core
import FlashArb.Engine.Dedup
import FlashArb.Engine.Evaluate
import FlashArb.Engine.Events
import FlashArb.Engine.Json
import FlashArb.Engine.Parse
import FlashArb.Engine.Resume
import FlashArb.Engine.Retry
import FlashArb.Engine.Watch
import FlashArb.Failure
import FlashArb.Failure.Json
import FlashArb.Files.Disk
import FlashArb.Files.Tree
import FlashArb.Float.Binary
import FlashArb.Float.Double
import FlashArb.Float.Shortest
import FlashArb.Float.Text
import FlashArb.Json.Bind
import FlashArb.Json.Fields
import FlashArb.Json.Reader
import FlashArb.Json.Scan
import FlashArb.Json.Strict
import FlashArb.Json.Value
import FlashArb.Json.Writer
import FlashArb.Loan.Call
import FlashArb.Loan.Guard
import FlashArb.Loan.Json
import FlashArb.Loan.Payload
import FlashArb.Log
import FlashArb.Main
import FlashArb.Measure
import FlashArb.Metrics.Collectors
import FlashArb.Metrics.Endpoint
import FlashArb.Metrics.Exposition
import FlashArb.Metrics.Json
import FlashArb.Metrics.Listen
import FlashArb.Metrics.Protobuf
import FlashArb.Net.HostPort
import FlashArb.Net.Ip
import FlashArb.Net.Url
import FlashArb.Pool.Cache
import FlashArb.Pool.Cache.Json
import FlashArb.Pool.Kind
import FlashArb.Pool.State
import FlashArb.Price.Basic
import FlashArb.Price.Units
import FlashArb.Price.WideFloat
import FlashArb.Route.Basic
import FlashArb.Route.Finder
import FlashArb.Route.Json
import FlashArb.Scripted.Answer
import FlashArb.Scripted.Chain
import FlashArb.Scripted.ChainSession
import FlashArb.Scripted.CommandLine
import FlashArb.Scripted.Database
import FlashArb.Scripted.Engine
import FlashArb.Scripted.Feed
import FlashArb.Scripted.Files
import FlashArb.Scripted.Host
import FlashArb.Scripted.Network
import FlashArb.Scripted.Node
import FlashArb.Scripted.Quoter
import FlashArb.Scripted.Replay
import FlashArb.Scripted.Rpc
import FlashArb.Scripted.Sim
import FlashArb.Scripted.Wiring
import FlashArb.Scripted.World
import FlashArb.Sim.Json
import FlashArb.Sim.LoanSearch
import FlashArb.Sim.LoanSearch.Concurrent
import FlashArb.Sim.Profit
import FlashArb.Store.Json
import FlashArb.Store.Jsonl
import FlashArb.Store.Postgres
import FlashArb.Store.Postgres.Settings
import FlashArb.Store.Record
import FlashArb.Store.Redis
import FlashArb.Submit.Fees
import FlashArb.Submit.Json
import FlashArb.Submit.Nonce
import FlashArb.Submit.Submitter
import FlashArb.Text.Case
import FlashArb.Text.Letters
import FlashArb.Text.Number
import FlashArb.Text.Printable
import FlashArb.Text.Quoted
import FlashArb.Text.Search
import FlashArb.Text.Utf8
import FlashArb.Time.Civil
import FlashArb.Time.Duration
import FlashArb.Time.Instant
import FlashArb.Time.Rfc3339
import FlashArb.Yaml.Datum
import FlashArb.Yaml.Decode
import FlashArb.Yaml.Event
import FlashArb.Yaml.Node
import FlashArb.Yaml.Resolve
import FlashArb.Yaml.Token
import FlashArb.Yaml.Token.Scalar
import FlashArb.Yaml.Token.Scanner
import FlashArb.Yaml.Token.Stream
import FlashArb.Proofs.Nonces
import FlashArb.Proofs.StripedCache
import FlashArb.Proofs.StateTriples
import FlashArb.Proofs.SubmitPhases
import FlashArb.Proofs.SubmissionTrace
import FlashArb.Proofs.NonceRecovery
import FlashArb.Proofs.RouterChoice
import FlashArb.Proofs.EngineSteps
import FlashArb.Proofs.LogHandling
import FlashArb.Proofs.SnapshotOrder
import FlashArb.Proofs.BlockBatches
import FlashArb.Proofs.CheckpointProgress
import FlashArb.Proofs.Words
import FlashArb.Proofs.AbiReading
import FlashArb.Proofs.PayloadCodec
import FlashArb.Proofs.KeccakConstants
import FlashArb.Proofs.LoanCalldata
import FlashArb.Proofs.EventCodec
import FlashArb.Proofs.RouteCandidates
import FlashArb.Proofs.LoanGrid
import FlashArb.Proofs.NetProfit
import FlashArb.Proofs.ReadOnlyCalls
import FlashArb.Proofs.RecordedHost
import FlashArb.Proofs.ScanSafety
import FlashArb.Proofs.ProfitGuard
import FlashArb.Proofs.SampleGrid
import FlashArb.Proofs.SearchOutcome
import FlashArb.Proofs.EvaluationPass
import FlashArb.Proofs.TransactionCosts
import FlashArb.Proofs.ViewReading
import FlashArb.Proofs.PoolFetch
import FlashArb.Proofs.SwapQuotes
import FlashArb.Proofs.PoolBootstrap
import FlashArb.Proofs.AddressText
import FlashArb.Proofs.DoubleOrder
import FlashArb.Proofs.ValidatedConfig
