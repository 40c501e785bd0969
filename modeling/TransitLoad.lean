import TransitLoad.Activity
import TransitLoad.Admission
import TransitLoad.Api
import TransitLoad.Binary64
import TransitLoad.Decimal.Shortest
import TransitLoad.Decimal.Text
import TransitLoad.Decoding.Error
import TransitLoad.Decoding.Reader
import TransitLoad.Decoding.Shape
import TransitLoad.DelayRange
import TransitLoad.Duration
import TransitLoad.Fault
import TransitLoad.Files.Folder
import TransitLoad.Files.Storage
import TransitLoad.Http
import TransitLoad.Http.Address
import TransitLoad.Json.Number
import TransitLoad.Json.Token
import TransitLoad.Json.Value
import TransitLoad.Latency.Histogram
import TransitLoad.Latency.Summary
import TransitLoad.Log
import TransitLoad.Log.Filter
import TransitLoad.Log.Pattern
import TransitLoad.Main
import TransitLoad.Program
import TransitLoad.Proofs.Collectors
import TransitLoad.Proofs.ConcurrentWriters
import TransitLoad.Proofs.Course
import TransitLoad.Proofs.Crowd
import TransitLoad.Proofs.Delays
import TransitLoad.Proofs.DomainNames
import TransitLoad.Proofs.FaultIsolation
import TransitLoad.Proofs.JsonReading
import TransitLoad.Proofs.JsonText
import TransitLoad.Proofs.JsonTokens
import TransitLoad.Proofs.JsonUnambiguity
import TransitLoad.Proofs.JsonWriting
import TransitLoad.Proofs.LoadIndependence
import TransitLoad.Proofs.Lockstep
import TransitLoad.Proofs.LongerTests
import TransitLoad.Proofs.MoreSlots
import TransitLoad.Proofs.OrderStatistics
import TransitLoad.Proofs.Passages
import TransitLoad.Proofs.Peak
import TransitLoad.Proofs.Projection
import TransitLoad.Proofs.Punctuality
import TransitLoad.Proofs.Queue
import TransitLoad.Proofs.QueueRefinement
import TransitLoad.Proofs.RecordingOrder
import TransitLoad.Proofs.ReportReading
import TransitLoad.Proofs.Reports
import TransitLoad.Proofs.RequestChain
import TransitLoad.Proofs.RoundingErrors
import TransitLoad.Proofs.RoundingTies
import TransitLoad.Proofs.RunBounds
import TransitLoad.Proofs.ServiceMaps
import TransitLoad.Proofs.Sessions
import TransitLoad.Proofs.SettingSources
import TransitLoad.Proofs.SettingValues
import TransitLoad.Proofs.ShortestDecimals
import TransitLoad.Proofs.SlotAccounting
import TransitLoad.Proofs.SlotHandover
import TransitLoad.Proofs.SlowerSamples
import TransitLoad.Proofs.Statistics
import TransitLoad.Proofs.Steps
import TransitLoad.Proofs.StopAccounts
import TransitLoad.Proofs.StopConservation
import TransitLoad.Proofs.StoredFiles
import TransitLoad.Proofs.Strides
import TransitLoad.Proofs.TickLockstep
import TransitLoad.Proofs.Ticks
import TransitLoad.Proofs.Timelines
import TransitLoad.Proofs.Truncation
import TransitLoad.Proofs.TypedDecoding
import TransitLoad.Proofs.Validity
import TransitLoad.Proofs.WalkEffects
import TransitLoad.Proofs.WalkSafety
import TransitLoad.Proofs.WalkerAccounts
import TransitLoad.Proofs.WrittenNumbers
import TransitLoad.Random
import TransitLoad.Report.Document
import TransitLoad.Report.Lines
import TransitLoad.Resource.Document
import TransitLoad.Resource.Kind
import TransitLoad.Run.State
import TransitLoad.Run.Summary
import TransitLoad.Settings.Arguments
import TransitLoad.Settings.Basic
import TransitLoad.Settings.Flag
import TransitLoad.Settings.Help
import TransitLoad.Stats
import TransitLoad.Text.CharacterSets
import TransitLoad.Text.Composition
import TransitLoad.Text.Direction
import TransitLoad.Text.DomainCharacters
import TransitLoad.Text.Joining
import TransitLoad.Text.Marks
import TransitLoad.Text.PlainForms
import TransitLoad.Text.Quoted
import TransitLoad.Text.Shown
import TransitLoad.Url.Basic
import TransitLoad.Url.Domain
import TransitLoad.Url.Host
import TransitLoad.Url.Label
import TransitLoad.Url.Parse
import TransitLoad.Url.Path
import TransitLoad.Url.Percent
import TransitLoad.Walk
