import LoginRisk.Number.Power
import LoginRisk.Number.Decimal
import LoginRisk.Text.Alphanumeric
import LoginRisk.Text.Blank
import LoginRisk.Text.Case
import LoginRisk.Text.Search
import LoginRisk.Text.Quoted
import LoginRisk.Json.Token
import LoginRisk.Json.Skip
import LoginRisk.Json.Reader
import LoginRisk.Json.Writer
import LoginRisk.Time.Rfc3339
import LoginRisk.Net.Block
import LoginRisk.Hash.Sha256
import LoginRisk.Hash.Base64
import LoginRisk.Json.Decode
import LoginRisk.Settings.Basic
import LoginRisk.Settings.Json
import LoginRisk.Settings.Validate
import LoginRisk.Attempt.Json
import LoginRisk.Findings.Json
import LoginRisk.Risk.Action
import LoginRisk.Risk.Stage
import LoginRisk.Credential.Analyze
import LoginRisk.Threat.Detect
import LoginRisk.Assessment.Fallback
import LoginRisk.Assessment.Json
import LoginRisk.Assessment.Validate
import LoginRisk.Decision.Aggregate
import LoginRisk.Decision.Confidence
import LoginRisk.Decision.Decide
import LoginRisk.Embedding.Token
import LoginRisk.Embedding.Vector
import LoginRisk.Event
import LoginRisk.Feedback.Basic
import LoginRisk.Profile.Country
import LoginRisk.Anomaly.Detect
import LoginRisk.Embedding.Analyze
import LoginRisk.Pipeline.Error
import LoginRisk.Pipeline.Analyze
import LoginRisk.Learning.Engine
import LoginRisk.Service.Report
import LoginRisk.Service.Run
import LoginRisk.Json.Merge
import LoginRisk.Pipeline.Scripted
import LoginRisk.Settings.Load
import LoginRisk.Command.Arguments
import LoginRisk.Command.Loop
import LoginRisk.Command.Session
import LoginRisk.Profile.Place
import LoginRisk.Command.Disk
import LoginRisk.Command.Run
import LoginRisk.Main
import LoginRisk.Monitor.Json
import LoginRisk.Proofs.Assoc
import LoginRisk.Proofs.Cache.Identity
import LoginRisk.Proofs.Pipeline.Validity
import LoginRisk.Proofs.Pipeline.Failure
import LoginRisk.Proofs.Pipeline.BruteForce
import LoginRisk.Proofs.Cache.History
import LoginRisk.Proofs.Pipeline.CacheHit
import LoginRisk.Proofs.Pipeline.Isolation
import LoginRisk.Proofs.Pipeline.Counters
import LoginRisk.Proofs.Decision.Monotone
import LoginRisk.Proofs.Indicator.Feed
import LoginRisk.Proofs.Threat.History
import LoginRisk.Proofs.Json.ReadBack
import LoginRisk.Proofs.Learning.Bias
import LoginRisk.Proofs.Learning.Concurrent
import LoginRisk.Proofs.Learning.Independence
import LoginRisk.Proofs.Learning.Baseline
import LoginRisk.Proofs.Learning.Countries
import LoginRisk.Proofs.Learning.Outcomes
import LoginRisk.Proofs.Anomaly.AfterFailure
import LoginRisk.Proofs.Anomaly.Hours
import LoginRisk.Proofs.Learning.Calibration
import LoginRisk.Proofs.Service.Conservation
import LoginRisk.Proofs.Pipeline.Events
import LoginRisk.Proofs.Monitor.Health
import LoginRisk.Proofs.Learning.StoreFailure
import LoginRisk.Proofs.Profile.History
import LoginRisk.Proofs.Threat.Monotone
import LoginRisk.Proofs.Threat.MatchOrder
import LoginRisk.Proofs.Embedding.Nearest
import LoginRisk.Proofs.Embedding.Multiset
import LoginRisk.Proofs.Anomaly.Statistics
import LoginRisk.Proofs.Feedback.Accepted
import LoginRisk.Proofs.Credential.Digest
import LoginRisk.Proofs.Learning.Recall
import LoginRisk.Proofs.Window.Present
import LoginRisk.Proofs.Command.Dialogue
