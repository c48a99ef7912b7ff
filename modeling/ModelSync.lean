import ModelSync.Auth.Candidate
import ModelSync.Auth.Decorate
import ModelSync.Auth.Type
import ModelSync.Binary64.Basic
import ModelSync.Binary64.Shortest
import ModelSync.Client.Config
import ModelSync.Client.EnvFile
import ModelSync.Client.Load
import ModelSync.Client.LogFilter
import ModelSync.Dictionary
import ModelSync.Error
import ModelSync.Filter
import ModelSync.Json.Decode
import ModelSync.Json.Read
import ModelSync.Json.Value
import ModelSync.Json.Write
import ModelSync.Log
import ModelSync.Predicate.Basic
import ModelSync.Predicate.Json
import ModelSync.Record
import ModelSync.Request.Basic
import ModelSync.Request.Json
import ModelSync.Request.Mutation
import ModelSync.Request.Selection
import ModelSync.Request.Subscription
import ModelSync.Request.Sync
import ModelSync.Response
import ModelSync.Schema.Basic
import ModelSync.Schema.Json
import ModelSync.Schema.Name
import ModelSync.Schema.Validate
import ModelSync.Subscription.Builder
import ModelSync.Subscription.Endpoint
import ModelSync.Subscription.Error
import ModelSync.Subscription.Event
import ModelSync.Subscription.Loop
import ModelSync.Subscription.Operation
import ModelSync.Subscription.Registry
import ModelSync.Subscription.Runtime
import ModelSync.Subscription.Scenario
import ModelSync.Subscription.Session
import ModelSync.Subscription.State
import ModelSync.Text.Blank
import ModelSync.Text.Letters
import ModelSync.Text.Printable
import ModelSync.Text.Quoted
import ModelSync.Text.Ranges
import ModelSync.Proofs.Subscription.Moves
import ModelSync.Proofs.Subscription.Coherence
import ModelSync.Proofs.Subscription.Invariance
import ModelSync.Proofs.Subscription.Lifecycle
import ModelSync.Proofs.Subscription.Delivery
import ModelSync.Proofs.Schema.Selection
import ModelSync.Proofs.Schema.Validate
import ModelSync.Proofs.Dictionary
import ModelSync.Proofs.Predicate.Compile
import ModelSync.Proofs.Text.ByteOrder
import ModelSync.Proofs.Request.Variables
import ModelSync.Proofs.Request.MutationInput
import ModelSync.Proofs.Request.RecordSelection
import ModelSync.Proofs.Request.SyncQuery
import ModelSync.Proofs.Auth.OwnerDecoration
import ModelSync.Proofs.Subscription.Candidates
import ModelSync.Proofs.Predicate.Unambiguous
import ModelSync.Proofs.Auth.CandidateOrder
import ModelSync.Proofs.Subscription.Control
import ModelSync.Proofs.Request.Readability
import ModelSync.Proofs.Predicate.Combine
import ModelSync.Proofs.Subscription.Registry
